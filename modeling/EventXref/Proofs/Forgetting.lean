import EventXref.Proofs.Rescan

/-!
Rescans forget the past. What a scan finds depends on the files, the grammars to be had and what is
open, and on nothing that was found before, nor on the order in which the files of a resource are
read. So servers that agree on these find the same and end up with the same index, and a rescan that
is made again changes nothing. Only which of several folders is named that cannot be listed is open.
-/
namespace EventXref

theorem Cache.openEntries_congr {c c' : Cache} (live : ∀ u, c'.live? u = c.live? u) :
    c'.openEntries = c.openEntries := by
  have same : c'.clearClosed.entries = c.clearClosed.entries := by
    apply Std.ExtTreeMap.ext_getElem?
    intro u
    simp only [clearClosed, Std.ExtTreeMap.getElem?_filter']
    exact live u
  rw [openEntries, openEntries, same]

namespace Server

variable {σ : Type} {s s' s'' : Server σ} {files : FileTree} {path : Path} {d : Document}
  {found : List Occurrence} {o : Occurrence}

/-- Servers that may differ in the index, in entries of closed files, in the states of documents and
in grammars that are loaded, as long as a request for a grammar is answered the same. -/
structure Alike (files : FileTree) (s s' : Server σ) : Prop where
  config : s'.config = s.config
  patterns : s'.patterns = s.patterns
  excludes : s'.excludes = s.excludes
  provider : s'.tokenizer.registry.provider = s.tokenizer.registry.provider
  answers : ∀ language,
    s'.tokenizer.registry.answer? files language = s.tokenizer.registry.answer? files language
  tracked : ∀ u, s'.tokenizer.isTracked u = s.tokenizer.isTracked u
  live : ∀ u, s'.cache.live? u = s.cache.live? u

theorem Alike.refl (files : FileTree) (s : Server σ) : Alike files s s :=
  ⟨rfl, rfl, rfl, rfl, fun _ => rfl, fun _ => rfl, fun _ => rfl⟩

theorem Alike.symm (alike : Alike files s s') : Alike files s' s :=
  ⟨alike.config.symm, alike.patterns.symm, alike.excludes.symm, alike.provider.symm,
    fun l => (alike.answers l).symm, fun u => (alike.tracked u).symm, fun u => (alike.live u).symm⟩

theorem Alike.trans (first : Alike files s s') (second : Alike files s' s'') :
    Alike files s s'' :=
  ⟨second.config.trans first.config, second.patterns.trans first.patterns,
    second.excludes.trans first.excludes, second.provider.trans first.provider,
    fun l => (second.answers l).trans (first.answers l),
    fun u => (second.tracked u).trans (first.tracked u),
    fun u => (second.live u).trans (first.live u)⟩

theorem Alike.languageOf? (alike : Alike files s s') (path : Path) :
    s'.languageOf? path = s.languageOf? path := by
  rw [Server.languageOf?, Server.languageOf?, alike.provider]

theorem Alike.shouldSkip (alike : Alike files s s') (path : Path) (language : Option String) :
    s'.shouldSkip path language = s.shouldSkip path language := by
  simp only [Server.shouldSkip, alike.excludes, alike.patterns, alike.languageOf?]

theorem Alike.roots (alike : Alike files s s') : s'.roots = s.roots := by
  rw [Server.roots, Server.roots, alike.config]

theorem Alike.fileToRead? (alike : Alike files s s') (path : Path) :
    s'.fileToRead? files path = s.fileToRead? files path := by
  simp only [Server.fileToRead?, alike.shouldSkip, alike.live, alike.tracked, alike.languageOf?]

theorem Alike.openFile? (alike : Alike files s s') (path : Path) :
    s'.openFile? path = s.openFile? path := by
  simp only [Server.openFile?, alike.shouldSkip, alike.live]

theorem Alike.shown (alike : Alike files s s') (d : Document) :
    s'.shown files d = s.shown files d := by
  have answer : s'.tokenizer.registry.scopeAt files d = s.tokenizer.registry.scopeAt files d := by
    funext p
    simp only [Registry.scopeAt, alike.answers]
  rw [Server.shown, Server.shown, answer, alike.patterns, alike.config]

theorem Alike.gathered (alike : Alike files s s') (found : List Occurrence) :
    Server.gathered s'.cache found = Server.gathered s.cache found := by
  rw [Server.gathered, Server.gathered, Cache.openEntries_congr alike.live]

/-- An occurrence that is there: in a document that is open, or in a file. -/
def Shows (s : Server σ) (files : FileTree) (o : Occurrence) : Prop :=
  (∃ u e, s.cache.live? u = some e ∧ o ∈ e.occurrences) ∨
    ∃ path d, s.IsFile files path d ∧ o ∈ s.shown files d

theorem Alike.shows (alike : Alike files s s') (shows : s'.Shows files o) : s.Shows files o := by
  rcases shows with ⟨u, e, live, member⟩ | ⟨path, d, isFile, member⟩
  · exact .inl ⟨u, e, alike.live u ▸ live, member⟩
  · exact .inr ⟨path, d, isFile.earlier (.refl _) alike.provider, alike.shown d ▸ member⟩

/-- The host leaves the files alone. -/
def Steady (react : String → Reaction) : Prop := ∀ message, (react message).removed = []

/-- Hosts that stop a scan alike, if they do, and leave the files alone. The turns and where files
stand when they are given up may differ. -/
structure Concur (react react' : String → Reaction) : Prop where
  steady : Steady react
  steady' : Steady react'
  cancels : ∀ message, (react' message).cancels = (react message).cancels
  failure : ∀ message, (react' message).failure = (react message).failure

theorem alike_scanStart (s : Server σ) (files : FileTree) (isCancelled : Bool) :
    Alike files s (s.scanStart files isCancelled).parser :=
  ⟨rfl, rfl, rfl, rfl, fun _ => rfl, fun _ => rfl, s.cache.live?_clearClosed⟩

structure Rereads (files : FileTree) (a : ScanState (Server σ)) (found : List Occurrence)
    (b : ScanState (Server σ)) : Prop where
  stays : b.files = files
  alike : Alike files a.parser b.parser
  shows : ∀ o ∈ found, a.parser.Shows files o

theorem Rereads.trans {a b c : ScanState (Server σ)} {more : List Occurrence}
    (first : Rereads files a found b) (second : Rereads files b more c) :
    Rereads files a (found ++ more) c := by
  refine ⟨second.stays, first.alike.trans second.alike, ?_⟩
  intro o member
  rcases List.mem_append.mp member with before | behind
  · exact first.shows o before
  · exact first.alike.shows (second.shows o behind)

theorem Rereads.reorder {a b : ScanState (Server σ)} {found' : List Occurrence}
    (rereads : Rereads files a found b) (perm : found.Perm found') : Rereads files a found' b :=
  ⟨rereads.stays, rereads.alike, fun o member => rereads.shows o (perm.mem_iff.mpr member)⟩

variable [DecidableEq σ]

theorem alike_extractFile (s : Server σ) (files : FileTree) (path : Path) :
    Alike files s (s.extractFile files path).2 := by
  obtain ⟨documents, provider⟩ := s.extractFile_documents files path
  have tracked : ∀ u, (s.extractFile files path).2.tokenizer.isTracked u =
      s.tokenizer.isTracked u := fun u => congrArg (·.contains u) documents
  have live := (s.extractFile_spares files path).live
  cases read : s.fileToRead? files path with
  | none =>
    simp only [extractFile, read]
    exact .refl files s
  | some d =>
    obtain ⟨t, reading, result, -⟩ := extractFile_eq read
    rw [result] at provider tracked live ⊢
    exact ⟨rfl, rfl, rfl, provider, reading.later.answer?_eq, tracked, live⟩

theorem Alike.extractFile (alike : Alike files s s') (path : Path) :
    (s'.extractFile files path).1 = (s.extractFile files path).1 := by
  have same := alike.fileToRead? path
  cases read : s.fileToRead? files path with
  | none =>
    rw [read] at same
    simp only [Server.extractFile, read, same, alike.openFile?]
  | some d =>
    rw [read] at same
    obtain ⟨t, -, result, -⟩ := extractFile_eq read
    obtain ⟨t', -, result', -⟩ := extractFile_eq same
    rw [result, result', alike.shown]

/-- States of scans that are alike and have the same to go by. -/
structure Level (files : FileTree) (a b : ScanState (Server σ)) : Prop where
  here : a.files = files
  there : b.files = files
  cancelled : a.isCancelled = b.isCancelled
  alike : Alike files a.parser b.parser

theorem Alike.inStep (alike : Alike files s s') {react react' : String → Reaction}
    (concur : Concur react react') (id id' : Nat) :
    Scanner.InStep files (s.scanner id react) (s'.scanner id' react') (Level files) where
  excluded := by simp only [scanner, alike.excludes]
  manifests := by simp only [scanner, alike.config]
  failure := funext fun message => (concur.failure message).symm
  files level := ⟨level.here, level.there⟩
  cancelled level := level.cancelled
  found path level := by
    simp only [scanner, level.here, level.there, level.alike.extractFile path]
  -- A server stays alike to what it was when it reads a file, so it stays alike to the other one.
  parse path level := by
    obtain ⟨here, there, cancelled, alike⟩ := level
    refine ⟨here, there, cancelled, ?_⟩
    simp only [scanner, here]
    exact (alike_extractFile _ files path).symm.trans alike
  parse' path level := by
    obtain ⟨here, there, cancelled, alike⟩ := level
    refine ⟨here, there, cancelled, ?_⟩
    simp only [scanner, there]
    exact alike.trans (alike_extractFile _ files path)
  announce message level := by
    obtain ⟨here, there, cancelled, alike⟩ := level
    simp only [scanner, concur.steady message, concur.steady' message, List.foldl_nil, cancelled,
      concur.cancels]
    exact ⟨here, there, rfl, alike.config, alike.patterns, alike.excludes, alike.provider,
      alike.answers, alike.tracked, alike.live⟩

/-- A folder of the resource in `unit` is to be listed, and cannot be. -/
def Stuck (s : Server σ) (files : FileTree) (unit dir : Path) : Prop :=
  (s.scanner 0 fun _ => .nothing).Stuck files unit dir

theorem stuck_of_scanner {id : Nat} {react : String → Reaction} {unit dir : Path}
    (stuck : (s.scanner id react).Stuck files unit dir) : s.Stuck files unit dir := by
  obtain ⟨part, member, blocks⟩ := stuck
  have excluded : (s.scanner id react).isExcluded =
      (s.scanner 0 fun _ => .nothing).isExcluded := rfl
  rw [Scanner.partsBelow_congr excluded] at member
  exact ⟨part, member, blocks⟩

theorem Alike.scanned (alike : Alike files s s') (isCancelled : Bool)
    {react react' : String → Reaction} (concur : Concur react react') :
    Scanner.SameFor ((s.scanner (s.progress.start "Parsing resources").begun react).Akin files)
        (Level files) (s.scanned files isCancelled react) (s'.scanned files isCancelled react') ∧
      ((∀ message, (react' message).turns = (react message).turns) →
        Scanner.SameFor Eq (Level files) (s.scanned files isCancelled react)
          (s'.scanned files isCancelled react')) := by
  have start : Level files (s.scanStart files isCancelled) (s'.scanStart files isCancelled) :=
    ⟨rfl, rfl, rfl, ((s.alike_scanStart files isCancelled).symm.trans alike).trans
      (s'.alike_scanStart files isCancelled)⟩
  have inStep := alike.inStep concur (s.progress.start "Parsing resources").begun
    (s'.progress.start "Parsing resources").begun
  simp only [Server.scanned, alike.roots]
  refine ⟨?_, fun same => ?_⟩
  · exact inStep.scanAll (fun _ => .inl rfl)
      (fun message unit a b level going => inStep.scanUnit _ _ unit level going) s.roots start
  · refine inStep.scanAll (fun _ => rfl) (fun message unit a b level _ => ?_) s.roots start
    have turns : (s'.scanner (s'.progress.start "Parsing resources").begun react').turns message =
        (s.scanner (s.progress.start "Parsing resources").begun react).turns message := same message
    rw [turns]
    exact inStep.scanUnit_same_turns _ _ unit level

theorem rescan_answer (s : Server σ) (files : FileTree) (isCancelled : Bool)
    (react : String → Reaction) :
    (s.rescan files isCancelled react).1 = (s.scanned files isCancelled react).1 := by
  obtain ⟨last, progress, ⟨x, scan, result⟩ | ⟨found, scan, result⟩⟩ :=
    s.rescan_cases files isCancelled react
  · rw [scan, result]
  · rw [scan, result]

theorem rescan_eq_ok {isCancelled : Bool} {react : String → Reaction} {after : Server σ}
    {left : FileTree} (succeeds : s.rescan files isCancelled react = (.ok found, after, left)) :
    ∃ last progress, s.scanned files isCancelled react = (.ok found, last) ∧
      left = last.files ∧ after = { last.parser with
        progress, index := Index.ofDocuments (gathered last.parser.cache found).toList } := by
  obtain ⟨last, progress, ⟨x, -, result⟩ | ⟨more, scan, result⟩⟩ :=
    s.rescan_cases files isCancelled react
  · rw [result] at succeeds
    cases succeeds
  · rw [result] at succeeds
    cases succeeds
    exact ⟨last, progress, scan, rfl, rfl⟩

/-- Answers of two scans: they found the same, or both failed at folders of one resource. -/
structure AnswersAlike (s : Server σ) (files : FileTree)
    (answer answer' : Except ScanError (List Occurrence)) : Prop where
  found : ∀ found, answer = .ok found ↔ answer' = .ok found
  failed : ∀ x x', answer = .error x → answer' = .error x' →
    x = x' ∨ ∃ unit dir dir', x = .unlisted dir ∧ x' = .unlisted dir' ∧
      s.Stuck files unit dir ∧ s.Stuck files unit dir'

theorem AnswersAlike.eq {answer answer' : Except ScanError (List Occurrence)}
    (agrees : s.AnswersAlike files answer answer')
    (lone : ∀ unit dir dir', s.Stuck files unit dir → s.Stuck files unit dir' → dir = dir') :
    answer = answer' := by
  cases answer with
  | ok found => exact ((agrees.found found).mp rfl).symm
  | error x =>
    cases answer' with
    | ok found => exact (agrees.found found).mpr rfl
    | error x' =>
      rcases agrees.failed x x' rfl rfl with rfl | ⟨unit, dir, dir', rfl, rfl, stuck, stuck'⟩
      · rfl
      · rw [lone unit dir dir' stuck stuck']

theorem Alike.rescan (alike : Alike files s s') (isCancelled : Bool)
    {react react' : String → Reaction} (concur : Concur react react') :
    s.AnswersAlike files (s.rescan files isCancelled react).1 (s'.rescan files isCancelled react').1 ∧
      ∀ found after left, s.rescan files isCancelled react = (.ok found, after, left) →
        (s'.rescan files isCancelled react').2.1.index = after.index := by
  have same := (alike.scanned isCancelled concur).1
  constructor
  · rw [rescan_answer, rescan_answer]
    generalize s.scanned files isCancelled react = r at same
    generalize s'.scanned files isCancelled react' = r' at same
    cases same with
    | ok level found => exact ⟨fun _ => .rfl, fun _ _ never => nomatch never⟩
    | error a b akin =>
      refine ⟨fun found => ⟨fun never => (nomatch never), fun never => (nomatch never)⟩, ?_⟩
      rintro _ _ ⟨⟩ ⟨⟩
      refine akin.imp_right ?_
      rintro ⟨unit, dir, dir', here, there, stuck, stuck'⟩
      exact ⟨unit, dir, dir', here, there, stuck_of_scanner stuck, stuck_of_scanner stuck'⟩
  · intro found after left succeeds
    obtain ⟨last, progress, scan, -, rfl⟩ := rescan_eq_ok succeeds
    obtain ⟨last', progress', ⟨x, scan', -⟩ | ⟨found', scan', result'⟩⟩ :=
      s'.rescan_cases files isCancelled react'
    all_goals
      rw [scan, scan'] at same
      cases same
    rename_i level
    rw [result']
    simp only [level.alike.gathered]

end Server

end EventXref
