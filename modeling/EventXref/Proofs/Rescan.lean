import EventXref.Proofs.Calls
import EventXref.Proofs.ClosedFiles

/-!
What a scan of the workspace may touch. A file may be read more than once, under paths that differ
in parts leading nowhere, and files and grammars may be gone by then; as long as a file can be read
it shows the same, so the entries of the cache stay what the scan has found. A scan that succeeds
leaves no states behind; one that fails may leave those of files that were being read.
-/
namespace EventXref

theorem Cache.get?_insertClosed (c : Cache) (u v : Uri) (found : List Occurrence) :
    (c.insertClosed u found).get? v =
      if u = v then some ⟨closedVersion, found⟩ else c.get? v := by
  simp only [get?, insertClosed, Std.ExtTreeMap.getElem?_insert, Std.LawfulEqCmp.compare_eq_iff_eq]

theorem Cache.version_of_clearClosed {c : Cache} {u : Uri} {e : CacheEntry}
    (stored : c.clearClosed.get? u = some e) : e.version ≠ closedVersion := by
  simp only [get?, clearClosed, Std.ExtTreeMap.getElem?_filter'] at stored
  simpa using (Option.filter_eq_some_iff.mp stored).2

namespace Server

variable {σ : Type} {s s' : Server σ} {files files' : FileTree} {path path' : Path}
  {d d' : Document} {u : Uri} {found : List Occurrence} {o : Occurrence} {c : Cache}

theorem Spares.get?_iff (spares : s.Spares s') {e : CacheEntry}
    (live : e.version ≠ Cache.closedVersion) :
    s'.cache.get? u = some e ↔ s.cache.get? u = some e := by
  have there : ∀ c : Cache, c.live? u = some e ↔ c.get? u = some e := fun c => by
    simp [c.live?_eq_some_iff, live]
  rw [← there, ← there, spares.live]

theorem mem_byDocument : o ∈ (byDocument found)[u]?.getD [] ↔ o ∈ found ∧ o.uri = u := by
  have run : ∀ m : Contributions, o ∈ ((found.foldl (fun m o =>
      m.alter o.uri fun before => some (before.getD [] ++ [o])) m : Contributions)[u]?).getD [] ↔
        o ∈ m[u]?.getD [] ∨ o ∈ found ∧ o.uri = u := by
    induction found with
    | nil => simp
    | cons next found ih =>
      intro m
      rw [List.foldl_cons, ih, Std.ExtTreeMap.getElem?_alter]
      by_cases same : next.uri = u
      · subst same
        simp only [Std.ReflCmp.compare_self, if_true, Option.getD_some, List.mem_append,
          List.mem_cons]
        grind
      · simp only [Std.LawfulEqCmp.compare_eq_iff_eq, same, if_false, List.mem_cons]
        grind
  rw [byDocument, run]
  simp

theorem gathered_closed (closed : c.live? u = none) (found : List Occurrence) :
    (gathered c found)[u]?.getD [] = (byDocument found)[u]?.getD [] := by
  have folded := Contributions.getD_foldl Contributions.getD_insert c.openEntries_distinct
    (byDocument found) u []
  refine folded.2 ?_
  intro member
  obtain ⟨⟨v, more⟩, entry, rfl⟩ := List.mem_map.mp member
  obtain ⟨e, live, -⟩ := (c.mem_openEntries v).mp entry
  rw [closed] at live
  cases live

/-- What a new index shows: of an open document what its entry holds, of any other what was found
in it. -/
theorem has_gathered (own : c.Own) :
    (Contributions.ofDocuments (gathered c found).toList).Has o ↔
      (∃ e, c.live? o.uri = some e ∧ o ∈ e.occurrences) ∨ c.live? o.uri = none ∧ o ∈ found := by
  have owned := (represents_gathered (fun _ _ live => own.live live) found).owned
  have here := owned.has_of_uri (o := o) (u := o.uri)
  simp only [and_true, Contributions.getD_ofDocuments_toList] at here
  rw [here]
  cases live : c.live? o.uri with
  | some e => simp [gathered_live live]
  | none => simp [gathered_closed live, mem_byDocument]

/-- The document that a file would be read as. -/
structure IsFile (s : Server σ) (files : FileTree) (path : Path) (d : Document) : Prop where
  uri : Uri.ofFilePath? path = some d.uri
  language : s.languageOf? path = some d.language
  version : d.version = Cache.closedVersion
  text : ∃ text, files.readText? path = some text ∧ d.text = text.toList

theorem isFile_of_read (read : s.fileToRead? files path = some d) : s.IsFile files path d := by
  obtain ⟨-, uri, -, -, language, version, text⟩ := fileToRead?_eq_some.mp read
  exact ⟨uri, language, version, text⟩

theorem IsFile.earlier (isFile : s'.IsFile files' path d) (shrinks : files.Shrinks files')
    (provider : s'.tokenizer.registry.provider = s.tokenizer.registry.provider) :
    s.IsFile files path d := by
  obtain ⟨text, read, content⟩ := isFile.text
  refine ⟨isFile.uri, ?_, isFile.version, text, shrinks.readText? read, content⟩
  rw [← isFile.language, languageOf?, languageOf?, provider]

/-- One URI, one document. -/
theorem IsFile.unique (first : s.IsFile files path d) (second : s.IsFile files path' d')
    (uri : d'.uri = d.uri) : d' = d := by
  obtain ⟨text, read, content⟩ := first.text
  obtain ⟨text', read', content'⟩ := second.text
  have named : Uri.ofFilePath? path' = some d.uri := uri ▸ second.uri
  -- Paths with one URI may differ in parts that lead nowhere; they are read alike.
  have same : text = text' :=
    FileTree.readText?_of_steps (Uri.steps_of_ofFilePath? first.uri named) read read'
  have language : some d.language = some d'.language := by
    rw [← first.language, ← second.language, languageOf?, languageOf?,
      Path.extension?_congr (Uri.components_of_ofFilePath? first.uri named)]
  have version : d.version = d'.version := first.version.trans second.version.symm
  obtain ⟨_, _, _, _⟩ := d
  obtain ⟨_, _, _, _⟩ := d'
  simp_all

/-- What is kept of closed files is what reading them would show, now and later. -/
def Current (s : Server σ) (files : FileTree) : Prop :=
  ∀ u e, s.cache.get? u = some e → e.version = Cache.closedVersion →
    ∀ files' r' path d, s.tokenizer.registry.Later files files' r' → s.IsFile files' path d →
      d.uri = u → (Extraction.reference s.patterns s.config.maxFileSize (r'.scopeAt files' d) d
        none).occurrences = e.occurrences

/-- A part of a scan that succeeds: no states are left behind, and the entries of the cache are
those there were and what was found. -/
structure Gathers (a : ScanState (Server σ)) (found : List Occurrence)
    (b : ScanState (Server σ)) : Prop where
  documents : b.parser.tokenizer.documents = a.parser.tokenizer.documents
  current : b.parser.Current b.files
  own : b.parser.cache.Own
  kept : ∀ u e, a.parser.cache.get? u = some e → b.parser.cache.get? u = some e
  gained : ∀ u e, b.parser.cache.get? u = some e →
    a.parser.cache.get? u = some e ∨ ∀ o ∈ e.occurrences, o ∈ found
  held : ∀ o ∈ found, ∃ e, b.parser.cache.get? o.uri = some e ∧ o ∈ e.occurrences

theorem Gathers.trans {a b c : ScanState (Server σ)} {more : List Occurrence}
    (first : Gathers a found b) (second : Gathers b more c) : Gathers a (found ++ more) c := by
  refine ⟨second.documents.trans first.documents, second.current, second.own, ?_, ?_, ?_⟩
  · exact fun u e stored => second.kept u e (first.kept u e stored)
  · intro u e stored
    rcases second.gained u e stored with before | new
    · rcases first.gained u e before with start | new
      · exact .inl start
      · exact .inr fun o member => List.mem_append_left _ (new o member)
    · exact .inr fun o member => List.mem_append_right _ (new o member)
  · intro o member
    rcases List.mem_append.mp member with here | there
    · obtain ⟨e, stored, inside⟩ := first.held o here
      exact ⟨e, second.kept _ e stored, inside⟩
    · exact second.held o there

theorem Gathers.reorder {a b : ScanState (Server σ)} {found' : List Occurrence}
    (gathers : Gathers a found b) (perm : found.Perm found') : Gathers a found' b where
  documents := gathers.documents
  current := gathers.current
  own := gathers.own
  kept := gathers.kept
  gained u e stored :=
    (gathers.gained u e stored).imp_right fun new o member => perm.mem_iff.mp (new o member)
  held o member := gathers.held o (perm.mem_iff.mpr member)

theorem gathers_of_held {a : ScanState (Server σ)} (current : a.parser.Current a.files)
    (own : a.parser.cache.Own)
    (held : ∀ o ∈ found, ∃ e, a.parser.cache.get? o.uri = some e ∧ o ∈ e.occurrences) :
    Gathers a found a :=
  ⟨rfl, current, own, fun _ _ stored => stored, fun _ _ stored => .inl stored, held⟩

theorem Current.shrinks (current : s.Current files) (shrinks : files.Shrinks files') :
    s.Current files' := by
  intro u e stored closed files'' r'' path d later
  have before := Registry.later_of_loaded (r := s.tokenizer.registry) shrinks rfl rfl rfl
  exact current u e stored closed files'' r'' path d (before.trans later)

theorem Current.report (current : s.Current files) (progress : Progress) :
    Current { s with progress } files :=
  fun u e stored closed files' r' path d later isFile =>
    current u e stored closed files' r' path d later (isFile.earlier (.refl _) rfl)

theorem Current.keepClosed {t : Tokenizer σ} (current : s.Current files)
    (read : s.fileToRead? files path = some d) (reading : s.tokenizer.Reading files d t)
    (settles : ∀ files' r', t.registry.Later files files' r' →
      (Extraction.reference s.patterns s.config.maxFileSize (r'.scopeAt files' d) d
        none).occurrences = s.shown files d) :
    Current (s.keepClosed d.uri (s.shown files d) t) files := by
  intro u e stored closed files' r' path' d' later isFile uri
  have stored : (s.cache.insertClosed d.uri (s.shown files d)).get? u = some e := stored
  have later : t.registry.Later files files' r' := later
  rw [Cache.get?_insertClosed] at stored
  have isFile : s.IsFile files' path' d' := isFile.earlier (.refl _) reading.later.provider
  split at stored
  · -- The new entry; any other path to the file would be read as the same document.
    rename_i here
    cases Option.some.inj stored
    have same : d' = d :=
      (isFile_of_read read).unique (isFile.earlier later.shrinks rfl) (uri.trans here.symm)
    subst same
    exact settles files' r' later
  · exact current u e stored closed files' r' path' d' (reading.later.trans later) isFile uri

/-- What a scan may do to the states that are stored: they stay, and states of files that were to be
read may be left behind. -/
structure Leaves (a b : ScanState (Server σ)) : Prop where
  shrinks : a.files.Shrinks b.files
  provider : b.parser.tokenizer.registry.provider = a.parser.tokenizer.registry.provider
  kept : ∀ (u : Uri) states, a.parser.tokenizer.documents[u]? = some states →
    b.parser.tokenizer.documents[u]? = some states
  gained : ∀ (u : Uri) states, b.parser.tokenizer.documents[u]? = some states →
    a.parser.tokenizer.documents[u]? = some states ∨
      ∃ path d, a.parser.IsFile a.files path d ∧ d.uri = u ∧ states.Sound d

theorem leaves_of_documents {a b : ScanState (Server σ)} (shrinks : a.files.Shrinks b.files)
    (provider : b.parser.tokenizer.registry.provider = a.parser.tokenizer.registry.provider)
    (same : b.parser.tokenizer.documents = a.parser.tokenizer.documents) : Leaves a b := by
  refine ⟨shrinks, provider, ?_, ?_⟩
  · intro u states stored
    rwa [same]
  · intro u states stored
    rw [same] at stored
    exact .inl stored

theorem Leaves.trans {a b c : ScanState (Server σ)} (first : Leaves a b) (second : Leaves b c) :
    Leaves a c := by
  refine ⟨first.shrinks.trans second.shrinks, second.provider.trans first.provider, ?_, ?_⟩
  · exact fun u states stored => second.kept u states (first.kept u states stored)
  · intro u states stored
    rcases second.gained u states stored with before | ⟨path, d, isFile, new⟩
    · exact first.gained u states before
    · exact .inr ⟨path, d, isFile.earlier first.shrinks first.provider, new⟩

theorem foldl_remove_shrinks (removed : List (List String)) (files : FileTree) :
    files.Shrinks (removed.foldl (fun files names => files.remove names) files) := by
  induction removed generalizing files with
  | nil => exact .refl files
  | cons names removed ih => exact (FileTree.remove_shrinks names files).trans (ih _)

theorem Gathers.has_iff {last : ScanState (Server σ)} {isCancelled : Bool}
    (gathers : Gathers (s.scanStart files isCancelled) found last) :
    (Contributions.ofDocuments (gathered last.parser.cache found).toList).Has o ↔
      ∃ e, last.parser.cache.get? o.uri = some e ∧ o ∈ e.occurrences := by
  rw [has_gathered gathers.own]
  constructor
  · rintro (⟨e, live, member⟩ | ⟨-, member⟩)
    · exact ⟨e, ((Cache.live?_eq_some_iff _ _).mp live).1, member⟩
    · exact gathers.held o member
  · rintro ⟨e, stored, member⟩
    by_cases closed : e.version = Cache.closedVersion
    · refine .inr ⟨?_, ?_⟩
      · cases live : last.parser.cache.live? o.uri with
        | none => rfl
        | some e' =>
          obtain ⟨stored', open'⟩ := (Cache.live?_eq_some_iff _ _).mp live
          rw [stored] at stored'
          cases Option.some.inj stored'
          exact absurd closed open'
      · rcases gathers.gained _ e stored with before | new
        · exact absurd closed (Cache.version_of_clearClosed before)
        · exact new o member
    · exact .inl ⟨e, (Cache.live?_eq_some_iff _ _).mpr ⟨stored, closed⟩, member⟩

theorem Gathers.represents {last : ScanState (Server σ)} {isCancelled : Bool}
    (gathers : Gathers (s.scanStart files isCancelled) found last) :
    (Index.ofDocuments (gathered last.parser.cache found).toList).Represents
      (Contributions.ofDocuments (gathered last.parser.cache found).toList) :=
  represents_gathered (fun _ _ live => gathers.own.live live) found

theorem Gathers.locations {last : ScanState (Server σ)} {isCancelled : Bool}
    (gathers : Gathers (s.scanStart files isCancelled) found last) (kind : EventKind)
    (name : String) (l : Location) :
    l ∈ (Index.ofDocuments (gathered last.parser.cache found).toList).locations kind name ↔
      ∃ u e, last.parser.cache.get? u = some e ∧
        ∃ o ∈ e.occurrences, o.kind = kind ∧ o.name = name ∧ o.location = l := by
  rw [gathers.represents.lists.mem, gathers.has_iff]
  constructor
  · rintro ⟨e, stored, member⟩
    exact ⟨_, e, stored, _, member, rfl, rfl, rfl⟩
  · rintro ⟨u, e, stored, o, member, rfl, rfl, rfl⟩
    have here : o.uri = u := gathers.own u e stored o member
    exact ⟨e, here ▸ stored, member⟩

variable [DecidableEq σ]

theorem gathers_extractFile {a : ScanState (Server σ)} (current : a.parser.Current a.files)
    (own : a.parser.cache.Own) (path : Path) :
    Gathers a (((a.parser.extractFile a.files path).1.map Prod.snd).getD [])
      { a with parser := (a.parser.extractFile a.files path).2 } := by
  cases read : a.parser.fileToRead? a.files path with
  | none =>
    simp only [extractFile, read]
    refine gathers_of_held current own ?_
    cases answer : a.parser.openFile? path with
    | none => simp
    | some entry =>
      obtain ⟨u, found⟩ := entry
      obtain ⟨-, e, live, rfl⟩ := openFile?_eq_some answer
      intro o member
      have stored := ((a.parser.cache.live?_eq_some_iff u).mp live).1
      rw [own.live live o member]
      exact ⟨e, stored, member⟩
  | some d =>
    obtain ⟨t, reading, result, settles⟩ := extractFile_eq read
    obtain ⟨-, -, closed, free, -⟩ := fileToRead?_eq_some.mp read
    have shown_own : ∀ o ∈ a.parser.shown a.files d, o.uri = d.uri :=
      Extraction.extract_uri _ d _ _ none ()
    rw [result]
    refine ⟨reading.close (untracked_of_isTracked free), current.keepClosed read reading settles,
      own.insertClosed shown_own, ?_, ?_, ?_⟩
    · intro u e stored
      refine (Cache.get?_insertClosed _ _ _ _).trans ?_
      split
      · -- An entry of the file that was there is closed, so it holds what the file shows.
        rename_i here
        subst here
        have version : e.version = Cache.closedVersion := by
          refine Decidable.not_not.mp fun live => ?_
          rw [(a.parser.cache.live?_eq_some_iff _).mpr ⟨stored, live⟩] at closed
          cases closed
        have same := current _ e stored version a.files _ path d (.refl _ _) (isFile_of_read read)
          rfl
        obtain ⟨_, _⟩ := e
        subst version
        exact congrArg (fun found => some (CacheEntry.mk _ found)) same
      · exact stored
    · intro u e stored
      have stored : (a.parser.cache.insertClosed d.uri _).get? u = some e := stored
      rw [Cache.get?_insertClosed] at stored
      split at stored
      · cases Option.some.inj stored
        exact .inr fun o member => member
      · exact .inl stored
    · intro o member
      refine ⟨_, (Cache.get?_insertClosed _ _ _ _).trans (if_pos (shown_own o member).symm), member⟩

theorem scanner_gathers (s : Server σ) (id : Nat) (react : String → Reaction) :
    (s.scanner id react).Gains (fun a => a.parser.Current a.files ∧ a.parser.cache.Own)
      Gathers where
  nothing a here := gathers_of_held here.1 here.2 (by simp)
  parse a path here := gathers_extractFile here.1 here.2 path
  announce message a here := by
    have shrinks := foldl_remove_shrinks (react message).removed a.files
    refine ⟨⟨(here.1.shrinks shrinks).report _, here.2⟩, ?_⟩
    rintro found b ⟨documents, current, own, kept, gained, held⟩
    exact ⟨documents, current, own, kept, gained, held⟩
  more := .trans
  reorder := .reorder
  holds gathers := ⟨gathers.current, gathers.own⟩

theorem extractFile_documents (s : Server σ) (files : FileTree) (path : Path) :
    (s.extractFile files path).2.tokenizer.documents = s.tokenizer.documents ∧
      (s.extractFile files path).2.tokenizer.registry.provider = s.tokenizer.registry.provider := by
  cases read : s.fileToRead? files path with
  | none => simp [extractFile, read]
  | some d =>
    obtain ⟨t, reading, result, -⟩ := extractFile_eq read
    obtain ⟨-, -, -, free, -⟩ := fileToRead?_eq_some.mp read
    rw [result]
    exact ⟨reading.close (untracked_of_isTracked free), reading.later.provider⟩

/-- A file that is given up has been read up to some place; what is read of it stays if it stands at
a pause. -/
theorem abandonFile_cases (read : s.fileToRead? files path = some d) (pauses : Nat) :
    ∃ t, s.tokenizer.Reading files d t ∧
      (s.abandonFile files path pauses = { s with tokenizer := t } ∨
        ∃ found, s.abandonFile files path pauses = s.keepClosed d.uri found t) := by
  obtain ⟨-, -, -, free, -⟩ := fileToRead?_eq_some.mp read
  have reading := Extraction.extract_keeps
    (I := fun w : Tokenizer.Work σ => s.tokenizer.Reading files d w.tokenizer)
    (fun _ p here => Tokenizer.Work.scopeAt_reading here p) s.patterns s.config.maxFileSize d none
    (t := ⟨s.tokenizer, some pauses⟩) (Tokenizer.reading_start (untracked_of_isTracked free) files)
  refine ⟨_, reading, ?_⟩
  simp only [abandonFile, read]
  split
  · exact .inl rfl
  · exact .inr ⟨_, rfl⟩

theorem abandonFile_leaves (a : ScanState (Server σ)) (path : Path) (pauses : Nat) :
    Leaves a { a with parser := a.parser.abandonFile a.files path pauses } := by
  cases read : a.parser.fileToRead? a.files path with
  | none =>
    simp only [abandonFile, read]
    exact leaves_of_documents (.refl _) rfl rfl
  | some d =>
    obtain ⟨-, -, -, free, -⟩ := fileToRead?_eq_some.mp read
    have untracked := untracked_of_isTracked free
    obtain ⟨t, reading, result | ⟨found, result⟩⟩ := abandonFile_cases read pauses
    · -- The file stands at a pause, and what is read of it so far stays.
      rw [result]
      refine ⟨.refl _, reading.later.provider, ?_, ?_⟩
      · intro u states stored
        have other : u ≠ d.uri := by
          rintro rfl
          rw [untracked] at stored
          cases stored
        exact (reading.others u other).trans stored
      · intro u states stored
        by_cases here : u = d.uri
        · subst here
          exact .inr ⟨path, d, isFile_of_read read, rfl, (reading.own states stored).1⟩
        · exact .inl ((reading.others u here).symm.trans stored)
    · rw [result]
      exact leaves_of_documents (.refl _) reading.later.provider (reading.close untracked)

theorem scanner_leaves (s : Server σ) (id : Nat) (react : String → Reaction) :
    (s.scanner id react).Leads Leaves where
  refl _ := leaves_of_documents (.refl _) rfl rfl
  trans := .trans
  parse a path :=
    have same := a.parser.extractFile_documents a.files path
    leaves_of_documents (.refl _) same.2 same.1
  announce message a := leaves_of_documents (foldl_remove_shrinks _ a.files) rfl rfl
  abandon message path a := by
    simp only [scanner]
    split
    · exact leaves_of_documents (.refl _) rfl rfl
    · exact abandonFile_leaves a path _

/-- Nothing is left behind if no file has been begun when its resource is given up. -/
theorem scanner_clean (s : Server σ) (id : Nat) {react : String → Reaction}
    (idle : ∀ message path, (react message).standing path = none) :
    (s.scanner id react).Leads fun a b =>
      b.parser.tokenizer.documents = a.parser.tokenizer.documents where
  refl _ := rfl
  trans first second := second.trans first
  parse a path := (a.parser.extractFile_documents a.files path).1
  announce _ _ := rfl
  abandon message path a := by simp [scanner, idle]

theorem scanned_leaves (s : Server σ) (files : FileTree) (isCancelled : Bool)
    (react : String → Reaction) :
    Leaves (s.scanStart files isCancelled) (s.scanned files isCancelled react).2 :=
  (s.scanner_leaves _ react).scanAll s.roots _

/-- A scan begins without closed entries, so none of them can be outdated. -/
theorem scanned_gathers {last : ScanState (Server σ)} (own : s.cache.Own) (isCancelled : Bool)
    {react : String → Reaction}
    (succeeds : s.scanned files isCancelled react = (.ok found, last)) :
    Gathers (s.scanStart files isCancelled) found last := by
  have current : (s.scanStart files isCancelled).parser.Current files := by
    intro u e stored closed
    exact absurd closed (Cache.version_of_clearClosed stored)
  exact (s.scanner_gathers _ react).scanAll succeeds ⟨current, own.clearClosed⟩

/-- What a rescan may touch. Entries of open documents and the states that are stored stay. If it
fails the index stays as well, and all that is left behind are states of files that were being read
when their resource was given up. If it succeeds nothing is left behind, and the new index shows
what is in the cache, of open documents and of files, and nothing else. -/
theorem rescan_spares_what_is_open (arises : s.Arises) (files : FileTree) (isCancelled : Bool)
    (react : String → Reaction) {answer : Except ScanError (List Occurrence)} {after : Server σ}
    {left : FileTree} (rescanned : s.rescan files isCancelled react = (answer, after, left)) :
    (∀ u e, e.version ≠ Cache.closedVersion →
      (after.cache.get? u = some e ↔ s.cache.get? u = some e)) ∧
    (∀ (u : Uri) states, s.tokenizer.documents[u]? = some states →
      after.tokenizer.documents[u]? = some states) ∧
    match answer with
    | .error _ => after.index = s.index ∧
        (∀ (u : Uri) states, after.tokenizer.documents[u]? = some states →
          s.tokenizer.documents[u]? = some states ∨
            ∃ path d, s.IsFile files path d ∧ d.uri = u ∧ states.Sound d) ∧
        ((∀ message path, (react message).standing path = none) →
          after.tokenizer.documents = s.tokenizer.documents)
    | .ok _ => after.tokenizer.documents = s.tokenizer.documents ∧
        (∀ kind name, Ascending (after.index.locations kind name) ∧
          ∀ l, l ∈ after.index.locations kind name ↔
            ∃ u e, after.cache.get? u = some e ∧
              ∃ o ∈ e.occurrences, o.kind = kind ∧ o.name = name ∧ o.location = l) ∧
        ∀ u ∈ after.index.documents,
          ∃ e, after.cache.get? u = some e ∧ e.occurrences ≠ [] := by
  have spares := s.scanned_spares files isCancelled react
  have leaves := s.scanned_leaves files isCancelled react
  obtain ⟨last, progress, ⟨x, scan, result⟩ | ⟨found, scan, result⟩⟩ :=
    s.rescan_cases files isCancelled react
  all_goals
    rw [scan] at spares leaves
    rw [result] at rescanned
    cases rescanned
    refine ⟨fun u e live => spares.get?_iff live, leaves.kept, ?_⟩
  · refine ⟨spares.index, ?_, ?_⟩
    · intro u states stored
      rcases leaves.gained u states stored with before | ⟨path, d, isFile, new⟩
      · exact .inl before
      · exact .inr ⟨path, d, isFile.earlier (.refl _) rfl, new⟩
    · intro idle
      have clean := (s.scanner_clean (s.progress.start "Parsing resources").begun idle).scanAll
        s.roots (s.scanStart files isCancelled)
      rwa [← scanned, scan] at clean
  · have gathers := scanned_gathers arises.own isCancelled scan
    refine ⟨gathers.documents, fun kind name => ⟨gathers.represents.lists.ascending kind name,
      gathers.locations kind name⟩, ?_⟩
    intro u listed
    rw [gathers.represents.documents] at listed
    obtain ⟨o, has, rfl⟩ := gathers.represents.owned.mem_iff.mp listed
    obtain ⟨e, stored, member⟩ := gathers.has_iff.mp has
    exact ⟨e, stored, List.ne_nil_of_mem member⟩

def workspace : Config :=
  { callsOfF with resourcesDir := "r", manifestFiles := ["m"], workspaceFolders := ["/"] }

/-- A resource with one file, whose only call stands so many lines below its beginning. -/
def resource (lines : Nat) : FileTree :=
  .folder [("r", .folder [("a", .folder [("m", .file none),
    ("a.lua", .file (some (String.ofList (List.replicate lines '\n' ++ "f()".toList))))])])]

def callIn (lines : Nat) : Occurrence := ⟨.trigger, ")", ⟨⟨"file:///r/a/a.lua"⟩, ⟨lines, 0⟩⟩⟩

/-- A document is open while a resource is read for the first time. -/
theorem rescan_spares_what_is_open_one_buffer :
    ∃ (s after : Server GrammarState) (left : FileTree), s.Arises ∧
      s.rescan (resource 0) false (fun _ => .nothing) = (.ok [callIn 0], after, left) ∧
      after.cache.get? oneCall.uri = some ⟨1, [⟨.trigger, ")", ⟨oneCall.uri, ⟨1, 0⟩⟩⟩]⟩ ∧
      after.tokenizer.documents = s.tokenizer.documents ∧
      ∀ kind name l, l ∈ after.index.locations kind name ↔
        ∃ u e, after.cache.get? u = some e ∧
          ∃ o ∈ e.occurrences, o.kind = kind ∧ o.name = name ∧ o.location = l := by
  have run : (Server.new workspace luaInline markerEngine).toOption.any (fun s =>
      let s := (s.didOpen (.folder []) oneCall).2
      (s.rescan (resource 0) false fun _ => .nothing).1 = .ok [callIn 0] &&
      s.cache.get? oneCall.uri = some ⟨1, [⟨.trigger, ")", ⟨oneCall.uri, ⟨1, 0⟩⟩⟩]⟩) = true := by
    decide +kernel
  cases built : Server.new workspace luaInline markerEngine with
  | error e => simp [built, Except.toOption] at run
  | ok s =>
    simp only [built, Except.toOption, Option.any_some, Bool.and_eq_true, decide_eq_true_eq] at run
    obtain ⟨found, stored⟩ := run
    have arises := Arises.opened s (.folder []) oneCall (.new _ _ _ s built)
    have rescanned : Server.rescan _ (resource 0) false (fun _ => .nothing) =
        (.ok [callIn 0], _, _) := Prod.ext_iff.mpr ⟨found, rfl⟩
    obtain ⟨live, -, documents, shows, -⟩ := rescan_spares_what_is_open arises _ _ _ rescanned
    exact ⟨_, _, _, arises, rescanned, (live _ _ (by decide)).mpr stored, documents,
      fun kind name => (shows kind name).2⟩

/-- The scan is stopped while every file stands at its first pause. -/
def stopsMidway (_ : String) : Reaction := ⟨false, [], some .cancelled, fun _ => some 0, fun _ => 0⟩

/-- A file that has a pause stays tracked behind a rescan that fails, as if it were open, and the
next rescan does not find what is in it. -/
theorem failed_rescan_hides_a_file : ∃ s stopped : Server GrammarState, s.Arises ∧
    (∃ left, s.rescan (resource 16) false stopsMidway = (.error .cancelled, stopped, left)) ∧
    s.tokenizer.isTracked ⟨"file:///r/a/a.lua"⟩ = false ∧
    stopped.tokenizer.isTracked ⟨"file:///r/a/a.lua"⟩ = true ∧
    (s.rescan (resource 16) false fun _ => .nothing).1 = .ok [callIn 16] ∧
    (stopped.rescan (resource 16) false fun _ => .nothing).1 = .ok [] := by
  have run : (Server.new workspace luaInline markerEngine).toOption.any (fun s =>
      let stopped := s.rescan (resource 16) false stopsMidway
      stopped.1 = .error .cancelled && !s.tokenizer.isTracked ⟨"file:///r/a/a.lua"⟩ &&
      stopped.2.1.tokenizer.isTracked ⟨"file:///r/a/a.lua"⟩ &&
      (s.rescan (resource 16) false fun _ => .nothing).1 = .ok [callIn 16] &&
      (stopped.2.1.rescan (resource 16) false fun _ => .nothing).1 = .ok []) = true := by
    decide +kernel
  cases built : Server.new workspace luaInline markerEngine with
  | error e => simp [built, Except.toOption] at run
  | ok s =>
    simp only [built, Except.toOption, Option.any_some, Bool.and_eq_true, decide_eq_true_eq,
      Bool.not_eq_true'] at run
    obtain ⟨⟨⟨⟨failed, before⟩, behind⟩, found⟩, missed⟩ := run
    exact ⟨s, _, .new _ _ _ s built, ⟨_, Prod.ext_iff.mpr ⟨failed, rfl⟩⟩, before, behind, found,
      missed⟩

end Server

end EventXref
