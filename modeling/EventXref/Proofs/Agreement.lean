import EventXref.Grammar.Marker
import EventXref.Proofs.Index
import EventXref.Proofs.Scan
import EventXref.Server

/-!
Cache and index of a server agree. An entry of the cache is live unless it belongs to a document
that is not open; what the index shows of the document of a live entry is what the entry holds,
after every call, and also after a scan that fails midway.
-/
namespace EventXref

namespace Cache

variable (c : Cache) (u v : Uri)

theorem live?_eq_some_iff {e : CacheEntry} :
    c.live? u = some e ↔ c.get? u = some e ∧ e.version ≠ closedVersion := by
  simp [live?, Option.filter_eq_some_iff]

theorem live?_insertClosed (found : List Occurrence) :
    (c.insertClosed u found).live? v = if u = v then none else c.live? v := by
  simp only [live?, get?, insertClosed, Std.ExtTreeMap.getElem?_insert]
  by_cases same : u = v
  · simp [same]
  · simp [same]

theorem live?_close : (c.close u).live? v = if u = v then none else c.live? v := by
  unfold close
  cases stored : c.get? u with
  | some e => exact live?_insertClosed c u v e.occurrences
  | none =>
    by_cases same : u = v
    · simp [← same, live?, stored]
    · simp [same]

theorem live?_remove : (c.remove u).live? v = if u = v then none else c.live? v := by
  simp only [live?, get?, remove, Std.ExtTreeMap.getElem?_erase]
  by_cases same : u = v
  · simp [same]
  · simp [same]

theorem live?_clearClosed : c.clearClosed.live? v = c.live? v := by
  simp only [live?, get?, clearClosed, Std.ExtTreeMap.getElem?_filter']
  cases c.entries[v]? with
  | none => rfl
  | some e => by_cases closed : e.version = closedVersion <;> simp [Option.filter, closed]

/-- Storing an entry that is no older than a live one leaves a live entry only if it is that one. -/
theorem live?_store {c : Cache} {u : Uri} {e : CacheEntry}
    (noOlder : ∀ before, c.live? u = some before → before.version ≤ e.version) :
    (∀ v, u ≠ v → (c.store u e).live? v = c.live? v) ∧
      ∀ now, (c.store u e).live? u = some now → now = e := by
  unfold store
  split
  · -- The entry is turned away for a newer one, which cannot be live.
    rename_i newer
    refine ⟨fun v _ => rfl, ?_⟩
    intro now live
    exfalso
    have older := noOlder now live
    rw [((c.live?_eq_some_iff u).mp live).1] at newer
    simp at newer
    omega
  · constructor
    · intro v other
      simp [live?, get?, Std.ExtTreeMap.getElem?_insert, other]
    · intro now live
      simp only [live?, get?, Std.ExtTreeMap.getElem?_insert_self] at live
      exact (Option.some.inj (Option.filter_eq_some_iff.mp live).1).symm

theorem mem_openEntries {found : List Occurrence} :
    (u, found) ∈ c.openEntries ↔ ∃ e, c.live? u = some e ∧ e.occurrences = found := by
  simp only [openEntries, List.mem_map, Prod.exists, Prod.mk.injEq,
    Std.ExtTreeMap.mem_toList_iff_getElem?_eq_some, clearClosed, Std.ExtTreeMap.getElem?_filter',
    live?, get?]
  constructor
  · rintro ⟨v, e, stored, rfl, rfl⟩
    exact ⟨e, stored, rfl⟩
  · rintro ⟨e, stored, rfl⟩
    exact ⟨u, e, stored, rfl, rfl⟩

theorem openEntries_distinct : (c.openEntries.map Prod.fst).Nodup := by
  have keys : c.openEntries.map Prod.fst = c.clearClosed.entries.keys := by
    rw [openEntries, List.map_map, ← Std.ExtTreeMap.map_fst_toList_eq_keys]
    rfl
  rw [keys]
  exact Std.ExtTreeMap.nodup_keys

/-- A lookup that tells of new occurrences has stored them, and every other leaves the cache. -/
theorem getOrExtract_cases {τ : Type} (c : Cache) (u : Uri) (version : Int)
    (extract : τ → Extraction × τ) (t : τ) :
    (∃ found, c.getOrExtract u version extract t = (Answer.hit found, c, t) ∧
      c.hit? u version = some found) ∨
    c.hit? u version = none ∧
      ((extract t).1.isComplete = true ∧
          c.getOrExtract u version extract t =
            (⟨(extract t).1.occurrences, true, true⟩,
              c.store u ⟨version, (extract t).1.occurrences⟩, (extract t).2) ∨
        (extract t).1.isComplete = false ∧
          c.getOrExtract u version extract t =
            (⟨(extract t).1.occurrences, false, true⟩, c, (extract t).2)) := by
  unfold getOrExtract
  cases hit : c.hit? u version with
  | some found => exact .inl ⟨found, rfl, rfl⟩
  | none =>
    right
    refine ⟨rfl, ?_⟩
    cases complete : (extract t).1.isComplete with
    | true => simp [finish, complete]
    | false => simp [finish, complete]

end Cache

namespace Contributions

variable {documents : List (Uri × List Occurrence)}
  {step : Contributions → Uri → List Occurrence → Contributions}

/-- Of documents that contribute in turn, each by a step that sets its own contribution, every one
has what it contributed. -/
theorem getD_foldl
    (sets : ∀ m u found v, (step m u found)[v]?.getD [] = if u = v then found else m[v]?.getD [])
    (distinct : (documents.map Prod.fst).Nodup) (m : Contributions) (u : Uri)
    (found : List Occurrence) :
    ((u, found) ∈ documents →
      (documents.foldl (fun m (v, more) => step m v more) m)[u]?.getD [] = found) ∧
    (u ∉ documents.map Prod.fst →
      (documents.foldl (fun m (v, more) => step m v more) m)[u]?.getD [] = m[u]?.getD []) := by
  induction documents generalizing m with
  | nil => simp
  | cons entry documents ih =>
    obtain ⟨v, more⟩ := entry
    obtain ⟨absent, distinct⟩ := List.nodup_cons.mp distinct
    obtain ⟨inside, outside⟩ := ih distinct (step m v more)
    constructor
    · intro member
      rcases List.mem_cons.mp member with here | later
      · obtain ⟨rfl, rfl⟩ := Prod.mk.injEq .. ▸ here
        rw [List.foldl_cons, outside absent, sets, if_pos rfl]
      · exact inside later
    · intro fresh
      obtain ⟨other, rest⟩ := not_or.mp (List.mem_cons.not.mp fresh)
      rw [List.foldl_cons, outside rest, sets, if_neg (Ne.symm other)]

theorem getD_replace (m : Contributions) (u : Uri) (found : List Occurrence) (v : Uri) :
    (m.replace u found)[v]?.getD [] = if u = v then found else m[v]?.getD [] := by
  rw [getElem?_replace]
  split
  · cases found with
    | nil => rfl
    | cons o found => rfl
  · rfl

theorem getD_insert (m : Contributions) (u : Uri) (found : List Occurrence) (v : Uri) :
    ((m.insert u found : Contributions)[v]?).getD [] = if u = v then found else m[v]?.getD [] := by
  rw [Std.ExtTreeMap.getElem?_insert]
  by_cases same : u = v
  · simp [same]
  · simp [same]

theorem getD_ofDocuments_toList (m : Contributions) (u : Uri) :
    (ofDocuments m.toList)[u]?.getD [] = m[u]?.getD [] := by
  have distinct : (m.toList.map Prod.fst).Nodup := by
    rw [Std.ExtTreeMap.map_fst_toList_eq_keys]
    exact Std.ExtTreeMap.nodup_keys
  obtain ⟨inside, outside⟩ := getD_foldl getD_replace distinct ∅ u (m[u]?.getD [])
  cases stored : m[u]? with
  | some found =>
    rw [stored] at inside
    exact inside (Std.ExtTreeMap.mem_toList_iff_getElem?_eq_some.mpr stored)
  | none =>
    refine (outside ?_).trans (by simp)
    rw [Std.ExtTreeMap.map_fst_toList_eq_keys, Std.ExtTreeMap.mem_keys]
    simpa using stored

def Filed (m : Contributions) : Prop := ∀ u : Uri, ∀ o ∈ m[u]?.getD [], o.uri = u

theorem Filed.insert {m : Contributions} {u : Uri} {found : List Occurrence} (filed : m.Filed)
    (own : ∀ o ∈ found, o.uri = u) : Filed (m.insert u found) := by
  intro v o member
  rw [getD_insert] at member
  split at member
  · rename_i same
    exact same ▸ own o member
  · exact filed v o member

theorem Filed.append {m : Contributions} (filed : m.Filed) (o : Occurrence) :
    Filed (m.alter o.uri fun before => some (before.getD [] ++ [o])) := by
  intro v o' member
  rw [Std.ExtTreeMap.getElem?_alter] at member
  by_cases same : o.uri = v
  · subst same
    simp only [Std.ReflCmp.compare_self, if_true, Option.getD_some] at member
    rcases List.mem_append.mp member with before | last
    · exact filed _ o' before
    · rw [List.mem_singleton.mp last]
  · simp only [Std.LawfulEqCmp.compare_eq_iff_eq, same, if_false] at member
    exact filed v o' member

end Contributions

namespace Extraction

variable {τ : Type} (scopeAt : τ → Position → Option ScopeInfo × τ) (d : Document)

theorem confirm_eq_some {p : Pattern} {c : Candidate} {info : Option ScopeInfo} {o : Occurrence} :
    confirm p d c info = some o ↔ ∃ shown, info = some shown ∧
      shown.text = Text.slice c.function.1 c.function.2 d.text ∧
      shown.innermostContains callMarker = true ∧ ∃ kind,
      p.classify (String.ofList (Text.slice c.function.1 c.function.2 d.text)) = some kind ∧
      o = ⟨kind, String.ofList (stripQuotes (Text.slice c.event.1 c.event.2 d.text)),
        ⟨d.uri, d.positionOf c.function.1⟩⟩ := by
  cases info with
  | none => simp [confirm]
  | some shown => simp [confirm, Option.bind_eq_some_iff, and_assoc, eq_comm (b := o)]

theorem confirm_uri {p : Pattern} {c : Candidate} {info : Option ScopeInfo} {o : Occurrence}
    (confirmed : confirm p d c info = some o) : o.uri = d.uri := by
  obtain ⟨shown, -, -, -, kind, -, rfl⟩ := (confirm_eq_some d).mp confirmed
  rfl

theorem examine_uri (p : Pattern) (t : τ) (cancel : Option Cancellation) (cs : List Candidate) :
    ∀ o ∈ (examine scopeAt p d t cancel cs).1.occurrences, o.uri = d.uri := by
  induction cs generalizing t cancel with
  | nil => simp [examine, nothing]
  | cons c cs ih =>
    intro o member
    simp only [examine] at member
    split at member
    · cases member
    · rcases List.mem_append.mp member with here | later
      · exact confirm_uri d (Option.mem_toList.mp here)
      · exact ih _ _ o later

theorem extract_uri (patterns : PatternTable) (maxFileSize : Nat) (cancel : Option Cancellation)
    (t : τ) :
    ∀ o ∈ (extract patterns maxFileSize scopeAt d cancel t).1.occurrences, o.uri = d.uri := by
  unfold extract
  split
  · simp [nothing]
  split
  · simp [nothing]
  · exact examine_uri scopeAt d _ t cancel _

end Extraction

namespace Cache

/-- The index is in order, and what it shows of the document of a live entry is what the entry
holds. -/
structure Matches (c : Cache) (i : Index) : Prop where
  represents : i.Represents i.documents
  live : ∀ u e, c.live? u = some e → i.documents[u]?.getD [] = e.occurrences

variable {c c' : Cache} {i : Index} {u : Uri} {found : List Occurrence}

theorem matches_empty : empty.Matches Index.empty := by
  refine ⟨Index.represents_empty, ?_⟩
  intro u e live
  simp [live?, get?, empty] at live

theorem Matches.own (agree : c.Matches i) {e : CacheEntry} (live : c.live? u = some e) :
    ∀ o ∈ e.occurrences, o.uri = u := by
  intro o member
  rw [← agree.live u e live] at member
  cases stored : i.documents[u]? with
  | none => simp [stored] at member
  | some found => exact (agree.represents.owned u found stored).2 o (by simpa [stored] using member)

theorem Matches.of_live (agree : c.Matches i)
    (fewer : ∀ v e, c'.live? v = some e → c.live? v = some e) : c'.Matches i :=
  ⟨agree.represents, fun v e live => agree.live v e (fewer v e live)⟩

theorem Matches.replace (agree : c.Matches i) (own : ∀ o ∈ found, o.uri = u)
    (others : ∀ v, u ≠ v → c'.live? v = c.live? v)
    (here : ∀ e, c'.live? u = some e → e.occurrences = found) : c'.Matches (i.replace u found) := by
  have replaced := agree.represents.replace own
  have documents := replaced.documents
  refine ⟨documents ▸ replaced, ?_⟩
  intro v e live
  rw [documents, Contributions.getD_replace]
  split
  · rename_i same
    subst same
    exact (here e live).symm
  · rename_i other
    exact agree.live v e (others v other ▸ live)

theorem Matches.remove (agree : c.Matches i) (u : Uri) : (c.remove u).Matches (i.remove u).2 := by
  have removed := agree.represents.remove u
  have documents := removed.documents
  refine ⟨documents ▸ removed, ?_⟩
  intro v e live
  rw [live?_remove] at live
  rw [documents, Std.ExtTreeMap.getElem?_erase]
  split at live
  · cases live
  · rename_i other
    simpa [other] using agree.live v e live

theorem Matches.locations (agree : c.Matches i) {e : CacheEntry} (live : c.live? u = some e)
    (kind : EventKind) (name : String) (l : Location) :
    l ∈ i.locations kind name ∧ l.uri = u ↔
      ∃ o ∈ e.occurrences, o.kind = kind ∧ o.name = name ∧ o.location = l := by
  have all : l ∈ i.locations kind name ∧ l.uri = u ↔
      (⟨kind, name, l⟩ : Occurrence) ∈ e.occurrences ∧ l.uri = u := by
    rw [agree.represents.lists.mem, ← agree.live u e live]
    exact agree.represents.owned.has_of_uri
  rw [all]
  constructor
  · rintro ⟨member, -⟩
    exact ⟨_, member, rfl, rfl, rfl⟩
  · rintro ⟨o, member, rfl, rfl, rfl⟩
    exact ⟨member, agree.own live o member⟩

end Cache

namespace Server

variable {σ : Type} {s : Server σ}

def Agrees (s : Server σ) : Prop := s.cache.Matches s.index

/-- The document is no older than what is cached of it while it is open. -/
def NoOlder (s : Server σ) (d : Document) : Prop :=
  ∀ e, s.cache.live? d.uri = some e → e.version ≤ d.version

/-- A state that a step leads to when the host's documents and the index stay as they are. -/
structure Spares (s s' : Server σ) : Prop where
  index : s'.index = s.index
  live : ∀ u, s'.cache.live? u = s.cache.live? u

theorem Spares.refl (s : Server σ) : s.Spares s := ⟨rfl, fun _ => rfl⟩

theorem Spares.trans {a b c : Server σ} (first : a.Spares b) (second : b.Spares c) : a.Spares c :=
  ⟨second.index.trans first.index, fun u => (second.live u).trans (first.live u)⟩

theorem Agrees.spares {s' : Server σ} (agree : s.Agrees) (spares : s.Spares s') : s'.Agrees := by
  have same : s'.cache.Matches s.index := by
    refine agree.of_live ?_
    intro u e live
    rwa [← spares.live]
  rwa [Agrees, spares.index]

theorem Agrees.withTokenizer (agree : s.Agrees) (t : Tokenizer σ) :
    Agrees { s with tokenizer := t } := agree

theorem NoOlder.withTokenizer {d : Document} (noOlder : s.NoOlder d) (t : Tokenizer σ) :
    NoOlder { s with tokenizer := t } d := noOlder

theorem Agrees.remove (agree : s.Agrees) (u : Uri) : (s.remove u).Agrees :=
  Cache.Matches.remove agree u

theorem Agrees.didClose (agree : s.Agrees) (u : Uri) : (s.didClose u).Agrees := by
  refine Cache.Matches.of_live agree ?_
  intro v e live
  have closed : (s.cache.close u).live? v = some e := live
  rw [Cache.live?_close] at closed
  split at closed
  · cases closed
  · exact closed

theorem new_eq_ok {config : Config} {provider : Provider} {engine : Engine σ}
    (built : Server.new config provider engine = .ok s) :
    ∃ patterns excludes, PatternTable.compile config = .ok patterns ∧
      s = ⟨config, patterns, excludes, Tokenizer.new provider engine, Cache.empty, Index.empty,
        Progress.empty⟩ := by
  simp only [Server.new, bind, Except.bind] at built
  cases patterns : PatternTable.compile config with
  | error e => simp [patterns] at built
  | ok table =>
    cases excludes : PathFilter.compile config.excludeGlobs with
    | error e => simp [patterns, excludes] at built
    | ok filter =>
      simp only [patterns, excludes, pure, Except.pure, Except.ok.injEq] at built
      exact ⟨table, filter, rfl, built.symm⟩

/-- A file that is read is not skipped, its document is not open in the host, and the path has a
language and leads to a text. -/
theorem fileToRead?_eq_some {files : FileTree} {path : Path} {d : Document} :
    s.fileToRead? files path = some d ↔
      s.shouldSkip path none = false ∧ Uri.ofFilePath? path = some d.uri ∧
        s.cache.live? d.uri = none ∧ s.tokenizer.isTracked d.uri = false ∧
        s.languageOf? path = some d.language ∧ d.version = Cache.closedVersion ∧
        ∃ text, files.readText? path = some text ∧ d.text = text.toList := by
  unfold fileToRead?
  cases s.shouldSkip path none with
  | true => simp
  | false =>
    cases Uri.ofFilePath? path with
    | none => simp
    | some u =>
      constructor
      · intro read
        simp only [Bool.false_eq_true, if_false] at read
        split at read
        · cases read
        · rename_i free
          split at read
          · rename_i language text known there
            cases Option.some.inj read
            simp only [Bool.or_eq_true, not_or, Bool.not_eq_true, Option.isSome_eq_false_iff,
              Option.isNone_iff_eq_none] at free
            exact ⟨rfl, rfl, free.1, free.2, known, rfl, text, there, rfl⟩
          · cases read
      · rintro ⟨-, same, free, untracked, known, version, text, there, content⟩
        cases Option.some.inj same
        obtain ⟨uri, language, _, _⟩ := d
        subst version content
        simp_all

theorem keepClosed_spares {u : Uri} (closed : s.cache.live? u = none) (found : List Occurrence)
    (t : Tokenizer σ) : s.Spares (s.keepClosed u found t) := by
  refine ⟨rfl, ?_⟩
  intro v
  refine (Cache.live?_insertClosed _ _ _ _).trans ?_
  split
  · rename_i same
    rw [← same, closed]
  · rfl

theorem openFile?_eq_some {path : Path} {u : Uri} {found : List Occurrence}
    (answer : s.openFile? path = some (u, found)) :
    Uri.ofFilePath? path = some u ∧ ∃ e, s.cache.live? u = some e ∧ e.occurrences = found := by
  unfold openFile? at answer
  split at answer
  · cases answer
  · obtain ⟨v, named, here⟩ := Option.bind_eq_some_iff.mp answer
    obtain ⟨e, live, same⟩ := Option.map_eq_some_iff.mp here
    cases same
    exact ⟨named, e, live, rfl⟩

variable [DecidableEq σ]

theorem extract_own (s : Server σ) (files : FileTree) (d : Document) (cancel : Option Cancellation)
    (t : Tokenizer σ) : ∀ o ∈ (s.extract files d cancel t).1.occurrences, o.uri = d.uri :=
  Extraction.extract_uri _ d s.patterns s.config.maxFileSize cancel t

theorem Agrees.parse (agree : s.Agrees) {d : Document} (noOlder : s.NoOlder d) (files : FileTree)
    (cancel : Option Cancellation) : (s.parse files d cancel).2.Agrees := by
  unfold Server.parse
  split
  · exact agree
  rcases s.cache.getOrExtract_cases d.uri d.version (s.extract files d cancel)
    s.tokenizer.watch with ⟨found, result, -⟩ | ⟨-, ⟨-, result⟩ | ⟨-, result⟩⟩
  · rw [result]
    exact agree
  · -- Only here do cache and index change, and both to what was extracted.
    rw [result]
    obtain ⟨others, here⟩ := Cache.live?_store (c := s.cache) (u := d.uri)
      (e := ⟨d.version, (s.extract files d cancel s.tokenizer.watch).1.occurrences⟩) noOlder
    refine Cache.Matches.replace agree ?_ others ?_
    · exact s.extract_own files d cancel s.tokenizer.watch
    · intro e live
      rw [here e live]
  · rw [result]
    exact agree

theorem Agrees.didOpen (agree : s.Agrees) {d : Document} (noOlder : s.NoOlder d)
    (files : FileTree) : (s.didOpen files d).2.Agrees := by
  unfold Server.didOpen
  split
  · exact agree
  · exact (agree.withTokenizer (s.tokenizer.openDocument files d).2).parse
      (noOlder.withTokenizer _) files none

theorem Agrees.didChange (agree : s.Agrees) {d : Document} (noOlder : s.NoOlder d)
    (files : FileTree) (changes : List Change) (cancel : Option Cancellation) :
    (s.didChange files d changes cancel).2.Agrees :=
  (agree.withTokenizer (s.tokenizer.change d changes)).parse (noOlder.withTokenizer _) files cancel

theorem Agrees.reload (agree : s.Agrees) (files : FileTree) (d : Document) :
    (s.reload files d).2.Agrees := by
  -- Any version may be reloaded: the entry that it could be older than is removed first.
  refine (agree.remove d.uri).didOpen ?_ files
  intro e live
  have gone : (s.cache.remove d.uri).live? d.uri = some e := live
  simp [Cache.live?_remove] at gone

theorem extractFile_spares (s : Server σ) (files : FileTree) (path : Path) :
    s.Spares (s.extractFile files path).2 := by
  unfold extractFile
  cases read : s.fileToRead? files path with
  | none => exact .refl s
  | some d =>
    obtain ⟨-, -, closed, -⟩ := fileToRead?_eq_some.mp read
    exact keepClosed_spares closed _ _

theorem abandonFile_spares (s : Server σ) (files : FileTree) (path : Path) (pauses : Nat) :
    s.Spares (s.abandonFile files path pauses) := by
  unfold abandonFile
  cases read : s.fileToRead? files path with
  | none => exact .refl s
  | some d =>
    obtain ⟨-, -, closed, -⟩ := fileToRead?_eq_some.mp read
    dsimp only
    split
    · exact ⟨rfl, fun _ => rfl⟩
    · exact keepClosed_spares closed _ _

theorem extractFile_found {files : FileTree} {path : Path} {u : Uri} {found : List Occurrence}
    (agree : s.Agrees) (answer : (s.extractFile files path).1 = some (u, found)) :
    (∀ o ∈ found, o.uri = u) ∧ ∀ e, s.cache.live? u = some e → e.occurrences = found := by
  unfold extractFile at answer
  cases read : s.fileToRead? files path with
  | none =>
    rw [read] at answer
    obtain ⟨-, e, here, rfl⟩ := openFile?_eq_some answer
    refine ⟨agree.own here, ?_⟩
    intro e' live
    rw [here] at live
    rw [Option.some.inj live]
  | some d =>
    rw [read] at answer
    cases Option.some.inj answer
    obtain ⟨-, -, closed, -⟩ := fileToRead?_eq_some.mp read
    refine ⟨s.extract_own files d none s.tokenizer, ?_⟩
    intro e live
    rw [closed] at live
    cases live

theorem Agrees.didCreate (agree : s.Agrees) (files : FileTree) (u : Uri) :
    (s.didCreate files u).2.Agrees := by
  unfold Server.didCreate
  split
  · exact agree
  · rename_i path _
    have spares := s.extractFile_spares files path
    have later := agree.spares spares
    split
    · rename_i s' here
      rwa [here] at later
    · rename_i v found s' here
      obtain ⟨own, same⟩ := extractFile_found agree (congrArg Prod.fst here)
      rw [here] at spares later
      refine Cache.Matches.replace later own (fun _ _ => rfl) ?_
      intro e live
      exact same e (spares.live v ▸ live)

theorem Agrees.didRename (agree : s.Agrees) (files : FileTree) (old new : Uri) :
    (s.didRename files old new).2.Agrees :=
  (agree.remove old).didCreate files new

theorem scanner_leads (s : Server σ) (id : Nat) (react : String → Reaction) :
    (s.scanner id react).Leads fun a b => a.parser.Spares b.parser where
  refl a := .refl a.parser
  trans := .trans
  parse a path := a.parser.extractFile_spares a.files path
  announce _ _ := ⟨rfl, fun _ => rfl⟩
  abandon message path a := by
    simp only [scanner]
    split
    · exact .refl a.parser
    · exact a.parser.abandonFile_spares a.files path _

/-- The contributions of a new index: what the scan found, and what open documents hold. -/
def gathered (c : Cache) (found : List Occurrence) : Contributions :=
  c.openEntries.foldl (fun m (u, found) => m.insert u found) (byDocument found)

theorem gathered_live {c : Cache} {u : Uri} {e : CacheEntry} (live : c.live? u = some e)
    (found : List Occurrence) : (gathered c found)[u]?.getD [] = e.occurrences := by
  have folded := Contributions.getD_foldl Contributions.getD_insert c.openEntries_distinct
    (byDocument found) u e.occurrences
  exact folded.1 ((c.mem_openEntries u).mpr ⟨e, live, rfl⟩)

theorem filed_byDocument (found : List Occurrence) : Contributions.Filed (byDocument found) := by
  have run : ∀ m : Contributions, m.Filed →
      Contributions.Filed (found.foldl (fun m o =>
        m.alter o.uri fun before => some (before.getD [] ++ [o])) m) := by
    induction found with
    | nil => exact fun m filed => filed
    | cons o found ih => exact fun m filed => ih _ (filed.append o)
  refine run ∅ ?_
  intro u o member
  simp at member

theorem filed_gathered {c : Cache}
    (own : ∀ u e, c.live? u = some e → ∀ o ∈ e.occurrences, o.uri = u)
    (found : List Occurrence) : (gathered c found).Filed := by
  have entries : ∀ entry ∈ c.openEntries, ∀ o ∈ entry.2, o.uri = entry.1 := by
    intro ⟨u, more⟩ member
    obtain ⟨e, live, rfl⟩ := (c.mem_openEntries u).mp member
    exact own u e live
  have run : ∀ (entries : List (Uri × List Occurrence)) (m : Contributions),
      (∀ entry ∈ entries, ∀ o ∈ entry.2, o.uri = entry.1) → m.Filed →
      Contributions.Filed (entries.foldl (fun m (u, found) => m.insert u found) m) := by
    intro entries
    induction entries with
    | nil => exact fun m _ filed => filed
    | cons entry entries ih =>
      intro m own filed
      exact ih _ (fun e member => own e (.tail _ member)) (filed.insert (own entry (.head _)))
  exact run c.openEntries _ entries (filed_byDocument found)

theorem represents_gathered {c : Cache}
    (own : ∀ u e, c.live? u = some e → ∀ o ∈ e.occurrences, o.uri = u)
    (found : List Occurrence) :
    (Index.ofDocuments (gathered c found).toList).Represents
      (Contributions.ofDocuments (gathered c found).toList) := by
  apply Index.represents_ofDocuments
  intro ⟨u, more⟩ member o here
  have stored := Std.ExtTreeMap.mem_toList_iff_getElem?_eq_some.mp member
  exact filed_gathered own found u o (by simpa [stored] using here)

theorem matches_gathered {c : Cache} {i : Index} (agree : c.Matches i) (found : List Occurrence) :
    c.Matches (Index.ofDocuments (gathered c found).toList) := by
  have made := represents_gathered (fun _ _ live => agree.own live) found
  have documents := made.documents
  refine ⟨documents ▸ made, ?_⟩
  intro u e live
  rw [documents, Contributions.getD_ofDocuments_toList, gathered_live live]

def scanStart (s : Server σ) (files : FileTree) (isCancelled : Bool) : ScanState (Server σ) :=
  ⟨files, isCancelled, { s with
    progress := s.progress.start "Parsing resources"
    cache := s.cache.clearClosed }⟩

def scanned (s : Server σ) (files : FileTree) (isCancelled : Bool) (react : String → Reaction) :
    Scanned (Server σ) :=
  (s.scanner (s.progress.start "Parsing resources").begun react).scanAll s.roots
    (s.scanStart files isCancelled)

theorem rescan_cases (s : Server σ) (files : FileTree) (isCancelled : Bool)
    (react : String → Reaction) : ∃ last progress,
    (∃ x, s.scanned files isCancelled react = (.error x, last) ∧
      s.rescan files isCancelled react = (.error x, { last.parser with progress }, last.files)) ∨
    ∃ found, s.scanned files isCancelled react = (.ok found, last) ∧
      s.rescan files isCancelled react = (.ok found,
        { last.parser with
          progress, index := Index.ofDocuments (gathered last.parser.cache found).toList },
        last.files) := by
  cases result : s.scanned files isCancelled react with
  | mk answer last =>
    simp only [scanned, scanStart] at result
    unfold Server.rescan
    dsimp only
    rw [result]
    cases answer with
    | error x => exact ⟨last, _, .inl ⟨x, rfl, rfl⟩⟩
    | ok found => exact ⟨last, _, .inr ⟨found, rfl, rfl⟩⟩

theorem scanned_spares (s : Server σ) (files : FileTree) (isCancelled : Bool)
    (react : String → Reaction) : s.Spares (s.scanned files isCancelled react).2.parser := by
  have start : s.Spares (s.scanStart files isCancelled).parser :=
    ⟨rfl, s.cache.live?_clearClosed⟩
  exact start.trans ((s.scanner_leads _ react).scanAll s.roots _)

theorem Agrees.rescan (agree : s.Agrees) (files : FileTree) (isCancelled : Bool)
    (react : String → Reaction) : (s.rescan files isCancelled react).2.1.Agrees := by
  have later := agree.spares (s.scanned_spares files isCancelled react)
  -- A scan that fails leaves the index, and closed entries are all that the cache has lost.
  obtain ⟨last, progress, ⟨x, scan, result⟩ | ⟨found, scan, result⟩⟩ :=
    s.rescan_cases files isCancelled react
  · rw [scan] at later
    rw [result]
    exact later
  · rw [scan] at later
    rw [result]
    exact matches_gathered later found

/-- The states that calls of a host lead to. The files may change between any two calls, and a scan
may fail or be stopped; no call that can meet a live entry brings an older version than it. -/
inductive Reachable : Server σ → Prop
  | new (config : Config) (provider : Provider) (engine : Engine σ) (s : Server σ) :
      Server.new config provider engine = .ok s → Reachable s
  | withFolders (s : Server σ) (folders : List String) : Reachable s →
      Reachable (s.withFolders folders)
  | opened (s : Server σ) (files : FileTree) (d : Document) : Reachable s → s.NoOlder d →
      Reachable (s.didOpen files d).2
  | parsed (s : Server σ) (files : FileTree) (d : Document) (cancel : Option Cancellation) :
      Reachable s → s.NoOlder d → Reachable (s.parse files d cancel).2
  | changed (s : Server σ) (files : FileTree) (d : Document) (changes : List Change)
      (cancel : Option Cancellation) : Reachable s → s.NoOlder d →
      Reachable (s.didChange files d changes cancel).2
  | closed (s : Server σ) (u : Uri) : Reachable s → Reachable (s.didClose u)
  | created (s : Server σ) (files : FileTree) (u : Uri) : Reachable s →
      Reachable (s.didCreate files u).2
  | removed (s : Server σ) (u : Uri) : Reachable s → Reachable (s.remove u)
  | renamed (s : Server σ) (files : FileTree) (old new : Uri) : Reachable s →
      Reachable (s.didRename files old new).2
  | reloaded (s : Server σ) (files : FileTree) (d : Document) : Reachable s →
      Reachable (s.reload files d).2
  | rescanned (s : Server σ) (files : FileTree) (isCancelled : Bool) (react : String → Reaction) :
      Reachable s → Reachable (s.rescan files isCancelled react).2.1
  | asked (s : Server σ) (files : FileTree) (d : Document) (p : Position) : Reachable s →
      Reachable (s.scopeAt files d p).2

theorem Reachable.agrees (reachable : s.Reachable) : s.Agrees := by
  induction reachable with
  | new config provider engine s built =>
    obtain ⟨patterns, excludes, -, rfl⟩ := new_eq_ok built
    exact Cache.matches_empty
  | withFolders s folders _ agree => exact agree
  | opened s files d _ noOlder agree => exact agree.didOpen noOlder files
  | parsed s files d cancel _ noOlder agree => exact agree.parse noOlder files cancel
  | changed s files d changes cancel _ noOlder agree =>
    exact agree.didChange noOlder files changes cancel
  | closed s u _ agree => exact agree.didClose u
  | created s files u _ agree => exact agree.didCreate files u
  | removed s u _ agree => exact agree.remove u
  | renamed s files old new _ agree => exact agree.didRename files old new
  | reloaded s files d _ agree => exact agree.reload files d
  | rescanned s files isCancelled react _ agree => exact agree.rescan files isCancelled react
  | asked s files d p _ agree => exact agree

/-- In every state, the index shows of the document of a live entry what the entry holds. -/
theorem index_shows_live_entries {u : Uri} {e : CacheEntry} (reachable : s.Reachable)
    (stored : s.cache.get? u = some e) (live : e.version ≠ Cache.closedVersion) (kind : EventKind)
    (name : String) (l : Location) :
    l ∈ s.index.locations kind name ∧ l.uri = u ↔
      ∃ o ∈ e.occurrences, o.kind = kind ∧ o.name = name ∧ o.location = l := by
  exact reachable.agrees.locations ((s.cache.live?_eq_some_iff u).mpr ⟨stored, live⟩) kind name l

def callsOfF : Config :=
  { Config.default with
    events := [⟨"lua", ["f"], []⟩]
    template := ⟨"(\x7bEVENTS\x7d)\\((\\))", 1, 2⟩
    excludeGlobs := [] }

def luaInline : Provider :=
  ⟨[⟨"lua", ["lua"], "source.lua", .inline "line_comment=--\nblock_comment=--[[ ]]\n"⟩], 0⟩

def markerEngine : Engine GrammarState :=
  ⟨fun scope source => (MarkerGrammar.parse scope source).map MarkerGrammar.toGrammar⟩

def oneCall : Document := ⟨⟨"file:///a.lua"⟩, "lua", 1, "-- f()\nf()".toList⟩

/-- A call inside a comment and one behind it. -/
theorem index_shows_live_entries_one_call : ∃ (s : Server GrammarState) (e : CacheEntry),
    s.Reachable ∧ s.cache.get? oneCall.uri = some e ∧ e.version ≠ Cache.closedVersion ∧
      (∃ o ∈ e.occurrences, o.location = ⟨oneCall.uri, ⟨1, 0⟩⟩) ∧
      ∀ kind name l, l ∈ s.index.locations kind name ∧ l.uri = oneCall.uri ↔
        ∃ o ∈ e.occurrences, o.kind = kind ∧ o.name = name ∧ o.location = l := by
  have entry : (Server.new callsOfF luaInline markerEngine).toOption.bind (fun s =>
      (s.didOpen (.folder []) oneCall).2.cache.get? oneCall.uri) =
        some ⟨1, [⟨.trigger, ")", ⟨oneCall.uri, ⟨1, 0⟩⟩⟩]⟩ := by decide +kernel
  cases built : Server.new callsOfF luaInline markerEngine with
  | error e => simp [built, Except.toOption] at entry
  | ok s =>
    simp only [built, Except.toOption, Option.bind_some] at entry
    have noOlder : s.NoOlder oneCall := by
      obtain ⟨patterns, excludes, -, rfl⟩ := new_eq_ok built
      intro e live
      simp [Cache.live?, Cache.get?, Cache.empty] at live
    have reachable := Reachable.opened s (.folder []) oneCall (.new _ _ _ s built) noOlder
    have live : (1 : Int) ≠ Cache.closedVersion := by decide
    exact ⟨_, _, reachable, entry, live, ⟨_, List.mem_singleton.mpr rfl, rfl⟩,
      index_shows_live_entries reachable entry live⟩

end Server

end EventXref
