import EventXref.Proofs.Rescan

/-!
Documents do not depend on each other. A call is about one document, or two if a file gets another
name; all it does to states, cache and index concerns these. The index keeps the places of all
documents together under one name, so that nothing else is lost there rests on what it files: every
contribution holds occurrences of its own document, after any calls.
-/
namespace EventXref

namespace Index

variable {i : Index} {m : Contributions} {u : Uri} {found : List Occurrence} {l : Location}

theorem Represents.of_documents (shows : i.Represents m) : i.Represents i.documents :=
  shows.documents ▸ shows

theorem Represents.mem_replace (shows : i.Represents m) (own : ∀ o ∈ found, o.uri = u)
    (kind : EventKind) (name : String) (l : Location) :
    l ∈ (i.replace u found).locations kind name ↔
      if u = l.uri then ⟨kind, name, l⟩ ∈ found else l ∈ i.locations kind name := by
  rw [(shows.replace own).lists.mem, shows.owned.has_replace own, shows.lists.mem]
  rfl

theorem Represents.mem_remove (shows : i.Represents m) (u : Uri) (kind : EventKind) (name : String)
    (l : Location) :
    l ∈ (i.remove u).2.locations kind name ↔ u ≠ l.uri ∧ l ∈ i.locations kind name := by
  rw [(shows.remove u).lists.mem, shows.lists.mem, (shows.owned.erase u).has_iff,
    shows.owned.has_iff, Std.ExtTreeMap.getElem?_erase]
  by_cases same : u = l.uri
  · simp [Occurrence.uri, ← same]
  · simp [Occurrence.uri, same]

end Index

namespace Cache

variable (c : Cache) {u v : Uri}

theorem get?_store_cases (u v : Uri) (e : CacheEntry) :
    (c.store u e).get? v = c.get? v ∨ u = v ∧ (c.store u e).get? v = some e := by
  unfold store
  split
  · exact .inl rfl
  · by_cases here : u = v
    · exact .inr ⟨here, by simp [get?, here]⟩
    · exact .inl (by simp [get?, Std.ExtTreeMap.getElem?_insert, here])

theorem get?_store_of_ne (e : CacheEntry) (other : v ≠ u) : (c.store u e).get? v = c.get? v := by
  rcases c.get?_store_cases u v e with same | ⟨here, -⟩
  · exact same
  · exact absurd here.symm other

theorem get?_insertClosed_of_ne (found : List Occurrence) (other : v ≠ u) :
    (c.insertClosed u found).get? v = c.get? v := by
  rw [get?_insertClosed, if_neg (Ne.symm other)]

theorem get?_close_of_ne (other : v ≠ u) : (c.close u).get? v = c.get? v := by
  unfold close
  split
  · exact get?_insertClosed_of_ne c _ other
  · rfl

theorem get?_remove (u v : Uri) : (c.remove u).get? v = if u = v then none else c.get? v := by
  simp [get?, remove, Std.ExtTreeMap.getElem?_erase]

end Cache

namespace Tokenizer

variable {σ : Type} {t : Tokenizer σ} {u v : Uri}

theorem close_documents (t : Tokenizer σ) (u v : Uri) :
    (t.close u).documents[v]? = if u = v then none else t.documents[v]? := by
  simp [close, Std.ExtTreeMap.getElem?_erase]

theorem change_others [DecidableEq σ] (t : Tokenizer σ) (d : Document) (changes : List Change)
    (other : v ≠ d.uri) : (t.change d changes).documents[v]? = t.documents[v]? := by
  cases tracked : t.documents[d.uri]? with
  | none => simp [change, tracked]
  | some s =>
    rw [change_documents t d changes tracked, Std.ExtTreeMap.getElem?_insert,
      if_neg (by simpa using other.symm)]

end Tokenizer

/-- The URI of the file that a URI leads to. It need not be the same URI: one file has many. -/
def Uri.ofFile? (u : Uri) : Option Uri := u.filePath?.bind Uri.ofFilePath?

namespace Server

variable {σ : Type} {s s' s'' : Server σ} {files : FileTree} {u v : Uri} {path : Path}

/-- Two states hold the same of a document: line states, entry of the cache, places in the index. -/
structure SameOf (v : Uri) (s s' : Server σ) : Prop where
  states : s'.tokenizer.documents[v]? = s.tokenizer.documents[v]?
  entry : s'.cache.get? v = s.cache.get? v
  places : ∀ kind name l, l.uri = v →
    (l ∈ s'.index.locations kind name ↔ l ∈ s.index.locations kind name)

theorem SameOf.refl (v : Uri) (s : Server σ) : SameOf v s s := ⟨rfl, rfl, fun _ _ _ _ => .rfl⟩

theorem SameOf.trans (first : SameOf v s s') (second : SameOf v s' s'') : SameOf v s s'' :=
  ⟨second.states.trans first.states, second.entry.trans first.entry,
    fun kind name l here => (second.places kind name l here).trans (first.places kind name l here)⟩

/-- All that a step about the document `u` may do: what it changes of states and cache is filed
under `u`, and the index stays, or takes back what `u` contributed, or gets it anew. -/
structure Touches (u : Uri) (s s' : Server σ) : Prop where
  states : ∀ v : Uri, v ≠ u → s'.tokenizer.documents[v]? = s.tokenizer.documents[v]?
  entries : ∀ v, v ≠ u → s'.cache.get? v = s.cache.get? v
  index : s'.index = s.index ∨ s'.index = (s.index.remove u).2 ∨
    ∃ found, (∀ o ∈ found, o.uri = u) ∧ s'.index = s.index.replace u found

/-- The index files every contribution under the document that its occurrences are of. -/
def WellFiled (s : Server σ) : Prop := s.index.Represents s.index.documents

theorem Touches.wellFiled (touches : Touches u s s') (filed : s.WellFiled) : s'.WellFiled := by
  unfold WellFiled
  rcases touches.index with same | removed | ⟨found, own, replaced⟩
  · rwa [same]
  · rw [removed]
    exact (Index.Represents.remove filed u).of_documents
  · rw [replaced]
    exact (Index.Represents.replace filed own).of_documents

theorem Touches.same (touches : Touches u s s') (filed : s.WellFiled) (other : v ≠ u) :
    SameOf v s s' := by
  refine ⟨touches.states v other, touches.entries v other, ?_⟩
  rintro kind name l rfl
  rcases touches.index with same | removed | ⟨found, own, replaced⟩
  · rw [same]
  · rw [removed, Index.Represents.mem_remove filed]
    simp [Ne.symm other]
  · rw [replaced, Index.Represents.mem_replace filed own, if_neg (Ne.symm other)]

theorem Touches.after_tokenizer {t : Tokenizer σ} (touches : Touches u { s with tokenizer := t } s')
    (others : ∀ v : Uri, v ≠ u → t.documents[v]? = s.tokenizer.documents[v]?) : Touches u s s' :=
  ⟨fun v other => (touches.states v other).trans (others v other), touches.entries, touches.index⟩

theorem remove_touches (s : Server σ) (u : Uri) : Touches u s (s.remove u) where
  states v other := (s.tokenizer.close_documents u v).trans (if_neg (Ne.symm other))
  entries v other := (s.cache.get?_remove u v).trans (if_neg (Ne.symm other))
  index := .inr (.inl rfl)

theorem didClose_touches (s : Server σ) (u : Uri) : Touches u s (s.didClose u) where
  states v other := (s.tokenizer.close_documents u v).trans (if_neg (Ne.symm other))
  entries _ other := s.cache.get?_close_of_ne other
  index := .inl rfl

variable [DecidableEq σ]

theorem extract_others (s : Server σ) (files : FileTree) (d : Document)
    (cancel : Option Cancellation) (t : Tokenizer σ) (other : v ≠ d.uri) :
    (s.extract files d cancel t).2.documents[v]? = t.documents[v]? := by
  have keeps : ∀ (now : Tokenizer σ) p, now.documents[v]? = t.documents[v]? →
      (now.scopeAt files d p).2.documents[v]? = t.documents[v]? :=
    fun now p same => ((now.scopeAt_updates files d p).others other).trans same
  exact Extraction.extract_keeps keeps s.patterns s.config.maxFileSize d cancel rfl

theorem parse_touches (s : Server σ) (files : FileTree) (d : Document)
    (cancel : Option Cancellation) : Touches d.uri s (s.parse files d cancel).2 := by
  unfold Server.parse
  split
  · exact ⟨fun _ _ => rfl, fun _ _ => rfl, .inl rfl⟩
  have others : ∀ v : Uri, v ≠ d.uri →
      (s.extract files d cancel s.tokenizer.watch).2.documents[v]? = s.tokenizer.documents[v]? :=
    fun v other => s.extract_others files d cancel s.tokenizer.watch other
  rcases s.cache.getOrExtract_cases d.uri d.version (s.extract files d cancel)
    s.tokenizer.watch with ⟨found, result, -⟩ | ⟨-, ⟨-, result⟩ | ⟨-, result⟩⟩
  · rw [result]
    exact ⟨fun _ _ => rfl, fun _ _ => rfl, .inl rfl⟩
  · rw [result]
    exact ⟨others, fun v other => s.cache.get?_store_of_ne _ other,
      .inr (.inr ⟨_, s.extract_own files d cancel s.tokenizer.watch, rfl⟩)⟩
  · rw [result]
    exact ⟨others, fun _ _ => rfl, .inl rfl⟩

theorem didOpen_touches (s : Server σ) (files : FileTree) (d : Document) :
    Touches d.uri s (s.didOpen files d).2 := by
  unfold Server.didOpen
  split
  · exact ⟨fun _ _ => rfl, fun _ _ => rfl, .inl rfl⟩
  · apply (parse_touches { s with tokenizer := (s.tokenizer.openDocument files d).2 } files d
      none).after_tokenizer
    exact fun v other => (s.tokenizer.openDocument_updates files d).others other

theorem didChange_touches (s : Server σ) (files : FileTree) (d : Document) (changes : List Change)
    (cancel : Option Cancellation) : Touches d.uri s (s.didChange files d changes cancel).2 := by
  apply (parse_touches { s with tokenizer := s.tokenizer.change d changes } files d
    cancel).after_tokenizer
  exact fun v other => s.tokenizer.change_others d changes other

theorem scopeAt_touches (s : Server σ) (files : FileTree) (d : Document) (p : Position) :
    Touches d.uri s (s.scopeAt files d p).2 :=
  ⟨fun _ other => (s.tokenizer.scopeAt_updates files d p).others other, fun _ _ => rfl, .inl rfl⟩

theorem extractFile_touches (own : s.cache.Own) (files : FileTree) (path : Path) :
    (s.extractFile files path = (none, s)) ∨
      ∃ u found, Uri.ofFilePath? path = some u ∧ (s.extractFile files path).1 = some (u, found) ∧
        (∀ o ∈ found, o.uri = u) ∧ Touches u s (s.extractFile files path).2 := by
  cases read : s.fileToRead? files path with
  | some d =>
    obtain ⟨-, named, -⟩ := fileToRead?_eq_some.mp read
    right
    refine ⟨d.uri, _, named, by simp only [extractFile, read],
      s.extract_own files d none s.tokenizer, ?_⟩
    simp only [extractFile, read]
    refine ⟨?_, fun v other => s.cache.get?_insertClosed_of_ne _ other, .inl rfl⟩
    intro v other
    refine (Tokenizer.close_documents _ d.uri v).trans ?_
    rw [if_neg (Ne.symm other)]
    exact s.extract_others files d none s.tokenizer other
  | none =>
    simp only [extractFile, read]
    cases answer : s.openFile? path with
    | none => exact .inl rfl
    | some entry =>
      obtain ⟨u, found⟩ := entry
      obtain ⟨named, e, live, rfl⟩ := openFile?_eq_some answer
      exact .inr ⟨u, _, named, rfl, own.live live, fun _ _ => rfl, fun _ _ => rfl, .inl rfl⟩

theorem didCreate_touches (own : s.cache.Own) (files : FileTree) (u : Uri) :
    (s.didCreate files u).2 = s ∨ ∃ v, u.ofFile? = some v ∧ Touches v s (s.didCreate files u).2 := by
  cases leads : u.filePath? with
  | none => simp [Server.didCreate, leads]
  | some path =>
    rcases extractFile_touches own files path with nothing | ⟨v, found, named, answer, here, touches⟩
    · simp [Server.didCreate, leads, nothing]
    · right
      refine ⟨v, by simp [Uri.ofFile?, leads, named], ?_⟩
      have result : (s.didCreate files u).2 = { (s.extractFile files path).2 with
          index := (s.extractFile files path).2.index.replace v found } := by
        simp only [Server.didCreate, leads]
        split
        · simp_all
        · simp_all
      rw [result, (s.extractFile_spares files path).index]
      exact ⟨touches.states, touches.entries, .inr (.inr ⟨found, here, rfl⟩)⟩

theorem rescan_wellFiled (own : s.cache.Own) (filed : s.WellFiled) (files : FileTree)
    (isCancelled : Bool) (react : String → Reaction) :
    (s.rescan files isCancelled react).2.1.WellFiled := by
  have spares := s.scanned_spares files isCancelled react
  obtain ⟨last, progress, ⟨x, scan, result⟩ | ⟨found, scan, result⟩⟩ :=
    s.rescan_cases files isCancelled react
  · rw [scan] at spares
    rw [result]
    show last.parser.index.Represents last.parser.index.documents
    rwa [spares.index]
  · rw [result]
    exact (scanned_gathers own isCancelled scan).represents.of_documents

theorem didCreate_wellFiled (own : s.cache.Own) (filed : s.WellFiled) (files : FileTree) (u : Uri) :
    (s.didCreate files u).2.WellFiled := by
  rcases didCreate_touches own files u with same | ⟨v, -, touches⟩
  · rwa [same]
  · exact touches.wellFiled filed

theorem Arises.wellFiled (arises : s.Arises) : s.WellFiled := by
  induction arises with
  | new config provider engine s built =>
    obtain ⟨patterns, excludes, -, rfl⟩ := new_eq_ok built
    exact Index.represents_empty.of_documents
  | withFolders s folders _ filed => exact filed
  | tokenized s t _ filed => exact filed
  | opened s files d _ filed => exact (s.didOpen_touches files d).wellFiled filed
  | parsed s files d cancel _ filed => exact (s.parse_touches files d cancel).wellFiled filed
  | changed s files d changes cancel _ filed =>
    exact (s.didChange_touches files d changes cancel).wellFiled filed
  | closed s u _ filed => exact filed
  | created s files u arises filed => exact didCreate_wellFiled arises.own filed files u
  | removed s u _ filed => exact (s.remove_touches u).wellFiled filed
  | renamed s files old new arises filed =>
    exact didCreate_wellFiled (arises.own.remove old) ((s.remove_touches old).wellFiled filed) files
      new
  | reloaded s files d _ filed =>
    exact ((s.remove d.uri).didOpen_touches files d).wellFiled
      ((s.remove_touches d.uri).wellFiled filed)
  | rescanned s files isCancelled react arises filed =>
    exact rescan_wellFiled arises.own filed files isCancelled react
  | asked s files d p _ filed => exact filed

/-- The calls that are about documents, with all they are given. -/
inductive Call
  | didOpen (d : Document)
  | parse (d : Document) (cancel : Option Cancellation)
  | didChange (d : Document) (changes : List Change) (cancel : Option Cancellation)
  | didClose (u : Uri)
  | didCreate (u : Uri)
  | remove (u : Uri)
  | didRename (old new : Uri)
  | reload (d : Document)
  | scopeAt (d : Document) (p : Position)

namespace Call

def run (files : FileTree) (s : Server σ) : Call → Server σ
  | didOpen d => (s.didOpen files d).2
  | parse d cancel => (s.parse files d cancel).2
  | didChange d changes cancel => (s.didChange files d changes cancel).2
  | didClose u => s.didClose u
  | didCreate u => (s.didCreate files u).2
  | remove u => s.remove u
  | didRename old new => (s.didRename files old new).2
  | reload d => (s.reload files d).2
  | scopeAt d p => (s.scopeAt files d p).2

/-- The documents that a call is about. A file that is read counts under the URI of its path. -/
def about : Call → List Uri
  | didOpen d | parse d _ | didChange d _ _ | reload d | scopeAt d _ => [d.uri]
  | didClose u | remove u => [u]
  | didCreate u => u.ofFile?.toList
  | didRename old new => old :: new.ofFile?.toList

theorem arises_run (arises : s.Arises) (files : FileTree) (call : Call) :
    (call.run files s).Arises := by
  cases call with
  | didOpen d => exact .opened s files d arises
  | parse d cancel => exact .parsed s files d cancel arises
  | didChange d changes cancel => exact .changed s files d changes cancel arises
  | didClose u => exact .closed s u arises
  | didCreate u => exact .created s files u arises
  | remove u => exact .removed s u arises
  | didRename old new => exact .renamed s files old new arises
  | reload d => exact .reloaded s files d arises
  | scopeAt d p => exact .asked s files d p arises

theorem same_didCreate (own : s.cache.Own) (filed : s.WellFiled) (files : FileTree)
    (other : v ∉ u.ofFile?) : SameOf v s (s.didCreate files u).2 := by
  rcases didCreate_touches own files u with same | ⟨w, leads, touches⟩
  · rw [same]
    exact .refl v s
  · exact touches.same filed fun here => other (here ▸ leads)

theorem same_run (arises : s.Arises) (files : FileTree) (call : Call) (other : v ∉ call.about) :
    SameOf v s (call.run files s) := by
  have filed := arises.wellFiled
  cases call with
  | didOpen d => exact (s.didOpen_touches files d).same filed (by simpa [about] using other)
  | parse d cancel =>
    exact (s.parse_touches files d cancel).same filed (by simpa [about] using other)
  | didChange d changes cancel =>
    exact (s.didChange_touches files d changes cancel).same filed (by simpa [about] using other)
  | didClose u => exact (s.didClose_touches u).same filed (by simpa [about] using other)
  | didCreate u => exact same_didCreate arises.own filed files (by simpa [about] using other)
  | remove u => exact (s.remove_touches u).same filed (by simpa [about] using other)
  | didRename old new =>
    obtain ⟨otherOld, otherNew⟩ : v ≠ old ∧ v ∉ new.ofFile? := by simpa [about] using other
    exact ((s.remove_touches old).same filed otherOld).trans
      (same_didCreate (arises.own.remove old) ((s.remove_touches old).wellFiled filed) files otherNew)
  | reload d =>
    have other : v ≠ d.uri := by simpa [about] using other
    exact ((s.remove_touches d.uri).same filed other).trans
      (((s.remove d.uri).didOpen_touches files d).same
        ((s.remove_touches d.uri).wellFiled filed) other)
  | scopeAt d p => exact (s.scopeAt_touches files d p).same filed (by simpa [about] using other)

def runAll (s : Server σ) (calls : List (FileTree × Call)) : Server σ :=
  calls.foldl (fun s call => call.2.run call.1 s) s

theorem same_runAll (arises : s.Arises) (calls : List (FileTree × Call))
    (others : ∀ call ∈ calls, v ∉ call.2.about) : SameOf v s (runAll s calls) := by
  induction calls generalizing s with
  | nil => exact .refl v s
  | cons call calls ih =>
    have here := same_run arises call.1 call.2 (others call List.mem_cons_self)
    have rest := ih (arises_run arises call.1 call.2)
      fun later member => others later (List.mem_cons_of_mem _ member)
    exact here.trans rest

end Call

/-- Documents are independent. A call, and so a run of calls, leaves states, cache entry and places
of every document that it is not about; and a document that is removed leaves nothing behind. -/
theorem documents_are_independent (arises : s.Arises) :
    (∀ files (call : Call) v, v ∉ call.about → SameOf v s (call.run files s)) ∧
    (∀ calls v, (∀ call ∈ calls, v ∉ call.2.about) → SameOf v s (Call.runAll s calls)) ∧
    ∀ u : Uri, (s.remove u).tokenizer.documents[u]? = none ∧ (s.remove u).cache.get? u = none ∧
      ∀ kind name, ∀ l ∈ (s.remove u).index.locations kind name, l.uri ≠ u := by
  refine ⟨fun files call v => Call.same_run arises files call,
    fun calls v => Call.same_runAll arises calls, fun u => ⟨?_, ?_, ?_⟩⟩
  · exact (s.tokenizer.close_documents u u).trans (if_pos rfl)
  · exact (s.cache.get?_remove u u).trans (if_pos rfl)
  · intro kind name l listed
    have kept := (Index.Represents.mem_remove arises.wellFiled u kind name l).mp listed
    exact Ne.symm kept.1

def otherCall : Document := ⟨⟨"file:///b.lua"⟩, "lua", 1, "f()".toList⟩

/-- Two documents raise one event, and one of them is removed. -/
theorem documents_are_independent_one_event : ∃ s : Server GrammarState, s.Arises ∧
    s.index.locations .trigger ")" = [⟨oneCall.uri, ⟨1, 0⟩⟩, ⟨otherCall.uri, ⟨0, 0⟩⟩] ∧
    oneCall.uri ∉ (Call.remove otherCall.uri).about ∧ SameOf oneCall.uri s (s.remove otherCall.uri) ∧
    ∀ kind name, ∀ l ∈ (s.remove otherCall.uri).index.locations kind name, l.uri ≠ otherCall.uri := by
  have run : (Server.new callsOfF luaInline markerEngine).toOption.any (fun s =>
      let s := ((s.didOpen (.folder []) oneCall).2.didOpen (.folder []) otherCall).2
      s.index.locations .trigger ")" = [⟨oneCall.uri, ⟨1, 0⟩⟩, ⟨otherCall.uri, ⟨0, 0⟩⟩]) = true := by
    decide +kernel
  cases built : Server.new callsOfF luaInline markerEngine with
  | error e => simp [built, Except.toOption] at run
  | ok s =>
    simp only [built, Except.toOption, Option.any_some, decide_eq_true_eq] at run
    have arises := Arises.opened _ (.folder []) otherCall
      (.opened s (.folder []) oneCall (.new _ _ _ s built))
    obtain ⟨each, -, gone⟩ := documents_are_independent arises
    have other : oneCall.uri ∉ (Call.remove otherCall.uri).about := by decide
    exact ⟨_, arises, run, other, each (.folder []) (.remove otherCall.uri) oneCall.uri other,
      (gone otherCall.uri).2.2⟩

end Server

end EventXref
