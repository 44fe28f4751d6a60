import EventXref.Proofs.Agreement

namespace EventXref

namespace Cache

/-- Every entry holds occurrences of its own document. -/
def Own (c : Cache) : Prop := ∀ u e, c.get? u = some e → ∀ o ∈ e.occurrences, o.uri = u

variable {c : Cache} {u : Uri} {found : List Occurrence}

theorem own_empty : empty.Own := by
  intro u e stored
  simp [get?, empty] at stored

theorem Own.insert {e : CacheEntry} (own : c.Own) (here : ∀ o ∈ e.occurrences, o.uri = u) :
    Own ⟨c.entries.insert u e⟩ := by
  intro v e' stored
  simp only [get?, Std.ExtTreeMap.getElem?_insert, Std.LawfulEqCmp.compare_eq_iff_eq] at stored
  split at stored
  · rename_i same
    cases Option.some.inj stored
    rwa [← same]
  · exact own v e' stored

theorem Own.store {e : CacheEntry} (own : c.Own) (here : ∀ o ∈ e.occurrences, o.uri = u) :
    (c.store u e).Own := by
  unfold Cache.store
  split
  · exact own
  · exact own.insert here

theorem Own.insertClosed (own : c.Own) (here : ∀ o ∈ found, o.uri = u) :
    (c.insertClosed u found).Own :=
  own.insert (e := ⟨closedVersion, found⟩) here

theorem Own.close (own : c.Own) (u : Uri) : (c.close u).Own := by
  unfold Cache.close
  split
  · rename_i e stored
    exact own.insertClosed (own u e stored)
  · exact own

theorem Own.remove (own : c.Own) (u : Uri) : (c.remove u).Own := by
  intro v e stored
  simp only [get?, Cache.remove, Std.ExtTreeMap.getElem?_erase] at stored
  split at stored
  · cases stored
  · exact own v e stored

theorem Own.clearClosed (own : c.Own) : c.clearClosed.Own := by
  intro v e stored
  simp only [get?, Cache.clearClosed, Std.ExtTreeMap.getElem?_filter'] at stored
  exact own v e (Option.filter_eq_some_iff.mp stored).1

theorem Own.live (own : c.Own) {e : CacheEntry} (live : c.live? u = some e) :
    ∀ o ∈ e.occurrences, o.uri = u :=
  own u e ((c.live?_eq_some_iff u).mp live).1

end Cache

namespace Server

variable {σ : Type} [DecidableEq σ] {s : Server σ}

theorem own_parse (own : s.cache.Own) (files : FileTree) (d : Document)
    (cancel : Option Cancellation) : (s.parse files d cancel).2.cache.Own := by
  unfold Server.parse
  split
  · exact own
  rcases s.cache.getOrExtract_cases d.uri d.version (s.extract files d cancel)
    s.tokenizer.watch with ⟨found, result, -⟩ | ⟨-, ⟨-, result⟩ | ⟨-, result⟩⟩
  · rw [result]
    exact own
  · rw [result]
    exact own.store (s.extract_own files d cancel s.tokenizer.watch)
  · rw [result]
    exact own

theorem own_didOpen (own : s.cache.Own) (files : FileTree) (d : Document) :
    (s.didOpen files d).2.cache.Own := by
  unfold Server.didOpen
  split
  · exact own
  · exact own_parse (s := { s with tokenizer := (s.tokenizer.openDocument files d).2 }) own files d
      none

theorem own_didChange (own : s.cache.Own) (files : FileTree) (d : Document) (changes : List Change)
    (cancel : Option Cancellation) : (s.didChange files d changes cancel).2.cache.Own :=
  own_parse (s := { s with tokenizer := s.tokenizer.change d changes }) own files d cancel

theorem own_extractFile (own : s.cache.Own) (files : FileTree) (path : Path) :
    (s.extractFile files path).2.cache.Own := by
  unfold extractFile
  split
  · exact own
  · rename_i d _
    exact own.insertClosed (s.extract_own files d none s.tokenizer)

theorem own_abandonFile (own : s.cache.Own) (files : FileTree) (path : Path) (pauses : Nat) :
    (s.abandonFile files path pauses).cache.Own := by
  unfold abandonFile
  split
  · exact own
  · rename_i d _
    dsimp only
    split
    · exact own
    · exact own.insertClosed (Extraction.extract_uri _ d _ _ none _)

theorem own_didCreate (own : s.cache.Own) (files : FileTree) (u : Uri) :
    (s.didCreate files u).2.cache.Own := by
  unfold Server.didCreate
  split
  · exact own
  · rename_i path _
    have read := own_extractFile own files path
    split
    · rename_i here
      rwa [here] at read
    · rename_i here
      rwa [here] at read

theorem own_rescan (own : s.cache.Own) (files : FileTree) (isCancelled : Bool)
    (react : String → Reaction) : (s.rescan files isCancelled react).2.1.cache.Own := by
  have leads : (s.scanner (s.progress.start "Parsing resources").begun react).Leads
      fun a b => a.parser.cache.Own → b.parser.cache.Own := {
    refl := fun _ own => own
    trans := fun first second own => second (first own)
    parse := fun a path own => own_extractFile own a.files path
    announce := fun _ _ own => own
    abandon := fun message path a own => by
      simp only [scanner]
      split
      · exact own
      · exact own_abandonFile own a.files path _ }
  have later := leads.scanAll s.roots (s.scanStart files isCancelled) own.clearClosed
  rw [← scanned] at later
  obtain ⟨last, progress, ⟨x, scan, result⟩ | ⟨found, scan, result⟩⟩ :=
    s.rescan_cases files isCancelled react
  all_goals
    rw [scan] at later
    rw [result]
    exact later

/-- The states that calls lead to. Any versions may be passed, the files may change between any two
calls, a scan may fail or be stopped, and the host may work with the tokenizer by itself. -/
inductive Arises : Server σ → Prop
  | new (config : Config) (provider : Provider) (engine : Engine σ) (s : Server σ) :
      Server.new config provider engine = .ok s → Arises s
  | withFolders (s : Server σ) (folders : List String) : Arises s → Arises (s.withFolders folders)
  | tokenized (s : Server σ) (t : Tokenizer σ) : Arises s → Arises { s with tokenizer := t }
  | opened (s : Server σ) (files : FileTree) (d : Document) : Arises s →
      Arises (s.didOpen files d).2
  | parsed (s : Server σ) (files : FileTree) (d : Document) (cancel : Option Cancellation) :
      Arises s → Arises (s.parse files d cancel).2
  | changed (s : Server σ) (files : FileTree) (d : Document) (changes : List Change)
      (cancel : Option Cancellation) : Arises s → Arises (s.didChange files d changes cancel).2
  | closed (s : Server σ) (u : Uri) : Arises s → Arises (s.didClose u)
  | created (s : Server σ) (files : FileTree) (u : Uri) : Arises s → Arises (s.didCreate files u).2
  | removed (s : Server σ) (u : Uri) : Arises s → Arises (s.remove u)
  | renamed (s : Server σ) (files : FileTree) (old new : Uri) : Arises s →
      Arises (s.didRename files old new).2
  | reloaded (s : Server σ) (files : FileTree) (d : Document) : Arises s →
      Arises (s.reload files d).2
  | rescanned (s : Server σ) (files : FileTree) (isCancelled : Bool) (react : String → Reaction) :
      Arises s → Arises (s.rescan files isCancelled react).2.1
  | asked (s : Server σ) (files : FileTree) (d : Document) (p : Position) : Arises s →
      Arises (s.scopeAt files d p).2

theorem Arises.own (arises : s.Arises) : s.cache.Own := by
  induction arises with
  | new config provider engine s built =>
    obtain ⟨patterns, excludes, -, rfl⟩ := new_eq_ok built
    exact Cache.own_empty
  | withFolders s folders _ own => exact own
  | tokenized s t _ own => exact own
  | opened s files d _ own => exact own_didOpen own files d
  | parsed s files d cancel _ own => exact own_parse own files d cancel
  | changed s files d changes cancel _ own => exact own_didChange own files d changes cancel
  | closed s u _ own => exact own.close u
  | created s files u _ own => exact own_didCreate own files u
  | removed s u _ own => exact own.remove u
  | renamed s files old new _ own => exact own_didCreate (own.remove old) files new
  | reloaded s files d _ own => exact own_didOpen (own.remove d.uri) files d
  | rescanned s files isCancelled react _ own => exact own_rescan own files isCancelled react
  | asked s files d p _ own => exact own

end Server

end EventXref
