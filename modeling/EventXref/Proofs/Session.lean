import EventXref.Proofs.Agreement
import EventXref.Proofs.Tokenizer

/-!
A server that has followed a document answers as one that was just built. Grammars that come from
memory are the same whenever they are asked for, a tokenizer answers as if it read the document from
scratch, and an entry of the cache that counts as a hit holds what the extraction would find.
-/
namespace EventXref

namespace Provider

variable {σ : Type} {p : Provider}

def InMemory (p : Provider) : Prop := ∀ l ∈ p.languages, ∀ path, l.source ≠ .file path

def compiled (p : Provider) (engine : Engine σ) (files : FileTree) (scope : String) :
    Except GrammarError (Grammar σ) :=
  match p.source files scope with
  | .error e => .error e
  | .ok source => engine.compile scope source

/-- The grammar of a language, as far as there is one. -/
def grammar (p : Provider) (engine : Engine σ) (files : FileTree) (language : String) :
    Except GrammarError (Grammar σ) :=
  match p.scopeOf? language with
  | none => .error (.unknownLanguage language)
  | some scope => p.compiled engine files scope

theorem InMemory.source_eq (inMemory : p.InMemory) (files files' : FileTree) (scope : String) :
    p.source files scope = p.source files' scope := by
  unfold source
  cases origin : p.origin? scope with
  | none => rfl
  | some found =>
    obtain ⟨l, member, rfl⟩ := Option.map_eq_some_iff.mp origin
    have known : l ∈ p.languages := List.mem_reverse.mp (List.mem_of_find?_eq_some member)
    cases kind : l.source with
    | file path => exact absurd kind (inMemory l known path)
    | inline text => rfl
    | builtin => rfl

theorem InMemory.grammar_eq (inMemory : p.InMemory) (engine : Engine σ) (files files' : FileTree)
    (language : String) : p.grammar engine files language = p.grammar engine files' language := by
  unfold grammar compiled
  cases p.scopeOf? language with
  | none => rfl
  | some scope => simp only [inMemory.source_eq files files' scope]

end Provider

namespace Registry

variable {σ : Type} {r : Registry σ} {provider : Provider} {engine : Engine σ}

/-- The registry hands out the grammars of a provider, as an engine compiles them. -/
structure Serves (r : Registry σ) (provider : Provider) (engine : Engine σ) : Prop where
  provider_eq : r.provider = provider
  engine_eq : r.engine = engine
  loaded : ∀ (scope : String) (g : Grammar σ), r.loaded[scope]? = some g →
    ∀ files, provider.compiled engine files scope = .ok g

theorem new_serves (provider : Provider) (engine : Engine σ) :
    (new provider engine).Serves provider engine := by
  refine ⟨rfl, rfl, ?_⟩
  intro scope g stored
  simp [new] at stored

theorem Serves.wait (serves : r.Serves provider engine) : r.wait.Serves provider engine :=
  ⟨serves.provider_eq, serves.engine_eq, serves.loaded⟩

theorem Serves.watch (serves : r.Serves provider engine) : r.watch.Serves provider engine :=
  ⟨serves.provider_eq, serves.engine_eq, serves.loaded⟩

theorem Serves.fetch (serves : r.Serves provider engine) (scope : String) :
    (r.fetch scope).Serves provider engine := by
  unfold Registry.fetch
  have delayed : ∀ n, Serves { r.wait with clock := n } provider engine :=
    fun n => ⟨serves.provider_eq, serves.engine_eq, serves.loaded⟩
  dsimp only
  split <;> split
  · exact serves.wait
  · exact serves
  · exact (delayed _).wait
  · exact delayed _

theorem Serves.load (serves : r.Serves provider engine) (inMemory : provider.InMemory)
    (files : FileTree) (scope : String) :
    (r.load files scope).1 = provider.compiled engine files scope ∧
      (r.load files scope).2.Serves provider engine := by
  obtain ⟨rfl, rfl, loaded⟩ := serves.fetch scope
  unfold Registry.load Provider.compiled
  cases source : (r.fetch scope).provider.source files scope with
  | error e =>
    simp only [source]
    exact ⟨trivial, rfl, rfl, loaded⟩
  | ok text =>
    cases answer : (r.fetch scope).engine.compile scope text with
    | error e =>
      simp only [source, answer]
      exact ⟨trivial, rfl, rfl, loaded⟩
    | ok g =>
      simp only [source, answer]
      refine ⟨trivial, rfl, rfl, ?_⟩
      intro scope' g' stored files'
      rw [Std.ExtTreeMap.getElem?_insert] at stored
      split at stored
      · rename_i same
        cases Option.some.inj stored
        have here : scope = scope' := Std.LawfulEqCmp.eq_of_compare same
        subst here
        simp [Provider.compiled, inMemory.source_eq files' files, source, answer]
      · exact loaded scope' g' stored files'

theorem Serves.request (serves : r.Serves provider engine) (inMemory : provider.InMemory)
    (files : FileTree) (language : String) :
    (r.request files language).1 = provider.grammar engine files language ∧
      (r.request files language).2.Serves provider engine := by
  unfold Registry.request Provider.grammar
  rw [serves.provider_eq]
  cases provider.scopeOf? language with
  | none => exact ⟨rfl, serves⟩
  | some scope =>
    cases stored : r.loaded[scope]? with
    | none =>
      simp only [stored]
      exact serves.load inMemory files scope
    | some g =>
      simp only [stored]
      exact ⟨(serves.loaded scope g stored files).symm, serves⟩

end Registry

def Provider.scopeAt {σ : Type} (p : Provider) (engine : Engine σ) (files : FileTree) (d : Document)
    (place : Position) : Option ScopeInfo :=
  match p.grammar engine files d.language with
  | .ok g => g.scopeAt d place
  | .error _ => none

namespace Tokenizer

variable {σ : Type} {t t' : Tokenizer σ} {provider : Provider} {engine : Engine σ} {d d' : Document}
  {files : FileTree} {s : LineStates σ}

/-- All that is stored of the document is right, and of the grammar of its language. -/
structure Serves (t : Tokenizer σ) (provider : Provider) (engine : Engine σ) (d : Document) :
    Prop where
  registry : t.registry.Serves provider engine
  settled : t.Settled d
  grammar : ∀ s, t.documents[d.uri]? = some s →
    ∀ files, provider.grammar engine files d.language = .ok s.grammar

theorem Serves.begins (serves : t.Serves provider engine d) (inMemory : provider.InMemory)
    (files' : FileTree) (begins : t.Begins files d s) :
    provider.grammar engine files' d.language = .ok s.grammar := by
  rcases begins with stored | ⟨-, g, answer, rfl⟩
  · exact serves.grammar s stored files'
  · rw [inMemory.grammar_eq engine files' files,
      ← (serves.registry.request inMemory files d.language).1, answer]
    rfl

theorem Serves.begins_of_ok (serves : t.Serves provider engine d) (inMemory : provider.InMemory)
    {g : Grammar σ} (known : provider.grammar engine files d.language = .ok g) :
    ∃ s, t.Begins files d s := by
  cases stored : t.documents[d.uri]? with
  | some s => exact ⟨s, .inl stored⟩
  | none =>
    have answer := (serves.registry.request inMemory files d.language).1
    exact ⟨_, .inr ⟨stored, g, answer.trans known, rfl⟩⟩

theorem Serves.entry (serves : t.Serves provider engine d) (inMemory : provider.InMemory)
    (files : FileTree) : (t.entry files d).2.registry.Serves provider engine := by
  unfold Tokenizer.entry
  split
  · exact serves.registry
  · exact (serves.registry.request inMemory files d.language).2

theorem Serves.updates {f : LineStates σ → LineStates σ} (serves : t.Serves provider engine d)
    (inMemory : provider.InMemory) (updates : t.Updates files d f t')
    (registry : t'.registry.Serves provider engine) (settled : t'.Settled d)
    (grammar : ∀ s, (f s).grammar = s.grammar) : t'.Serves provider engine d := by
  refine ⟨registry, settled, ?_⟩
  intro s' stored files'
  obtain ⟨s, begins, rfl⟩ := updates.origin stored
  rw [grammar]
  exact serves.begins inMemory files' begins

theorem serves_of_untracked (registry : t.registry.Serves provider engine)
    (untracked : t.documents[d.uri]? = none) : t.Serves provider engine d := by
  refine ⟨registry, settled_of_untracked untracked, ?_⟩
  intro s stored
  rw [untracked] at stored
  cases stored

theorem Serves.watch (serves : t.Serves provider engine d) : t.watch.Serves provider engine d :=
  ⟨serves.registry.watch, serves.settled, serves.grammar⟩

theorem Serves.yieldAfter (serves : t.registry.Serves provider engine) (lines : Nat) :
    (t.yieldAfter lines).registry.Serves provider engine := by
  unfold Tokenizer.yieldAfter
  split
  · exact serves
  · exact serves.wait

variable [DecidableEq σ]

theorem Serves.openDocument (serves : t.Serves provider engine d) (inMemory : provider.InMemory)
    (files : FileTree) : (t.openDocument files d).2.Serves provider engine d := by
  have entry := serves.entry inMemory files
  refine serves.updates inMemory (openDocument_updates t files d) ?_
    (settled_openDocument t files d) (fun s => LineStates.sync_grammar s d)
  unfold Tokenizer.openDocument
  split <;> simp_all [store]

theorem Serves.scopeAt (serves : t.Serves provider engine d) (inMemory : provider.InMemory)
    (files : FileTree) (p : Position) : (t.scopeAt files d p).2.Serves provider engine d := by
  have entry := serves.entry inMemory files
  refine serves.updates inMemory (scopeAt_updates t files d p) ?_
    (serves.settled.scopeAt files p) ?_
  · unfold Tokenizer.scopeAt
    split
    · simp_all
    · rename_i s t₁ here
      rw [here] at entry
      exact Serves.yieldAfter (t := t₁.store d.uri _ _) entry _
  · exact fun s => s.tokensAt_sync_grammar d _

/-- A tokenizer that serves a provider answers as if it read the document from scratch. -/
theorem Serves.scopeAt_answer (serves : t.Serves provider engine d) (inMemory : provider.InMemory)
    (files files' : FileTree) (p : Position) :
    (t.scopeAt files d p).1 = provider.scopeAt engine files' d p := by
  unfold Provider.scopeAt
  rw [inMemory.grammar_eq engine files' files]
  cases known : provider.grammar engine files d.language with
  | ok g =>
    obtain ⟨s, begins⟩ := serves.begins_of_ok inMemory known
    have same := serves.begins inMemory files begins
    rw [known] at same
    cases same
    exact scopeAt_of_sound begins (serves.settled.begins begins).1 p
  | error e =>
    refine scopeAt_of_none ?_ p
    intro s begins
    have same := serves.begins inMemory files begins
    rw [known] at same
    cases same

theorem Serves.change {changes : List Change} (serves : t.Serves provider engine d)
    (admits : d.Admits changes) (edited : d.edit changes = .ok d') :
    (t.change d' changes).Serves provider engine d' := by
  obtain ⟨uri, language, -⟩ := Document.edit_keeps edited
  cases tracked : t.documents[d'.uri]? with
  | none =>
    have same : t.change d' changes = t := by simp [Tokenizer.change, tracked]
    rw [same]
    exact serves_of_untracked serves.registry tracked
  | some s =>
    have registry : (t.change d' changes).registry = t.registry := by
      simp [Tokenizer.change, tracked, store]
    refine ⟨registry ▸ serves.registry, serves.settled.change admits edited, ?_⟩
    intro s' stored files
    rw [change_documents t d' changes tracked, Std.ExtTreeMap.getElem?_insert_self] at stored
    cases Option.some.inj stored
    obtain ⟨sound, gapless⟩ := serves.settled s (uri ▸ tracked)
    rw [(sound.change gapless admits edited).2.2, language]
    exact serves.grammar s (uri ▸ tracked) files

end Tokenizer

namespace Extraction

variable {τ : Type} {scopeAt : τ → Position → Option ScopeInfo × τ}

theorem examine_complete (p : Pattern) (d : Document) (t : τ) (cs : List Candidate) :
    (examine scopeAt p d t none cs).1.isComplete = true := by
  induction cs generalizing t with
  | nil => rfl
  | cons c cs ih => exact ih _

theorem extract_complete (patterns : PatternTable) (maxFileSize : Nat) (d : Document) (t : τ) :
    (extract patterns maxFileSize scopeAt d none t).1.isComplete = true := by
  unfold extract
  split
  · rfl
  split
  · rfl
  · exact examine_complete _ d t _

/-- What an extraction finds when every position shows what `answer` says. -/
def reference (patterns : PatternTable) (maxFileSize : Nat) (answer : Position → Option ScopeInfo)
    (d : Document) (cancel : Option Cancellation) : Extraction :=
  (extract patterns maxFileSize (fun (_ : Unit) p => (answer p, ())) d cancel ()).1

variable {answer : Position → Option ScopeInfo} {I : τ → Prop}

theorem examine_eq (answers : ∀ t p, I t → (scopeAt t p).1 = answer p ∧ I (scopeAt t p).2)
    (p : Pattern) (d : Document) (cs : List Candidate) (cancel : Option Cancellation) {t : τ}
    (here : I t) :
    (examine scopeAt p d t cancel cs).1 =
        (examine (fun (_ : Unit) p => (answer p, ())) p d () cancel cs).1 ∧
      I (examine scopeAt p d t cancel cs).2 := by
  induction cs generalizing t cancel with
  | nil => exact ⟨rfl, here⟩
  | cons c cs ih =>
    obtain ⟨shown, next⟩ := answers t (d.positionOf c.function.1) here
    obtain ⟨rest, last⟩ := ih (cancel.map Cancellation.next) next
    simp only [examine]
    split
    · exact ⟨rfl, here⟩
    · exact ⟨by rw [shown, rest], last⟩

theorem extract_eq (answers : ∀ t p, I t → (scopeAt t p).1 = answer p ∧ I (scopeAt t p).2)
    (patterns : PatternTable) (maxFileSize : Nat) (d : Document) (cancel : Option Cancellation)
    {t : τ} (here : I t) :
    (extract patterns maxFileSize scopeAt d cancel t).1 =
        reference patterns maxFileSize answer d cancel ∧
      I (extract patterns maxFileSize scopeAt d cancel t).2 := by
  unfold reference extract
  split
  · exact ⟨rfl, here⟩
  split
  · exact ⟨rfl, here⟩
  · exact examine_eq answers _ d _ cancel here

end Extraction

namespace Cache

variable {c : Cache} {u : Uri} {version : Int}

theorem ne_closedVersion (numbered : 0 ≤ version) : version ≠ closedVersion := by
  unfold closedVersion
  omega

theorem live?_of_hit {found : List Occurrence} (hit : c.hit? u version = some found)
    (numbered : 0 ≤ version) : c.live? u = some ⟨version, found⟩ := by
  obtain ⟨e, stored, here⟩ := Option.bind_eq_some_iff.mp hit
  split at here
  · rename_i same
    subst same
    cases Option.some.inj here
    exact (c.live?_eq_some_iff u).mpr ⟨stored, ne_closedVersion numbered⟩
  · cases here

theorem live?_store_self {e : CacheEntry} (numbered : 0 ≤ e.version)
    (noOlder : ∀ before, c.live? u = some before → before.version ≤ e.version) :
    (c.store u e).live? u = some e := by
  have notNewer : ((c.get? u).any fun before => decide (before.version > e.version)) = false := by
    cases stored : c.get? u with
    | none => rfl
    | some before =>
      simp only [Option.any_some, decide_eq_false_iff_not]
      -- A closed entry is older than every numbered version.
      by_cases closed : before.version = closedVersion
      · simp only [closed, closedVersion]
        omega
      · have older := noOlder before ((c.live?_eq_some_iff u).mpr ⟨stored, closed⟩)
        omega
  rw [store, if_neg (by simp [notNewer]), live?_eq_some_iff]
  exact ⟨Std.ExtTreeMap.getElem?_insert_self, ne_closedVersion numbered⟩

end Cache

namespace Server

variable {σ : Type} {fresh s : Server σ} {d d' : Document}

def expected (s : Server σ) (d : Document) : List Occurrence :=
  (Extraction.reference s.patterns s.config.maxFileSize
    (s.tokenizer.registry.provider.scopeAt s.tokenizer.registry.engine (.folder []) d)
    d none).occurrences

/-- The server has the settings and grammars of `fresh`, right states of the document, and in its
cache nothing of the document but what belongs to this version or to an older one. -/
structure Ready (fresh s : Server σ) (d : Document) : Prop where
  maxFileSize : s.config.maxFileSize = fresh.config.maxFileSize
  patterns : s.patterns = fresh.patterns
  excludes : s.excludes = fresh.excludes
  serves : s.tokenizer.Serves fresh.tokenizer.registry.provider fresh.tokenizer.registry.engine d
  agrees : s.Agrees
  numbered : 0 ≤ d.version
  considered : fresh.shouldSkip d.path (some d.language) = false
  cached : ∀ e, s.cache.live? d.uri = some e →
    e.version ≤ d.version ∧ (e.version = d.version → e.occurrences = fresh.expected d)

theorem Ready.noOlder (ready : Ready fresh s d) : s.NoOlder d :=
  fun e live => (ready.cached e live).1

theorem Ready.not_skipped (ready : Ready fresh s d) :
    s.shouldSkip d.path (some d.language) = false := by
  have considered := ready.considered
  simp only [shouldSkip] at considered ⊢
  rwa [ready.excludes, ready.patterns]

/-- Nothing is known of a document that was closed or forgotten, so any snapshot may come next. -/
theorem Ready.forgotten {s' : Server σ} (ready : Ready fresh s d) (uri : d'.uri = d.uri)
    (numbered : 0 ≤ d'.version) (considered : fresh.shouldSkip d'.path (some d'.language) = false)
    (config : s'.config = s.config) (patterns : s'.patterns = s.patterns)
    (excludes : s'.excludes = s.excludes) (tokenizer : s'.tokenizer = s.tokenizer.close d.uri)
    (agrees : s'.Agrees) (gone : s'.cache.live? d.uri = none) : Ready fresh s' d' := by
  refine ⟨config ▸ ready.maxFileSize, patterns.trans ready.patterns, excludes.trans ready.excludes,
    ?_, agrees, numbered, considered, ?_⟩
  · rw [tokenizer]
    refine Tokenizer.serves_of_untracked ready.serves.registry ?_
    rw [uri]
    simp [Tokenizer.close]
  · intro e live
    rw [uri, gone] at live
    cases live

theorem Ready.didClose (ready : Ready fresh s d) (uri : d'.uri = d.uri) (numbered : 0 ≤ d'.version)
    (considered : fresh.shouldSkip d'.path (some d'.language) = false) :
    Ready fresh (s.didClose d.uri) d' := by
  have gone : (s.cache.close d.uri).live? d.uri = none := by simp [Cache.live?_close]
  exact ready.forgotten uri numbered considered rfl rfl rfl rfl (ready.agrees.didClose d.uri) gone

theorem ready_of_new {config : Config} {provider : Provider} {engine : Engine σ}
    (built : Server.new config provider engine = .ok fresh) (numbered : 0 ≤ d.version)
    (considered : fresh.shouldSkip d.path (some d.language) = false) : Ready fresh fresh d := by
  obtain ⟨patterns, excludes, -, rfl⟩ := new_eq_ok built
  refine ⟨rfl, rfl, rfl, ?_, Cache.matches_empty, numbered, considered, ?_⟩
  · apply Tokenizer.serves_of_untracked
    · exact Registry.new_serves provider engine
    · simp [Tokenizer.new]
  · intro e live
    simp [Cache.live?, Cache.get?, Cache.empty] at live

variable [DecidableEq σ]

theorem Ready.extract (ready : Ready fresh s d)
    (inMemory : fresh.tokenizer.registry.provider.InMemory) (files : FileTree) {t : Tokenizer σ}
    (serves : t.Serves fresh.tokenizer.registry.provider fresh.tokenizer.registry.engine d) :
    (s.extract files d none t).1.occurrences = fresh.expected d ∧
      (s.extract files d none t).2.Serves fresh.tokenizer.registry.provider
        fresh.tokenizer.registry.engine d := by
  let provider := fresh.tokenizer.registry.provider
  let engine := fresh.tokenizer.registry.engine
  have answers : ∀ (t : Tokenizer σ) (p : Position), t.Serves provider engine d →
      (t.scopeAt files d p).1 = provider.scopeAt engine (.folder []) d p ∧
        (t.scopeAt files d p).2.Serves provider engine d := by
    intro t p here
    exact ⟨here.scopeAt_answer inMemory files (.folder []) p, here.scopeAt inMemory files p⟩
  obtain ⟨found, last⟩ :=
    Extraction.extract_eq answers s.patterns s.config.maxFileSize d none serves
  refine ⟨?_, last⟩
  rw [Server.extract, found, ready.patterns, ready.maxFileSize]
  rfl

theorem parse_fields (s : Server σ) (files : FileTree) (d : Document) (cancel : Option Cancellation)
    (considered : s.shouldSkip d.path (some d.language) = false) :
    let r := s.cache.getOrExtract d.uri d.version (s.extract files d cancel) s.tokenizer.watch
    (s.parse files d cancel).1 = r.1.occurrences ∧ (s.parse files d cancel).2.cache = r.2.1 ∧
      (s.parse files d cancel).2.tokenizer = r.2.2 ∧ (s.parse files d cancel).2.config = s.config ∧
      (s.parse files d cancel).2.patterns = s.patterns ∧
      (s.parse files d cancel).2.excludes = s.excludes := by
  unfold Server.parse
  rw [if_neg (by simp [considered])]
  exact ⟨rfl, rfl, rfl, rfl, rfl, rfl⟩

structure Answered (fresh : Server σ) (d : Document) (r : List Occurrence × Server σ) : Prop where
  found : r.1 = fresh.expected d
  ready : Ready fresh r.2 d
  live : r.2.cache.live? d.uri = some ⟨d.version, fresh.expected d⟩

theorem Ready.parse (ready : Ready fresh s d)
    (inMemory : fresh.tokenizer.registry.provider.InMemory) (files : FileTree) :
    Answered fresh d (s.parse files d none) := by
  have agrees := ready.agrees.parse ready.noOlder files none
  obtain ⟨found, last⟩ := ready.extract inMemory files ready.serves.watch
  have complete : (s.extract files d none s.tokenizer.watch).1.isComplete = true :=
    Extraction.extract_complete _ _ d _
  obtain ⟨answer, cache, tokenizer, config, patterns, excludes⟩ :=
    s.parse_fields files d none ready.not_skipped
  have result : (s.parse files d none).1 = fresh.expected d ∧
      (s.parse files d none).2.tokenizer.Serves fresh.tokenizer.registry.provider
        fresh.tokenizer.registry.engine d ∧
      (s.parse files d none).2.cache.live? d.uri = some ⟨d.version, fresh.expected d⟩ := by
    rw [answer, cache, tokenizer]
    rcases s.cache.getOrExtract_cases d.uri d.version (s.extract files d none) s.tokenizer.watch
      with ⟨known, same, hit⟩ | ⟨-, ⟨-, same⟩ | ⟨cut, -⟩⟩
    · -- A hit has the version of the document, so the entry was live and holds what is expected.
      have live := Cache.live?_of_hit hit ready.numbered
      have right := (ready.cached _ live).2 rfl
      rw [same, ← right]
      exact ⟨rfl, ready.serves.watch, live⟩
    · rw [same, ← found]
      exact ⟨rfl, last, Cache.live?_store_self ready.numbered ready.noOlder⟩
    · rw [complete] at cut
      cases cut
  obtain ⟨right, serves, live⟩ := result
  refine ⟨right, ?_, live⟩
  refine ⟨config ▸ ready.maxFileSize, patterns.trans ready.patterns, excludes.trans ready.excludes,
    serves, agrees, ready.numbered, ready.considered, ?_⟩
  intro e here
  rw [live] at here
  cases Option.some.inj here
  exact ⟨Int.le_refl _, fun _ => rfl⟩

theorem Ready.didOpen (ready : Ready fresh s d)
    (inMemory : fresh.tokenizer.registry.provider.InMemory) (files : FileTree) :
    Answered fresh d (s.didOpen files d) := by
  have opened : Ready fresh { s with tokenizer := (s.tokenizer.openDocument files d).2 } d :=
    { ready with serves := ready.serves.openDocument inMemory files }
  unfold Server.didOpen
  rw [if_neg (by simp [ready.not_skipped])]
  exact opened.parse inMemory files

theorem Ready.reload (ready : Ready fresh s d)
    (inMemory : fresh.tokenizer.registry.provider.InMemory) (files : FileTree) :
    Answered fresh d (s.reload files d) := by
  have gone : (s.cache.remove d.uri).live? d.uri = none := by simp [Cache.live?_remove]
  have removed : Ready fresh (s.remove d.uri) d :=
    ready.forgotten rfl ready.numbered ready.considered rfl rfl rfl rfl (ready.agrees.remove d.uri)
      gone
  exact removed.didOpen inMemory files

theorem Ready.didChange {changes : List Change} (ready : Ready fresh s d)
    (inMemory : fresh.tokenizer.registry.provider.InMemory) (files : FileTree)
    (admits : d.Admits changes) (edited : d.edit changes = .ok d') :
    Answered fresh d' (s.didChange files d' changes none) := by
  obtain ⟨uri, language, version⟩ := Document.edit_keeps edited
  have numbered := ready.numbered
  have considered := ready.considered
  have changed : Ready fresh { s with tokenizer := s.tokenizer.change d' changes } d' := by
    refine ⟨ready.maxFileSize, ready.patterns, ready.excludes, ready.serves.change admits edited,
      ready.agrees, by omega, ?_, ?_⟩
    · rwa [Document.path, uri, language]
    · -- The edit has raised the version above that of every live entry, so none is a hit.
      intro e live
      have older := (ready.cached e (uri ▸ live)).1
      exact ⟨by omega, fun same => by omega⟩
  exact changed.parse inMemory files

theorem Ready.scopeAt (ready : Ready fresh s d)
    (inMemory : fresh.tokenizer.registry.provider.InMemory) (files : FileTree) (p : Position) :
    Ready fresh (s.scopeAt files d p).2 d :=
  { ready with serves := ready.serves.scopeAt inMemory files p }

/-- A run of calls about one document, from a server that was just built. Each call gets the current
snapshot, which an admitted batch turns into the next; when the document is closed, another snapshot
of it may follow. -/
inductive Session (fresh : Server σ) : Server σ → Document → Prop
  | start (d : Document) : 0 ≤ d.version → fresh.shouldSkip d.path (some d.language) = false →
      Session fresh fresh d
  | opened (s : Server σ) (d : Document) (files : FileTree) : Session fresh s d →
      Session fresh (s.didOpen files d).2 d
  | parsed (s : Server σ) (d : Document) (files : FileTree) : Session fresh s d →
      Session fresh (s.parse files d none).2 d
  | changed (s : Server σ) (d d' : Document) (files : FileTree) (changes : List Change) :
      Session fresh s d → d.Admits changes → d.edit changes = .ok d' →
      Session fresh (s.didChange files d' changes none).2 d'
  | closed (s : Server σ) (d d' : Document) : Session fresh s d → d'.uri = d.uri → 0 ≤ d'.version →
      fresh.shouldSkip d'.path (some d'.language) = false → Session fresh (s.didClose d.uri) d'
  | reloaded (s : Server σ) (d : Document) (files : FileTree) : Session fresh s d →
      Session fresh (s.reload files d).2 d
  | asked (s : Server σ) (d : Document) (files : FileTree) (p : Position) : Session fresh s d →
      Session fresh (s.scopeAt files d p).2 d

section Session

variable {config : Config} {provider : Provider} {engine : Engine σ}

theorem Session.ready (built : Server.new config provider engine = .ok fresh)
    (inMemory : fresh.tokenizer.registry.provider.InMemory) (session : Session fresh s d) :
    Ready fresh s d := by
  induction session with
  | start d numbered considered => exact ready_of_new built numbered considered
  | opened s d files _ ready => exact (ready.didOpen inMemory files).ready
  | parsed s d files _ ready => exact (ready.parse inMemory files).ready
  | changed s d d' files changes _ admits edited ready =>
    exact (ready.didChange inMemory files admits edited).ready
  | closed s d d' _ uri numbered considered ready => exact ready.didClose uri numbered considered
  | reloaded s d files _ ready => exact (ready.reload inMemory files).ready
  | asked s d files p _ ready => exact ready.scopeAt inMemory files p

/-- A call about a document answered as a server that was just built answers when it is opened, and
the index shows of the document what the call found. -/
def AnswersAsNew (fresh : Server σ) (d : Document) (r : List Occurrence × Server σ) : Prop :=
  (∀ files, r.1 = (fresh.didOpen files d).1) ∧
    ∀ kind name l, l ∈ r.2.index.locations kind name ∧ l.uri = d.uri ↔
      ∃ o ∈ r.1, o.kind = kind ∧ o.name = name ∧ o.location = l

theorem Answered.asNew {r : List Occurrence × Server σ} (answered : Answered fresh d r)
    (built : Server.new config provider engine = .ok fresh)
    (inMemory : fresh.tokenizer.registry.provider.InMemory) : AnswersAsNew fresh d r := by
  have ready := answered.ready
  have new := ready_of_new built ready.numbered ready.considered
  constructor
  · intro files
    rw [answered.found, (new.didOpen inMemory files).found]
  · rw [answered.found]
    exact ready.agrees.locations answered.live

/-- Every call of a session answers as a new server does. -/
theorem session_answers_as_new (built : Server.new config provider engine = .ok fresh)
    (inMemory : provider.InMemory) (session : Session fresh s d) (files : FileTree) :
    AnswersAsNew fresh d (s.didOpen files d) ∧ AnswersAsNew fresh d (s.parse files d none) ∧
      AnswersAsNew fresh d (s.reload files d) ∧
      ∀ changes d', d.Admits changes → d.edit changes = .ok d' →
        AnswersAsNew fresh d' (s.didChange files d' changes none) := by
  have known : fresh.tokenizer.registry.provider.InMemory := by
    obtain ⟨patterns, excludes, -, rfl⟩ := new_eq_ok built
    exact inMemory
  have ready := session.ready built known
  refine ⟨(ready.didOpen known files).asNew built known,
    (ready.parse known files).asNew built known,
    (ready.reload known files).asNew built known, ?_⟩
  intro changes d' admits edited
  exact (ready.didChange known files admits edited).asNew built known

end Session

theorem luaInline_inMemory : luaInline.InMemory := by
  intro l member path
  rw [List.mem_singleton.mp member]
  simp

/-- A call comes to light when the comment around it goes. -/
theorem session_answers_as_new_uncomment : ∃ fresh : Server GrammarState,
    Server.new callsOfF luaInline markerEngine = .ok fresh ∧
      Session fresh (fresh.didOpen (.folder []) Tokenizer.commented).2 Tokenizer.commented ∧
      AnswersAsNew fresh Tokenizer.uncommented
        ((fresh.didOpen (.folder []) Tokenizer.commented).2.didChange (.folder [])
          Tokenizer.uncommented Tokenizer.uncomment none) ∧
      (fresh.didOpen (.folder []) Tokenizer.uncommented).1 ≠ [] := by
  have found : (Server.new callsOfF luaInline markerEngine).toOption.map (fun fresh =>
      (fresh.shouldSkip Tokenizer.commented.path (some "lua"),
        (fresh.didOpen (.folder []) Tokenizer.uncommented).1)) =
      some (false, [⟨.trigger, ")", ⟨Tokenizer.uncommented.uri, ⟨1, 0⟩⟩⟩]) := by decide +kernel
  cases built : Server.new callsOfF luaInline markerEngine with
  | error e => simp [built, Except.toOption] at found
  | ok fresh =>
    simp only [built, Except.toOption, Option.map_some, Option.some.injEq, Prod.mk.injEq] at found
    have session := Session.opened fresh Tokenizer.commented (.folder [])
      (.start _ (by decide) found.1)
    obtain ⟨admits, edited⟩ := Tokenizer.admits_uncomment
    obtain ⟨-, -, -, changed⟩ :=
      session_answers_as_new built luaInline_inMemory session (.folder [])
    refine ⟨fresh, rfl, session, changed _ _ admits edited, ?_⟩
    rw [found.2]
    simp

/-- Of two changes that start inside one character one can fall into the text of the other; then
states move to lines they do not belong to, and the session misses a call that a new server
finds. -/
theorem starts_inside_a_character_hide_a_call : ∃ fresh : Server GrammarState,
    Server.new callsOfF luaInline markerEngine = .ok fresh ∧ luaInline.InMemory ∧
      Session fresh (fresh.didOpen (.folder []) Tokenizer.smiling).2 Tokenizer.smiling ∧
      Tokenizer.TearsCharacter Tokenizer.smiling Tokenizer.tear Tokenizer.torn ∧
      ((fresh.didOpen (.folder []) Tokenizer.smiling).2.didChange (.folder []) Tokenizer.torn
        Tokenizer.tear none).1 ≠ (fresh.didOpen (.folder []) Tokenizer.torn).1 := by
  have found : (Server.new callsOfF luaInline markerEngine).toOption.map (fun fresh =>
      (fresh.shouldSkip Tokenizer.smiling.path (some "lua"),
        ((fresh.didOpen (.folder []) Tokenizer.smiling).2.didChange (.folder []) Tokenizer.torn
          Tokenizer.tear none).1, (fresh.didOpen (.folder []) Tokenizer.torn).1)) =
      some (false, [], [⟨.trigger, ")", ⟨Tokenizer.torn.uri, ⟨3, 0⟩⟩⟩]) := by decide +kernel
  cases built : Server.new callsOfF luaInline markerEngine with
  | error e => simp [built, Except.toOption] at found
  | ok fresh =>
    simp only [built, Except.toOption, Option.map_some, Option.some.injEq, Prod.mk.injEq] at found
    have session := Session.opened fresh Tokenizer.smiling (.folder [])
      (.start _ (by decide) found.1)
    refine ⟨fresh, rfl, luaInline_inMemory, session, Tokenizer.smiling_tears, ?_⟩
    rw [found.2.1, found.2.2]
    simp

end Server

end EventXref
