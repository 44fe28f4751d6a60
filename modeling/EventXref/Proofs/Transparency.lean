import EventXref.Proofs.Independence
import EventXref.Proofs.LateReaders

/-!
Whether the cache can be seen from outside. An entry is found by its version alone, while what an
extraction finds also depends on the grammars that can be had and on whether the call could be
cancelled. As long as neither of these changes between two calls for the same version, an answer
from the cache is the answer there would be without it.
-/
namespace EventXref

/-- What a call brings with it: a token that nobody uses, or none. -/
def Cancellation.token (given : Bool) : Option Cancellation := if given then some never else none

namespace Extraction

variable {τ : Type} {scopeAt : τ → Position → Option ScopeInfo × τ}

theorem examine_of_complete (p : Pattern) (d : Document) (t : τ) (cancel : Option Cancellation)
    (cs : List Candidate) (complete : (examine scopeAt p d t cancel cs).1.isComplete = true) :
    (examine scopeAt p d t cancel cs).1.occurrences =
      (examine scopeAt p d t none cs).1.occurrences := by
  induction cs generalizing t cancel with
  | nil => rfl
  | cons c cs ih =>
    simp only [examine] at complete ⊢
    split at complete
    · cases complete
    · rename_i quiet
      rw [if_neg quiet]
      exact congrArg (_ ++ ·) (ih _ _ complete)

theorem examine_never (p : Pattern) (d : Document) (t : τ) (cs : List Candidate) :
    (examine scopeAt p d t (some .never) cs).1.isComplete = true := by
  induction cs generalizing t with
  | nil => rfl
  | cons c cs ih => exact ih _

theorem reference_of_complete (patterns : PatternTable) (maxFileSize : Nat)
    (answer : Position → Option ScopeInfo) (d : Document) (cancel : Option Cancellation)
    (complete : (reference patterns maxFileSize answer d cancel).isComplete = true) :
    (reference patterns maxFileSize answer d cancel).occurrences =
      (reference patterns maxFileSize answer d (Cancellation.token cancel.isSome)).occurrences := by
  cases cancel with
  | none => rfl
  | some c =>
    simp only [reference, extract, Option.isNone_some, Bool.false_and, Cancellation.token,
      Option.isSome_some, if_true] at complete ⊢
    cases known : patterns.get? d.language with
    | none => rfl
    | some p =>
      simp only [known] at complete ⊢
      exact (examine_of_complete p d () _ _ complete).trans
        (examine_of_complete p d () _ _ (examine_never p d () _)).symm

/-- A token lets a document of any size through. -/
theorem reference_ceiling (patterns : PatternTable) {maxFileSize : Nat} (ceiling : Nat)
    (answer : Position → Option ScopeInfo) (d : Document) {cancel : Option Cancellation}
    (given : cancel.isSome = true) :
    reference patterns ceiling answer d cancel = reference patterns maxFileSize answer d cancel := by
  obtain ⟨c, rfl⟩ := Option.isSome_iff_exists.mp given
  simp only [reference, extract, Option.isNone_some, Bool.false_and]

theorem reference_small (patterns : PatternTable) {maxFileSize : Nat}
    (answer : Position → Option ScopeInfo) {d : Document}
    (small : Text.size d.text ≤ maxFileSize) (given given' : Bool) :
    (reference patterns maxFileSize answer d (Cancellation.token given)).occurrences =
      (reference patterns maxFileSize answer d (Cancellation.token given')).occurrences := by
  have same : ∀ given, (reference patterns maxFileSize answer d (Cancellation.token given)).occurrences =
      (reference patterns maxFileSize answer d none).occurrences := by
    intro given
    cases given with
    | false => rfl
    | true =>
      simp only [reference, extract, Cancellation.token, if_true, Option.isNone_some,
        Bool.false_and, Option.isNone_none, Bool.true_and, decide_eq_true_eq,
        if_neg (Nat.not_lt.mpr small)]
      cases patterns.get? d.language with
      | none => rfl
      | some p => exact examine_of_complete p d () _ _ (examine_never p d () _)
  rw [same, same]

/-- An extraction that is not cut short either finds the same whatever is shown to it, or it begins
with a question. -/
theorem extract_asks (patterns : PatternTable) (maxFileSize : Nat) (d : Document)
    (cancel : Option Cancellation) (t : τ)
    (complete : (extract patterns maxFileSize scopeAt d cancel t).1.isComplete = true) :
    (∀ answer answer', reference patterns maxFileSize answer d (Cancellation.token cancel.isSome) =
      reference patterns maxFileSize answer' d (Cancellation.token cancel.isSome)) ∨
    ∃ place, ∀ I : τ → Prop, (∀ t p, I t → I (scopeAt t p).2) → I (scopeAt t place).2 →
      I (extract patterns maxFileSize scopeAt d cancel t).2 := by
  have kind : (Cancellation.token cancel.isSome).isNone = cancel.isNone := by
    cases cancel <;> rfl
  cases known : patterns.get? d.language with
  | none => exact .inl fun _ _ => by simp [reference, extract, known]
  | some p =>
    by_cases large : (cancel.isNone && decide (Text.size d.text > maxFileSize)) = true
    · exact .inl fun _ _ => by simp only [reference, extract, known, kind, large, if_true]
    cases found : candidates p d.text with
    | nil =>
      exact .inl fun _ _ => by
        simp only [reference, extract, known, kind, large, found, examine]
    | cons c cs =>
      right
      refine ⟨d.positionOf c.function.1, ?_⟩
      intro I keeps first
      simp only [extract, known, large, Bool.false_eq_true, if_false, found, examine] at complete ⊢
      split at complete
      · cases complete
      · rename_i quiet
        rw [if_neg quiet]
        exact examine_keeps keeps p d cs _ first

end Extraction

theorem Registry.Later.answer?_cases {σ : Type} {r r' : Registry σ} {files : FileTree}
    (later : Later files r files r') (files' : FileTree) (language : String) :
    r'.answer? files' language = r.answer? files' language ∨
      r'.answer? files' language = r.answer? files language := by
  simp only [Registry.answer?_eq, later.provider, later.engine]
  cases r.provider.scopeOf? language with
  | none => exact .inl rfl
  | some scope =>
    simp only [Option.bind_some]
    cases after : r'.loaded[scope]? with
    | none =>
      have before : r.loaded[scope]? = none := by
        cases before : r.loaded[scope]? with
        | none => rfl
        | some g => simp [later.kept scope g before] at after
      exact .inl (by rw [before])
    | some g =>
      rcases later.gained scope g after with before | made
      · exact .inl (by rw [before])
      · right
        cases before : r.loaded[scope]? with
        | none => simp [made, Except.toOption]
        | some g' =>
          rw [later.kept scope g' before] at after
          cases after
          rfl

namespace Tokenizer

variable {σ : Type} {t t' : Tokenizer σ} {files : FileTree} {d : Document} {s : LineStates σ}

/-- The grammar by which a document is read: that of its states, else what is to be had now. -/
def grammarOf? (t : Tokenizer σ) (files : FileTree) (u : Uri) (language : String) :
    Option (Grammar σ) :=
  (t.documents[u]?.map LineStates.grammar).or (t.registry.answer? files language)

theorem grammarOf?_of_begins (begins : t.Begins files d s) :
    t.grammarOf? files d.uri d.language = some s.grammar := by
  rcases begins with stored | ⟨untracked, g, answer, rfl⟩
  · simp [grammarOf?, stored]
  · simp [grammarOf?, untracked, Registry.answer?, answer, Except.toOption, LineStates.fresh]

theorem exists_begins {g : Grammar σ} (known : t.grammarOf? files d.uri d.language = some g) :
    ∃ s, t.Begins files d s := by
  cases tracked : t.documents[d.uri]? with
  | some s => exact ⟨s, .inl tracked⟩
  | none =>
    cases answer : (t.registry.request files d.language).1 with
    | ok g => exact ⟨_, .inr ⟨tracked, g, answer, rfl⟩⟩
    | error e => simp [grammarOf?, tracked, Registry.answer?, answer, Except.toOption] at known

/-- What a position shows when the document is read from scratch by that grammar. -/
def shows (t : Tokenizer σ) (files : FileTree) (d : Document) (p : Position) : Option ScopeInfo :=
  (t.grammarOf? files d.uri d.language).bind fun g => g.scopeAt d p

theorem shows_congr {files' : FileTree}
    (same : t'.grammarOf? files' d.uri d.language = t.grammarOf? files d.uri d.language) :
    t'.shows files' d = t.shows files d := by
  funext p
  simp only [shows, same]

/-- Another tokenizer reads a document by the same grammar, or by the one to be had in `files`. -/
def Refers (files : FileTree) (u : Uri) (language : String) (t t' : Tokenizer σ) : Prop :=
  ∀ files', t'.grammarOf? files' u language = t.grammarOf? files' u language ∨
    t'.grammarOf? files' u language = t.grammarOf? files u language

theorem refers_of_states {u : Uri} (language : String)
    (later : t.registry.Later files files t'.registry)
    (states : t'.documents[u]? = t.documents[u]?) : Refers files u language t t' := by
  intro files'
  unfold grammarOf?
  rw [states]
  cases t.documents[u]? with
  | some s => exact .inl rfl
  | none => exact later.answer?_cases files' language

theorem watch_refers (t : Tokenizer σ) (files : FileTree) (u : Uri) (language : String) :
    Refers files u language t t.watch :=
  refers_of_states language (t.registry.watch_later files) rfl

theorem Refers.here {u : Uri} {language : String} (refers : Refers files u language t t') :
    t'.grammarOf? files u language = t.grammarOf? files u language := by
  rcases refers files with same | same <;> exact same

theorem Refers.trans {u : Uri} {language : String} {t'' : Tokenizer σ}
    (first : Refers files u language t t') (second : Refers files u language t' t'') :
    Refers files u language t t'' := by
  intro files'
  rcases second files' with same | same
  · rw [same]
    exact first files'
  · rw [same, first.here]
    exact .inr rfl

theorem Updates.refers {f : LineStates σ → LineStates σ} (updates : t.Updates files d f t')
    (later : t.registry.Later files files t'.registry) (grammar : ∀ s, (f s).grammar = s.grammar)
    (u : Uri) (language : String) (same : u = d.uri → language = d.language) :
    Refers files u language t t' := by
  by_cases here : u = d.uri
  · obtain rfl := same here
    subst here
    by_cases begun : ∃ s, t.Begins files d s
    · obtain ⟨s, begins⟩ := begun
      intro files'
      right
      rw [grammarOf?_of_begins begins, grammarOf?, updates.stored s begins,
        Std.ExtTreeMap.getElem?_insert_self, Option.map_some, grammar, Option.some_or]
    · apply refers_of_states d.language later
      rw [updates.kept (not_exists.mp begun)]
  · exact refers_of_states language later (updates.others here)

end Tokenizer

/-- What a host keeps to over a run: the languages of its documents, one text for each version of
them, which grammars can be had, and whether it parses a version with a token or without. -/
structure Host where
  language : Uri → String
  text : Uri → Int → List Char
  loads : String → Prop
  parses : Uri → Int → Bool → Prop

namespace Host

variable {σ : Type} {h : Host} {provider : Provider} {engine : Engine σ} {files : FileTree}
  {d d' : Document} {t t' : Tokenizer σ} {s : Server σ} {u : Uri}

def snapshot (h : Host) (u : Uri) (version : Int) : Document :=
  ⟨u, h.language u, version, h.text u version⟩

def Sends (h : Host) (d : Document) : Prop := 0 ≤ d.version ∧ d = h.snapshot d.uri d.version

theorem Sends.language (sends : h.Sends d) : d.language = h.language d.uri := by
  rw [sends.2]
  rfl

def Steady (h : Host) (provider : Provider) (engine : Engine σ) (files : FileTree) : Prop :=
  ∀ scope, (∃ g, provider.compiled engine files scope = .ok g) ↔ h.loads scope

/-- What the tokenizer knows is right: it has loaded only what can be had, and its states of a
version are those of the host's text. States of files have no such version. -/
structure Knows (h : Host) (provider : Provider) (engine : Engine σ) (t : Tokenizer σ) : Prop where
  provider_eq : t.registry.provider = provider
  engine_eq : t.registry.engine = engine
  loaded : ∀ (scope : String) g, t.registry.loaded[scope]? = some g → h.loads scope
  states : ∀ (u : Uri) states, t.documents[u]? = some states → 0 ≤ states.version →
    states.Sound (h.snapshot u states.version) ∧ LineStates.Gapless states.slots

theorem Knows.later (knows : h.Knows provider engine t) (steady : h.Steady provider engine files)
    (later : t.registry.Later files files t'.registry)
    (states : ∀ (u : Uri) states, t'.documents[u]? = some states → 0 ≤ states.version →
      states.Sound (h.snapshot u states.version) ∧ LineStates.Gapless states.slots) :
    h.Knows provider engine t' := by
  refine ⟨later.provider.trans knows.provider_eq, later.engine.trans knows.engine_eq, ?_, states⟩
  intro scope g after
  rcases later.gained scope g after with before | made
  · exact knows.loaded scope g before
  · rw [knows.provider_eq, knows.engine_eq] at made
    exact (steady scope).mp ⟨g, made⟩

theorem Knows.begins (knows : h.Knows provider engine t) (sends : h.Sends d)
    {states : LineStates σ} (begins : t.Begins files d states) :
    (states.sync d).Sound d ∧ LineStates.Gapless (states.sync d).slots := by
  rcases begins with stored | ⟨-, g, -, rfl⟩
  · unfold LineStates.sync
    split
    · rename_i fits
      have right := knows.states d.uri states stored (fits.1 ▸ sends.1)
      rwa [fits.1, ← sends.2] at right
    · exact ⟨LineStates.reset_sound states d, LineStates.gapless_unread _⟩
  · have sound := LineStates.fresh_sound g d
    rw [sound.sync_eq]
    exact ⟨sound, LineStates.gapless_unread _⟩

theorem Knows.updates {f : LineStates σ → LineStates σ} (knows : h.Knows provider engine t)
    (steady : h.Steady provider engine files) (sends : h.Sends d)
    (updates : t.Updates files d f t') (later : t.registry.Later files files t'.registry)
    (right : ∀ states, (states.sync d).Sound d → LineStates.Gapless (states.sync d).slots →
      (f states).Sound d ∧ LineStates.Gapless (f states).slots) : h.Knows provider engine t' := by
  apply knows.later steady later
  intro u states stored numbered
  by_cases here : u = d.uri
  · subst here
    obtain ⟨before, begins, rfl⟩ := updates.origin stored
    obtain ⟨sound, gapless⟩ := knows.begins sends begins
    obtain ⟨sound', gapless'⟩ := right before sound gapless
    rw [sound'.version, ← sends.2]
    exact ⟨sound', gapless'⟩
  · rw [updates.others here] at stored
    exact knows.states u states stored numbered

theorem Knows.watch (knows : h.Knows provider engine t) : h.Knows provider engine t.watch :=
  ⟨knows.provider_eq, knows.engine_eq, knows.loaded, knows.states⟩

theorem Knows.refused (knows : h.Knows provider engine t) {files' : FileTree}
    (steady : h.Steady provider engine files) (steady' : h.Steady provider engine files')
    {language : String} (refused : t.registry.answer? files language = none) :
    t.registry.answer? files' language = none := by
  rw [Registry.answer?_eq, knows.provider_eq, knows.engine_eq] at refused ⊢
  cases known : provider.scopeOf? language with
  | none => rfl
  | some scope =>
    simp only [known, Option.bind_some, Option.or_eq_none_iff] at refused ⊢
    refine ⟨refused.1, ?_⟩
    cases made : provider.compiled engine files' scope with
    | error e => rfl
    | ok g =>
      obtain ⟨g', made'⟩ := (steady scope).mpr ((steady' scope).mp ⟨g, made⟩)
      simp [made', Except.toOption] at refused

/-- Once a question has been asked about a document, its grammar is settled. -/
theorem Knows.asked {f : LineStates σ → LineStates σ} (knows : h.Knows provider engine t')
    (steady : h.Steady provider engine files)
    (updates : t.Updates files d f t') (later : t.registry.Later files files t'.registry)
    (grammar : ∀ s, (f s).grammar = s.grammar) {files' : FileTree}
    (steady' : h.Steady provider engine files') :
    t'.grammarOf? files' d.uri d.language = t.grammarOf? files d.uri d.language := by
  cases known : t.grammarOf? files d.uri d.language with
  | some g =>
    obtain ⟨s, begins⟩ := Tokenizer.exists_begins known
    rw [Tokenizer.grammarOf?_of_begins begins] at known
    rw [Tokenizer.grammarOf?, updates.stored s begins, Std.ExtTreeMap.getElem?_insert_self,
      Option.map_some, grammar, known, Option.some_or]
  | none =>
    have never : ∀ s, ¬ t.Begins files d s := by
      intro s begins
      rw [Tokenizer.grammarOf?_of_begins begins] at known
      cases known
    simp only [Tokenizer.grammarOf?, Option.or_eq_none_iff] at known ⊢
    rw [updates.kept never]
    exact ⟨known.1, knows.refused steady steady' ((later.answer?_eq _).trans known.2)⟩

/-- All a later tokenizer reads a document by, was to be had before. -/
def Follows (h : Host) (provider : Provider) (engine : Engine σ) (u : Uri) (t t' : Tokenizer σ) :
    Prop :=
  ∀ files, h.Steady provider engine files → ∃ files', h.Steady provider engine files' ∧
    t'.grammarOf? files u (h.language u) = t.grammarOf? files' u (h.language u)

theorem follows_of_refers (steady : h.Steady provider engine files)
    (refers : Tokenizer.Refers files u (h.language u) t t') :
    h.Follows provider engine u t t' := by
  intro files' steady'
  rcases refers files' with same | same
  · exact ⟨files', steady', same⟩
  · exact ⟨files, steady, same⟩

theorem follows_of_grammar (registry : t'.registry = t.registry)
    (grammar : t'.documents[u]?.map LineStates.grammar = t.documents[u]?.map LineStates.grammar) :
    h.Follows provider engine u t t' := by
  intro files steady
  refine ⟨files, steady, ?_⟩
  rw [Tokenizer.grammarOf?, Tokenizer.grammarOf?, registry, grammar]

/-- An entry holds what a call that the host makes for its version would find now. -/
def Fits (h : Host) (provider : Provider) (engine : Engine σ) (s : Server σ) (u : Uri)
    (e : CacheEntry) : Prop :=
  ∃ given, h.parses u e.version given ∧ ∀ files, h.Steady provider engine files →
    e.occurrences = (Extraction.reference s.patterns s.config.maxFileSize
      (s.tokenizer.shows files (h.snapshot u e.version)) (h.snapshot u e.version)
      (Cancellation.token given)).occurrences

theorem Fits.later {s' : Server σ} {e : CacheEntry} (fits : h.Fits provider engine s u e)
    (patterns : s'.patterns = s.patterns) (size : s'.config.maxFileSize = s.config.maxFileSize)
    (follows : h.Follows provider engine u s.tokenizer s'.tokenizer) :
    h.Fits provider engine s' u e := by
  obtain ⟨given, parses, found⟩ := fits
  refine ⟨given, parses, ?_⟩
  intro files steady
  obtain ⟨files', steady', same⟩ := follows files steady
  rw [patterns, size, Tokenizer.shows_congr (d := h.snapshot u e.version) same]
  exact found files' steady'

/-- The tokenizer knows what is right, and the entries of open documents hold it. -/
structure Trusts (h : Host) (provider : Provider) (engine : Engine σ) (s : Server σ) : Prop where
  knows : h.Knows provider engine s.tokenizer
  entries : ∀ u e, s.cache.live? u = some e → h.Fits provider engine s u e

theorem Trusts.later {s' : Server σ} (trusts : h.Trusts provider engine s)
    (patterns : s'.patterns = s.patterns) (size : s'.config.maxFileSize = s.config.maxFileSize)
    (knows : h.Knows provider engine s'.tokenizer)
    (entries : ∀ u e, s'.cache.live? u = some e →
      s.cache.live? u = some e ∧ h.Follows provider engine u s.tokenizer s'.tokenizer) :
    h.Trusts provider engine s' := by
  refine ⟨knows, ?_⟩
  intro u e live
  obtain ⟨before, follows⟩ := entries u e live
  exact (trusts.entries u e before).later patterns size follows

theorem Trusts.tokenized (trusts : h.Trusts provider engine s) (knows : h.Knows provider engine t)
    (follows : ∀ u e, s.cache.live? u = some e → h.Follows provider engine u s.tokenizer t) :
    h.Trusts provider engine { s with tokenizer := t } := by
  have entries : ∀ u e, s.cache.live? u = some e →
      s.cache.live? u = some e ∧ h.Follows provider engine u s.tokenizer t :=
    fun u e live => ⟨live, follows u e live⟩
  exact trusts.later rfl rfl knows entries

theorem Trusts.updates {f : LineStates σ → LineStates σ} (trusts : h.Trusts provider engine s)
    (steady : h.Steady provider engine files) (sends : h.Sends d)
    (knows : h.Knows provider engine t) (updates : s.tokenizer.Updates files d f t)
    (later : s.tokenizer.registry.Later files files t.registry)
    (grammar : ∀ states, (f states).grammar = states.grammar) :
    h.Trusts provider engine { s with tokenizer := t } := by
  apply trusts.tokenized knows
  intro u e live
  refine follows_of_refers steady (updates.refers later grammar u _ ?_)
  rintro rfl
  exact sends.language.symm

/-- A document is tracked no more, and its entry is closed or gone. -/
theorem Trusts.forget {cache : Cache} (trusts : h.Trusts provider engine s) (u : Uri)
    (index : Index) (gone : ∀ v, cache.live? v = if u = v then none else s.cache.live? v) :
    h.Trusts provider engine { s with tokenizer := s.tokenizer.close u, cache, index } := by
  have kept : ∀ v : Uri, u ≠ v →
      (s.tokenizer.close u).documents[v]? = s.tokenizer.documents[v]? := by
    intro v other
    rw [Tokenizer.close_documents, if_neg other]
  refine trusts.later rfl rfl ⟨trusts.knows.provider_eq, trusts.knows.engine_eq,
    trusts.knows.loaded, ?_⟩ ?_
  · intro v states stored
    have stored : (s.tokenizer.close u).documents[v]? = some states := stored
    by_cases here : u = v
    · simp [Tokenizer.close_documents, here] at stored
    · exact trusts.knows.states v states (kept v here ▸ stored)
  · intro v e live
    have live : cache.live? v = some e := live
    rw [gone] at live
    split at live
    · cases live
    · rename_i other
      exact ⟨live, follows_of_grammar rfl (by rw [kept v other])⟩

theorem Trusts.remove (trusts : h.Trusts provider engine s) (u : Uri) :
    h.Trusts provider engine (s.remove u) :=
  trusts.forget u _ fun v => s.cache.live?_remove u v

theorem Trusts.keepClosed (trusts : h.Trusts provider engine s) (u : Uri)
    (found : List Occurrence) : h.Trusts provider engine (s.keepClosed u found s.tokenizer) :=
  trusts.forget u s.index fun v => s.cache.live?_insertClosed u v found

/-- A file is read that is neither open nor tracked. -/
theorem Trusts.reading {path : Path} (trusts : h.Trusts provider engine s)
    (steady : h.Steady provider engine files) (read : s.fileToRead? files path = some d)
    (reading : s.tokenizer.Reading files d t) :
    h.Trusts provider engine { s with tokenizer := t } := by
  obtain ⟨-, -, closed, -, -, version, -⟩ := Server.fileToRead?_eq_some.mp read
  refine trusts.tokenized (trusts.knows.later steady reading.later ?_) ?_
  · intro u states stored numbered
    by_cases here : u = d.uri
    · -- The states of the file itself belong to no version of the host.
      subst here
      rw [(reading.own states stored).1.version, version] at numbered
      cases numbered
    · exact trusts.knows.states u states (reading.others u here ▸ stored) numbered
  · intro u e live
    have other : u ≠ d.uri := by
      rintro rfl
      rw [closed] at live
      cases live
    exact follows_of_refers steady
      (Tokenizer.refers_of_states _ reading.later (reading.others u other))

variable [DecidableEq σ]

theorem Knows.scopeAt_answer (knows : h.Knows provider engine t) (sends : h.Sends d)
    (files : FileTree) (p : Position) : (t.scopeAt files d p).1 = t.shows files d p := by
  unfold Tokenizer.shows
  cases known : t.grammarOf? files d.uri d.language with
  | some g =>
    obtain ⟨states, begins⟩ := Tokenizer.exists_begins known
    rw [Tokenizer.grammarOf?_of_begins begins] at known
    obtain ⟨sound, -⟩ := knows.begins sends begins
    rw [Tokenizer.scopeAt_answer begins, (sound.tokensAt (d.clamp_line_lt p)).1,
      LineStates.sync_grammar, Option.some.inj known]
    rfl
  | none =>
    refine Tokenizer.scopeAt_of_none ?_ p
    intro states begins
    rw [Tokenizer.grammarOf?_of_begins begins] at known
    cases known

theorem Knows.scopeAt (knows : h.Knows provider engine t) (sends : h.Sends d)
    (steady : h.Steady provider engine files) (p : Position) :
    h.Knows provider engine (t.scopeAt files d p).2 := by
  refine knows.updates steady sends (t.scopeAt_updates files d p) (t.scopeAt_later files d p) ?_
  intro states sound gapless
  obtain ⟨-, sound', gapless'⟩ := sound.tokensAt (d.clamp_line_lt p)
  exact ⟨sound', gapless' gapless⟩

theorem Knows.openDocument (knows : h.Knows provider engine t) (sends : h.Sends d)
    (steady : h.Steady provider engine files) :
    h.Knows provider engine (t.openDocument files d).2 := by
  refine knows.updates steady sends (t.openDocument_updates files d)
    (t.openDocument_later files d) ?_
  intro states _ _
  obtain ⟨sound, complete⟩ := LineStates.reparseAll_sync states d
  exact ⟨sound, complete.gapless⟩

/-- A batch that leads from one snapshot to the next; states that it could spoil are those of the
first one, or the line count gives them away. -/
structure Edits (h : Host) (t : Tokenizer σ) (d d' : Document) (changes : List Change) : Prop where
  sends : h.Sends d
  admits : d.Admits changes
  edited : d.edit changes = .ok d'
  meets : ∀ states, t.documents[d'.uri]? = some states → states.version < d'.version →
    t.Meets d d' changes

theorem Knows.change {changes : List Change} (knows : h.Knows provider engine t)
    (sends : h.Sends d') (edits : h.Edits t d d' changes) :
    h.Knows provider engine (t.change d' changes) := by
  obtain ⟨uri, -, -⟩ := Document.edit_keeps edits.edited
  cases tracked : t.documents[d'.uri]? with
  | none => rwa [show t.change d' changes = t by simp [Tokenizer.change, tracked]]
  | some before =>
    have registry : (t.change d' changes).registry = t.registry := by
      simp [Tokenizer.change, tracked, Tokenizer.store]
    refine ⟨registry ▸ knows.provider_eq, registry ▸ knows.engine_eq, registry ▸ knows.loaded, ?_⟩
    intro u states stored numbered
    by_cases here : u = d'.uri
    · subst here
      rw [Tokenizer.change_documents t d' changes tracked,
        Std.ExtTreeMap.getElem?_insert_self] at stored
      cases Option.some.inj stored
      by_cases newer : before.version < d'.version
      · rcases edits.meets before tracked newer before (uri ▸ tracked) with inTime | misfit
        · have right := knows.states d.uri before (uri ▸ tracked) (inTime ▸ edits.sends.1)
          rw [inTime, ← edits.sends.2] at right
          obtain ⟨sound, gapless, -⟩ := right.1.change right.2 edits.admits edits.edited
          rw [sound.version, ← sends.2]
          exact ⟨sound, gapless⟩
        · rw [LineStates.change_of_misfit newer misfit]
          have sound := LineStates.reset_sound before d'
          rw [sound.version, ← sends.2]
          exact ⟨sound, LineStates.gapless_unread _⟩
      · -- A batch that comes too late is ignored.
        have ignored : (before.change d' changes).1 = before := by
          simp [LineStates.change, Int.not_lt.mp newer]
        rw [ignored] at numbered ⊢
        exact knows.states d'.uri before tracked numbered
    · rw [t.change_others d' changes here] at stored
      exact knows.states u states stored numbered

theorem scopeAt_refers (sends : h.Sends d) (t : Tokenizer σ) (files : FileTree) (p : Position)
    (u : Uri) : Tokenizer.Refers files u (h.language u) t (t.scopeAt files d p).2 := by
  refine (t.scopeAt_updates files d p).refers (t.scopeAt_later files d p)
    (fun states => states.tokensAt_sync_grammar d _) u (h.language u) ?_
  rintro rfl
  exact sends.language.symm

/-- Extraction from what a tokenizer knows finds what the grammar of the document shows. -/
theorem Knows.extract (knows : h.Knows provider engine t) (sends : h.Sends d)
    (steady : h.Steady provider engine files) (patterns : PatternTable) (maxFileSize : Nat)
    (cancel : Option Cancellation) :
    (Extraction.extract patterns maxFileSize (fun t p => Tokenizer.scopeAt t files d p) d cancel
        t).1 = Extraction.reference patterns maxFileSize (t.shows files d) d cancel ∧
      h.Knows provider engine (Extraction.extract patterns maxFileSize
        (fun t p => Tokenizer.scopeAt t files d p) d cancel t).2 ∧
      ∀ u, Tokenizer.Refers files u (h.language u) t (Extraction.extract patterns maxFileSize
        (fun t p => Tokenizer.scopeAt t files d p) d cancel t).2 := by
  have answers : ∀ (now : Tokenizer σ) p,
      (h.Knows provider engine now ∧ ∀ u, Tokenizer.Refers files u (h.language u) t now) →
      (now.scopeAt files d p).1 = t.shows files d p ∧
        h.Knows provider engine (now.scopeAt files d p).2 ∧
          ∀ u, Tokenizer.Refers files u (h.language u) t (now.scopeAt files d p).2 := by
    rintro now p ⟨knows, refers⟩
    have same : now.grammarOf? files d.uri d.language = t.grammarOf? files d.uri d.language := by
      rw [sends.language]
      exact (refers d.uri).here
    refine ⟨(knows.scopeAt_answer sends files p).trans (congrFun (Tokenizer.shows_congr same) p),
      knows.scopeAt sends steady p, ?_⟩
    exact fun u => (refers u).trans (scopeAt_refers sends now files p u)
  exact Extraction.extract_eq answers patterns maxFileSize d cancel ⟨knows, fun u files' => .inl rfl⟩

/-- What has been found by a whole extraction would be found again, whatever files there are. -/
theorem Knows.extract_settles (knows : h.Knows provider engine t) (sends : h.Sends d)
    (steady : h.Steady provider engine files) (patterns : PatternTable) (maxFileSize : Nat)
    (cancel : Option Cancellation) {x : Extraction × Tokenizer σ}
    (run : Extraction.extract patterns maxFileSize (fun t p => Tokenizer.scopeAt t files d p) d
      cancel t = x) (complete : x.1.isComplete = true) {files' : FileTree}
    (steady' : h.Steady provider engine files') :
    x.1.occurrences = (Extraction.reference patterns maxFileSize (x.2.shows files' d) d
      (Cancellation.token cancel.isSome)).occurrences := by
  subst run
  have found := (knows.extract sends steady patterns maxFileSize cancel).1
  have asked := Extraction.extract_asks patterns maxFileSize d cancel t complete
  rw [found] at complete ⊢
  rw [Extraction.reference_of_complete _ _ _ _ _ complete]
  rcases asked with indifferent | ⟨place, asks⟩
  · rw [indifferent]
  -- From the first question on, every tree of files leads to the same grammar.
  let Settled (now : Tokenizer σ) : Prop := h.Knows provider engine now ∧
    ∀ files', h.Steady provider engine files' →
      now.grammarOf? files' d.uri d.language = t.grammarOf? files d.uri d.language
  have keeps : ∀ now p, Settled now → Settled (now.scopeAt files d p).2 := by
    rintro now p ⟨knows, settled⟩
    refine ⟨knows.scopeAt sends steady p, ?_⟩
    intro files' steady'
    have refers := scopeAt_refers sends now files p d.uri files'
    rw [← sends.language] at refers
    rcases refers with same | same
    · exact same.trans (settled files' steady')
    · exact same.trans (settled files steady)
  have first : Settled (t.scopeAt files d place).2 :=
    ⟨knows.scopeAt sends steady place, fun files' steady' =>
      (knows.scopeAt sends steady place).asked steady (t.scopeAt_updates files d place)
        (t.scopeAt_later files d place) (fun states => states.tokensAt_sync_grammar d _) steady'⟩
  have last := asks Settled keeps first
  rw [Tokenizer.shows_congr (last.2 files' steady')]

theorem Trusts.scopeAt (trusts : h.Trusts provider engine s) (sends : h.Sends d)
    (steady : h.Steady provider engine files) (p : Position) :
    h.Trusts provider engine (s.scopeAt files d p).2 :=
  trusts.updates steady sends (trusts.knows.scopeAt sends steady p)
    (s.tokenizer.scopeAt_updates files d p) (s.tokenizer.scopeAt_later files d p)
    fun states => states.tokensAt_sync_grammar d _

theorem Trusts.change {changes : List Change} (trusts : h.Trusts provider engine s)
    (sends : h.Sends d') (edits : h.Edits s.tokenizer d d' changes) :
    h.Trusts provider engine { s with tokenizer := s.tokenizer.change d' changes } := by
  apply trusts.tokenized (trusts.knows.change sends edits)
  intro u e live
  cases tracked : s.tokenizer.documents[d'.uri]? with
  | none =>
    rw [show s.tokenizer.change d' changes = s.tokenizer by simp [Tokenizer.change, tracked]]
    exact follows_of_grammar rfl rfl
  | some states =>
    refine follows_of_grammar (by simp [Tokenizer.change, tracked, Tokenizer.store]) ?_
    by_cases here : u = d'.uri
    · rw [here, Tokenizer.change_documents _ d' changes tracked,
        Std.ExtTreeMap.getElem?_insert_self, tracked, Option.map_some, Option.map_some,
        LineStates.change_grammar]
    · rw [s.tokenizer.change_others d' changes here]

theorem Trusts.parse {cancel : Option Cancellation} (trusts : h.Trusts provider engine s)
    (sends : h.Sends d) (steady : h.Steady provider engine files)
    (parses : h.parses d.uri d.version cancel.isSome) :
    h.Trusts provider engine (s.parse files d cancel).2 := by
  obtain ⟨-, knows, refers⟩ := trusts.knows.watch.extract sends steady s.patterns
    s.config.maxFileSize cancel
  have watched := fun u => s.tokenizer.watch_refers files u (h.language u)
  have follows : ∀ u, h.Follows provider engine u s.tokenizer
      (s.extract files d cancel s.tokenizer.watch).2 :=
    fun u => follows_of_refers steady ((watched u).trans (refers u))
  unfold Server.parse
  split
  · exact trusts
  rcases s.cache.getOrExtract_cases d.uri d.version (s.extract files d cancel)
    s.tokenizer.watch with ⟨found, result, -⟩ | ⟨-, ⟨complete, result⟩ | ⟨-, result⟩⟩
  · rw [result]
    exact trusts.later rfl rfl trusts.knows.watch fun u e live =>
      ⟨live, follows_of_refers steady (watched u)⟩
  · rw [result]
    refine ⟨knows, ?_⟩
    intro u e live
    obtain ⟨stored, numbered⟩ := (Cache.live?_eq_some_iff _ _).mp live
    rcases s.cache.get?_store_cases d.uri u _ with before | ⟨rfl, new⟩
    · have live : s.cache.live? u = some e :=
        (Cache.live?_eq_some_iff _ _).mpr ⟨before ▸ stored, numbered⟩
      exact (trusts.entries u e live).later rfl rfl (follows u)
    · cases new.symm.trans stored
      refine ⟨cancel.isSome, parses, ?_⟩
      intro files' steady'
      rw [← sends.2]
      exact trusts.knows.watch.extract_settles sends steady s.patterns s.config.maxFileSize cancel
        rfl complete steady'
  · rw [result]
    exact trusts.later rfl rfl knows fun u e live => ⟨live, follows u⟩

theorem Trusts.didOpen (trusts : h.Trusts provider engine s) (sends : h.Sends d)
    (steady : h.Steady provider engine files) (parses : h.parses d.uri d.version false) :
    h.Trusts provider engine (s.didOpen files d).2 := by
  unfold Server.didOpen
  split
  · exact trusts
  · have opened := trusts.updates steady sends (trusts.knows.openDocument sends steady)
      (s.tokenizer.openDocument_updates files d) (s.tokenizer.openDocument_later files d)
      fun states => LineStates.sync_grammar states d
    exact opened.parse sends steady parses

theorem Trusts.extractFile (trusts : h.Trusts provider engine s)
    (steady : h.Steady provider engine files) (path : Path) :
    h.Trusts provider engine (s.extractFile files path).2 := by
  cases read : s.fileToRead? files path with
  | none => simpa [Server.extractFile, read] using trusts
  | some d =>
    obtain ⟨t, reading, result, -⟩ := Server.extractFile_eq read
    rw [result]
    exact (trusts.reading steady read reading).keepClosed d.uri _

theorem Trusts.abandonFile (trusts : h.Trusts provider engine s)
    (steady : h.Steady provider engine files) (path : Path) (pauses : Nat) :
    h.Trusts provider engine (s.abandonFile files path pauses) := by
  cases read : s.fileToRead? files path with
  | none => simpa [Server.abandonFile, read] using trusts
  | some d =>
    obtain ⟨t, reading, result | ⟨found, result⟩⟩ := Server.abandonFile_cases read pauses
    · rw [result]
      exact trusts.reading steady read reading
    · rw [result]
      exact (trusts.reading steady read reading).keepClosed d.uri found

theorem Trusts.didCreate (trusts : h.Trusts provider engine s)
    (steady : h.Steady provider engine files) (u : Uri) :
    h.Trusts provider engine (s.didCreate files u).2 := by
  unfold Server.didCreate
  split
  · exact trusts
  · rename_i path _
    have read := trusts.extractFile steady path
    split
    · rename_i here
      rwa [here] at read
    · rename_i here
      rw [here] at read
      exact ⟨read.knows, read.entries⟩

/-- What the host removes while a scan runs takes no grammar away. -/
def Spares (h : Host) (provider : Provider) (engine : Engine σ) (react : String → Reaction) :
    Prop :=
  ∀ message files, h.Steady provider engine files → h.Steady provider engine
    ((react message).removed.foldl (fun files names => files.remove names) files)

theorem Trusts.rescan {react : String → Reaction} (trusts : h.Trusts provider engine s)
    (steady : h.Steady provider engine files) (spares : h.Spares provider engine react)
    (isCancelled : Bool) : h.Trusts provider engine (s.rescan files isCancelled react).2.1 := by
  have leads : (s.scanner (s.progress.start "Parsing resources").begun react).Leads fun a b =>
      h.Trusts provider engine a.parser ∧ h.Steady provider engine a.files →
        h.Trusts provider engine b.parser ∧ h.Steady provider engine b.files := {
    refl := fun _ holds => holds
    trans := fun first second holds => second (first holds)
    parse := fun a path holds => ⟨holds.1.extractFile holds.2 path, holds.2⟩
    announce := fun message a holds =>
      ⟨⟨holds.1.knows, holds.1.entries⟩, spares message a.files holds.2⟩
    abandon := fun message path a holds => by
      simp only [Server.scanner]
      split
      · exact holds
      · exact ⟨holds.1.abandonFile holds.2 path _, holds.2⟩ }
  have start : h.Trusts provider engine (s.scanStart files isCancelled).parser :=
    ⟨trusts.knows, fun u e live =>
      trusts.entries u e ((s.cache.live?_clearClosed u).symm.trans live)⟩
  have last := (leads.scanAll s.roots (s.scanStart files isCancelled) ⟨start, steady⟩).1
  obtain ⟨now, progress, ⟨x, scan, result⟩ | ⟨found, scan, result⟩⟩ :=
    s.rescan_cases files isCancelled react
  all_goals
    rw [← Server.scanned, scan] at last
    rw [result]
    exact ⟨last.knows, last.entries⟩

/-- The states that calls of a host lead to. Every call that reads meets files from which the same
grammars can be had, and every document is a snapshot of the host. -/
inductive Leads (h : Host) (provider : Provider) (engine : Engine σ) : Server σ → Prop
  | new (config : Config) (s : Server σ) : Server.new config provider engine = .ok s →
      Leads h provider engine s
  | withFolders (s : Server σ) (folders : List String) : Leads h provider engine s →
      Leads h provider engine (s.withFolders folders)
  | opened (s : Server σ) (files : FileTree) (d : Document) : Leads h provider engine s →
      h.Steady provider engine files → h.Sends d → h.parses d.uri d.version false →
      Leads h provider engine (s.didOpen files d).2
  | parsed (s : Server σ) (files : FileTree) (d : Document) (cancel : Option Cancellation) :
      Leads h provider engine s → h.Steady provider engine files → h.Sends d →
      h.parses d.uri d.version cancel.isSome → Leads h provider engine (s.parse files d cancel).2
  | changed (s : Server σ) (files : FileTree) (d d' : Document) (changes : List Change)
      (cancel : Option Cancellation) : Leads h provider engine s →
      h.Steady provider engine files → h.Sends d' → h.Edits s.tokenizer d d' changes →
      h.parses d'.uri d'.version cancel.isSome →
      Leads h provider engine (s.didChange files d' changes cancel).2
  | closed (s : Server σ) (u : Uri) : Leads h provider engine s →
      Leads h provider engine (s.didClose u)
  | created (s : Server σ) (files : FileTree) (u : Uri) : Leads h provider engine s →
      h.Steady provider engine files → Leads h provider engine (s.didCreate files u).2
  | removed (s : Server σ) (u : Uri) : Leads h provider engine s →
      Leads h provider engine (s.remove u)
  | renamed (s : Server σ) (files : FileTree) (old new : Uri) : Leads h provider engine s →
      h.Steady provider engine files → Leads h provider engine (s.didRename files old new).2
  | reloaded (s : Server σ) (files : FileTree) (d : Document) : Leads h provider engine s →
      h.Steady provider engine files → h.Sends d → h.parses d.uri d.version false →
      Leads h provider engine (s.reload files d).2
  | rescanned (s : Server σ) (files : FileTree) (isCancelled : Bool) (react : String → Reaction) :
      Leads h provider engine s → h.Steady provider engine files →
      h.Spares provider engine react →
      Leads h provider engine (s.rescan files isCancelled react).2.1
  | asked (s : Server σ) (files : FileTree) (d : Document) (p : Position) :
      Leads h provider engine s → h.Steady provider engine files → h.Sends d →
      Leads h provider engine (s.scopeAt files d p).2

theorem Leads.trusts (leads : h.Leads provider engine s) : h.Trusts provider engine s := by
  induction leads with
  | new config s built =>
    obtain ⟨patterns, excludes, -, rfl⟩ := Server.new_eq_ok built
    refine ⟨⟨rfl, rfl, ?_, ?_⟩, ?_⟩
    · intro scope g loaded
      simp [Tokenizer.new, Registry.new] at loaded
    · intro u states stored
      simp [Tokenizer.new] at stored
    · intro u e live
      simp [Cache.live?, Cache.get?, Cache.empty] at live
  | withFolders s folders _ trusts => exact ⟨trusts.knows, trusts.entries⟩
  | opened s files d _ steady sends parses trusts => exact trusts.didOpen sends steady parses
  | parsed s files d cancel _ steady sends parses trusts =>
    exact trusts.parse sends steady parses
  | changed s files d d' changes cancel _ steady sends edits parses trusts =>
    exact (trusts.change sends edits).parse sends steady parses
  | closed s u _ trusts => exact trusts.forget u s.index fun v => s.cache.live?_close u v
  | created s files u _ steady trusts => exact trusts.didCreate steady u
  | removed s u _ trusts => exact trusts.remove u
  | renamed s files old new _ steady trusts => exact (trusts.remove old).didCreate steady new
  | reloaded s files d _ steady sends parses trusts =>
    exact (trusts.remove d.uri).didOpen sends steady parses
  | rescanned s files isCancelled react _ steady spares trusts =>
    exact trusts.rescan steady spares isCancelled
  | asked s files d p _ steady sends trusts => exact trusts.scopeAt sends steady p

theorem Knows.parse_missed (knows : h.Knows provider engine s.tokenizer) (sends : h.Sends d)
    (steady : h.Steady provider engine files) (cancel : Option Cancellation)
    (considered : s.shouldSkip d.path (some d.language) = false)
    (missed : s.cache.hit? d.uri d.version = none) :
    (s.parse files d cancel).1 = (Extraction.reference s.patterns s.config.maxFileSize
      (s.tokenizer.shows files d) d cancel).occurrences := by
  have watched : s.tokenizer.watch.shows files d = s.tokenizer.shows files d :=
    Tokenizer.shows_congr (s.tokenizer.watch_refers files d.uri d.language).here
  have found : (s.extract files d cancel s.tokenizer.watch).1 =
      Extraction.reference s.patterns s.config.maxFileSize (s.tokenizer.shows files d) d cancel := by
    rw [← watched]
    exact (knows.watch.extract sends steady s.patterns s.config.maxFileSize cancel).1
  unfold Server.parse
  rw [if_neg (by simp [considered])]
  rcases s.cache.getOrExtract_cases d.uri d.version (s.extract files d cancel)
    s.tokenizer.watch with ⟨found, -, hit⟩ | ⟨-, ⟨-, result⟩ | ⟨-, result⟩⟩
  · rw [missed] at hit
    cases hit
  · rw [result, ← found]
  · rw [result, ← found]

/-- A server that has no entry for a document, with the size from which on it skips documents. -/
def uncached (s : Server σ) (u : Uri) (maxFileSize : Nat) : Server σ :=
  { s with cache := s.cache.remove u, config := { s.config with maxFileSize } }

theorem Trusts.parse_uncached (trusts : h.Trusts provider engine s) (sends : h.Sends d)
    (steady : h.Steady provider engine files) (cancel : Option Cancellation) (maxFileSize : Nat) :
    ((uncached s d.uri maxFileSize).parse files d cancel).1 =
      if s.shouldSkip d.path (some d.language) then []
      else (Extraction.reference s.patterns maxFileSize (s.tokenizer.shows files d) d
        cancel).occurrences := by
  have same : (uncached s d.uri maxFileSize).shouldSkip d.path (some d.language) =
      s.shouldSkip d.path (some d.language) := rfl
  cases considered : s.shouldSkip d.path (some d.language) with
  | true => simp [Server.parse, same, considered]
  | false =>
    have missed : (uncached s d.uri maxFileSize).cache.hit? d.uri d.version = none := by
      simp [uncached, Cache.hit?, Cache.get?_remove]
    exact Knows.parse_missed (s := uncached s d.uri maxFileSize) trusts.knows sends steady cancel
      (same.trans considered) missed

/-- Every answer is the one that some call would get without the cache: this call, or one that the
host makes for the same version. -/
theorem Trusts.parse_answer (trusts : h.Trusts provider engine s) (sends : h.Sends d)
    (steady : h.Steady provider engine files) (given : Bool) :
    ∃ before, (before = given ∨ h.parses d.uri d.version before) ∧
      (s.parse files d (Cancellation.token given)).1 =
        ((uncached s d.uri s.config.maxFileSize).parse files d (Cancellation.token before)).1 := by
  simp only [trusts.parse_uncached sends steady]
  cases considered : s.shouldSkip d.path (some d.language) with
  | true => exact ⟨given, .inl rfl, by simp [Server.parse, considered]⟩
  | false =>
    cases hit : s.cache.hit? d.uri d.version with
    | none =>
      exact ⟨given, .inl rfl, trusts.knows.parse_missed sends steady _ considered hit⟩
    | some found =>
      obtain ⟨before, parses, holds⟩ := trusts.entries _ _ (Cache.live?_of_hit hit sends.1)
      have held := holds files steady
      rw [← sends.2] at held
      refine ⟨before, .inr parses, Eq.trans ?_ held⟩
      simp [Server.parse, considered, Cache.getOrExtract, hit, Cache.Answer.hit]

/-- The cache is transparent up to the size from which on documents are skipped. Every answer is
that of a call without the cache, but such a call may differ from this one in whether it has a
token. A document that is small enough, or is always parsed in the same way, shows no difference;
one that is always parsed with a token is not skipped whatever its size. -/
theorem cache_is_transparent (leads : h.Leads provider engine s) (sends : h.Sends d)
    (steady : h.Steady provider engine files) (given : Bool) :
    (∃ before, (before = given ∨ h.parses d.uri d.version before) ∧
      (s.parse files d (Cancellation.token given)).1 =
        ((uncached s d.uri s.config.maxFileSize).parse files d (Cancellation.token before)).1) ∧
    (Text.size d.text ≤ s.config.maxFileSize ∨
        (∀ before, h.parses d.uri d.version before → before = given) →
      (s.parse files d (Cancellation.token given)).1 =
        ((uncached s d.uri s.config.maxFileSize).parse files d (Cancellation.token given)).1) ∧
    ((∀ before, h.parses d.uri d.version before → before = true) → ∀ maxFileSize,
      (s.parse files d (some .never)).1 =
        ((uncached s d.uri maxFileSize).parse files d (some .never)).1) := by
  have trusts := leads.trusts
  refine ⟨trusts.parse_answer sends steady given, ?_, ?_⟩
  · intro fair
    obtain ⟨before, kind, answer⟩ := trusts.parse_answer sends steady given
    rw [answer]
    rcases fair with small | alike
    · rw [trusts.parse_uncached sends steady, trusts.parse_uncached sends steady,
        Extraction.reference_small s.patterns _ small before given]
    · rw [kind.elim id (alike before)]
  · intro cancellable maxFileSize
    obtain ⟨before, kind, answer⟩ := trusts.parse_answer sends steady true
    rw [kind.elim id (cancellable before)] at answer
    have ceiling : Extraction.reference s.patterns s.config.maxFileSize
        (s.tokenizer.shows files d) d (some .never) =
          Extraction.reference s.patterns maxFileSize (s.tokenizer.shows files d) d (some .never) :=
      Extraction.reference_ceiling s.patterns _ _ d rfl
    have known : Cancellation.token true = some .never := rfl
    rw [known, trusts.parse_uncached sends steady, ceiling] at answer
    rw [answer, trusts.parse_uncached sends steady]

end Host

namespace Server

/-- A host with one document, which it parses with and without tokens. -/
def hostOfOneCall : Host where
  language _ := oneCall.language
  text _ _ := oneCall.text
  loads scope := ∃ g, luaInline.compiled markerEngine (.folder []) scope = .ok g
  parses _ _ _ := True

theorem hostOfOneCall_steady (files : FileTree) :
    hostOfOneCall.Steady luaInline markerEngine files := by
  intro scope
  simp only [hostOfOneCall, Provider.compiled, luaInline_inMemory.source_eq files (.folder [])]

theorem hostOfOneCall_sends : hostOfOneCall.Sends oneCall := ⟨by decide, rfl⟩

def callFound : List Occurrence := [⟨.trigger, ")", ⟨oneCall.uri, ⟨1, 0⟩⟩⟩]

/-- The entry comes from a call without a token, and is met by one with a token. -/
theorem cache_is_transparent_one_call : ∃ s : Server GrammarState,
    hostOfOneCall.Leads luaInline markerEngine s ∧ hostOfOneCall.Sends oneCall ∧
    hostOfOneCall.Steady luaInline markerEngine (.folder []) ∧
    Text.size oneCall.text ≤ s.config.maxFileSize ∧
    s.cache.hit? oneCall.uri oneCall.version = some callFound ∧
    (s.parse (.folder []) oneCall (some .never)).1 =
      ((Host.uncached s oneCall.uri s.config.maxFileSize).parse (.folder []) oneCall
        (some .never)).1 := by
  have run : (Server.new callsOfF luaInline markerEngine).toOption.any (fun s =>
      let s := (s.didOpen (.folder []) oneCall).2
      s.cache.hit? oneCall.uri oneCall.version = some callFound &&
        Text.size oneCall.text ≤ s.config.maxFileSize) = true := by decide +kernel
  cases built : Server.new callsOfF luaInline markerEngine with
  | error e => simp [built, Except.toOption] at run
  | ok s =>
    simp only [built, Except.toOption, Option.any_some, Bool.and_eq_true, decide_eq_true_eq] at run
    obtain ⟨hit, small⟩ := run
    have steady := hostOfOneCall_steady (.folder [])
    have leads := Host.Leads.opened s (.folder []) oneCall (.new _ s built) steady
      hostOfOneCall_sends trivial
    obtain ⟨-, transparent, -⟩ :=
      Host.cache_is_transparent leads hostOfOneCall_sends steady true
    exact ⟨_, leads, hostOfOneCall_sends, steady, small, hit, transparent (.inl small)⟩

def luaFromFile : Provider := ⟨[⟨"lua", ["lua"], "source.lua", .file "/lua"⟩], 0⟩

def grammarFile : FileTree := .folder [("lua", .file "line_comment=--\n")]

/-- A large document is opened, and then parsed with a token; a document is opened, and then its
grammar can be loaded. Both times the first call leaves an empty entry, and no later call for the
same version finds what is there. -/
theorem entry_hides_a_call :
    (∃ s : Server GrammarState, hostOfOneCall.Leads luaInline markerEngine s ∧
      (s.parse (.folder []) oneCall (some .never)).1 = [] ∧
      ((Host.uncached s oneCall.uri s.config.maxFileSize).parse (.folder []) oneCall
        (some .never)).1 = callFound) ∧
    ∃ s : Server GrammarState, s.Reachable ∧ (s.parse grammarFile oneCall none).1 = [] ∧
      ((Host.uncached s oneCall.uri s.config.maxFileSize).parse grammarFile oneCall none).1 =
        callFound := by
  constructor
  · have run : (Server.new { callsOfF with maxFileSize := 9 } luaInline
        markerEngine).toOption.any (fun s =>
          let s := (s.didOpen (.folder []) oneCall).2
          (s.parse (.folder []) oneCall (some .never)).1 = [] &&
          ((Host.uncached s oneCall.uri s.config.maxFileSize).parse (.folder []) oneCall
            (some .never)).1 = callFound) = true := by decide +kernel
    cases built : Server.new { callsOfF with maxFileSize := 9 } luaInline markerEngine with
    | error e => simp [built, Except.toOption] at run
    | ok s =>
      simp only [built, Except.toOption, Option.any_some, Bool.and_eq_true,
        decide_eq_true_eq] at run
      exact ⟨_, .opened s (.folder []) oneCall (.new _ s built) (hostOfOneCall_steady _)
        hostOfOneCall_sends trivial, run⟩
  · have run : (Server.new callsOfF luaFromFile markerEngine).toOption.any (fun s =>
        let s := (s.didOpen (.folder []) oneCall).2
        (s.parse grammarFile oneCall none).1 = [] &&
        ((Host.uncached s oneCall.uri s.config.maxFileSize).parse grammarFile oneCall none).1 =
          callFound) = true := by decide +kernel
    cases built : Server.new callsOfF luaFromFile markerEngine with
    | error e => simp [built, Except.toOption] at run
    | ok s =>
      simp only [built, Except.toOption, Option.any_some, Bool.and_eq_true,
        decide_eq_true_eq] at run
      have noOlder : s.NoOlder oneCall := by
        obtain ⟨patterns, excludes, -, rfl⟩ := new_eq_ok built
        intro e live
        simp [Cache.live?, Cache.get?, Cache.empty] at live
      exact ⟨_, .opened s (.folder []) oneCall (.new _ _ _ s built) noOlder, run⟩

end Server

end EventXref
