import EventXref.Grammar.Marker
import EventXref.Grammar.Registry
import Mathlib.Data.List.Dedup

/-!
Requests for grammars that are under way at the same time. A request for a scope that is not loaded
waits while another one loads it; if that one succeeds its grammar is shared, and if it fails the
next one that goes on tries again. Requests come and go on in any order, and the files may change
between any two steps.

In every course of events at most one request loads a scope, and only one that is not there; so the
loaded grammars and the number of compilations can be read off the answers.
-/
namespace EventXref

variable {σ : Type}

def GrammarError.isCompile : GrammarError → Bool
  | .compile _ _ => true
  | _ => false

/-- An engine says that it could not compile when it refuses a source. -/
def Engine.NamesFailures (engine : Engine σ) : Prop :=
  ∀ scope source e, engine.compile scope source = .error e → e.isCompile = true

theorem markerEngine_namesFailures : markerEngine.NamesFailures := by
  intro scope source e refused
  simp only [markerEngine, MarkerGrammar.parse] at refused
  cases read : MarkerGrammar.readSettings ⟨scope, none, none⟩
      (((Text.splitOn '\n' source.toList).map (Text.trim Text.isBlank)).filter (· ≠ [])) with
  | ok g =>
    rw [read] at refused
    cases refused
  | error message =>
    rw [read] at refused
    cases refused
    rfl

theorem Provider.source_isCompile {p : Provider} {files : FileTree} {scope : String}
    {e : GrammarError} (missing : p.source files scope = .error e) : e.isCompile = false := by
  unfold Provider.source at missing
  split at missing
  · cases missing
    rfl
  · split at missing
    · cases missing
    · cases missing
    · split at missing
      · cases missing
      · cases missing
        rfl

/-- How far a request has come. -/
inductive Stage (σ : Type) where
  | waiting
  | loading (scope : String)
  | compiling (scope source : String)
  | answered (answer : Except GrammarError (Grammar σ))

/-- How many steps a request has before it at most. -/
def Stage.work : Stage σ → Nat
  | .waiting => 3
  | .loading _ => 2
  | .compiling _ _ => 1
  | .answered _ => 0

/-- A request for the grammar of a language. -/
structure Request (σ : Type) where
  language : String
  stage : Stage σ

namespace Request

def holds (scope : String) (q : Request σ) : Bool :=
  match q.stage with
  | .loading s | .compiling s _ => s == scope
  | _ => false

def grammar? (q : Request σ) : Option (Grammar σ) :=
  match q.stage with
  | .answered (.ok g) => some g
  | _ => none

theorem grammar?_eq_some {q : Request σ} {g : Grammar σ} :
    q.grammar? = some g ↔ q.stage = .answered (.ok g) := by
  unfold grammar?
  split
  next stage => simp [stage]
  next other =>
    simp only [reduceCtorEq, false_iff]
    exact fun stage => other g stage

def failsToCompile (q : Request σ) : Bool :=
  match q.stage with
  | .answered (.error e) => e.isCompile
  | _ => false

/-- One step of a request: it looks for the scope, gets the source, or compiles it. -/
def proceed (q : Request σ) (r : Registry σ) (busy : String → Bool) (files : FileTree) :
    Stage σ × Registry σ :=
  match q.stage with
  | .waiting =>
    match r.provider.scopeOf? q.language with
    | none => (.answered (.error (.unknownLanguage q.language)), r)
    | some scope =>
      match r.loaded[scope]? with
      | some g => (.answered (.ok g), r)
      | none => (if busy scope then .waiting else .loading scope, r)
  | .loading scope =>
    match r.provider.source files scope with
    | .error e => (.answered (.error e), r)
    | .ok source => (.compiling scope source, r)
  | .compiling scope source =>
    let r := { r with compiles := r.compiles + 1 }
    match r.engine.compile scope source with
    | .error e => (.answered (.error e), r)
    | .ok g => (.answered (.ok g), { r with loaded := r.loaded.insert scope g })
  | .answered answer => (.answered answer, r)

/-- All that a step can change. -/
inductive Moves (r : Registry σ) (busy : String → Bool) (files : FileTree) (language : String) :
    Stage σ → Stage σ → Registry σ → Prop
  | unknown : r.provider.scopeOf? language = none → Moves r busy files language .waiting
      (.answered (.error (.unknownLanguage language))) r
  | shares (scope : String) (g : Grammar σ) : r.provider.scopeOf? language = some scope →
      r.loaded[scope]? = some g → Moves r busy files language .waiting (.answered (.ok g)) r
  | begins (scope : String) : r.provider.scopeOf? language = some scope →
      r.loaded[scope]? = none → busy scope = false →
      Moves r busy files language .waiting (.loading scope) r
  | misses (scope : String) (e : GrammarError) : r.provider.source files scope = .error e →
      Moves r busy files language (.loading scope) (.answered (.error e)) r
  | fetches (scope source : String) : r.provider.source files scope = .ok source →
      Moves r busy files language (.loading scope) (.compiling scope source) r
  | fails (scope source : String) (e : GrammarError) : r.engine.compile scope source = .error e →
      Moves r busy files language (.compiling scope source) (.answered (.error e))
        { r with compiles := r.compiles + 1 }
  | loads (scope source : String) (g : Grammar σ) : r.engine.compile scope source = .ok g →
      Moves r busy files language (.compiling scope source) (.answered (.ok g))
        { r with compiles := r.compiles + 1, loaded := r.loaded.insert scope g }

variable {q : Request σ} {r r' : Registry σ} {busy : String → Bool} {files : FileTree}
  {language scope : String} {stage stage' : Stage σ}

theorem moves_proceed (q : Request σ) (r : Registry σ) (busy : String → Bool) (files : FileTree) :
    q.proceed r busy files = (q.stage, r) ∨
      Moves r busy files q.language q.stage (q.proceed r busy files).1
        (q.proceed r busy files).2 := by
  unfold proceed
  cases q.stage with
  | waiting =>
    cases known : r.provider.scopeOf? q.language with
    | none => exact .inr (.unknown known)
    | some scope =>
      cases stored : r.loaded[scope]? with
      | some g =>
        simp only [stored]
        exact .inr (.shares scope g known stored)
      | none =>
        simp only [stored]
        cases taken : busy scope with
        | true => exact .inl rfl
        | false => exact .inr (.begins scope known stored taken)
  | loading scope =>
    cases source : r.provider.source files scope with
    | error e =>
      simp only [source]
      exact .inr (.misses scope e source)
    | ok text =>
      simp only [source]
      exact .inr (.fetches scope text source)
  | compiling scope source =>
    cases made : r.engine.compile scope source with
    | error e =>
      simp only [made]
      exact .inr (.fails scope source e made)
    | ok g =>
      simp only [made]
      exact .inr (.loads scope source g made)
  | answered answer => exact .inl rfl

theorem Moves.proceed_eq (moves : Moves r busy files q.language q.stage stage r') :
    q.proceed r busy files = (stage, r') := by
  obtain ⟨language, old⟩ := q
  cases moves with
  | unknown known => simp [proceed, known]
  | shares scope g known stored => simp [proceed, known, stored]
  | begins scope known stored free => simp [proceed, known, stored, free]
  | misses scope e source => simp [proceed, source]
  | fetches scope text source => simp [proceed, source]
  | fails scope source e made => simp [proceed, made]
  | loads scope source g made => simp [proceed, made]

theorem Moves.not_answered (moves : Moves r busy files language stage stage' r')
    (answer : Except GrammarError (Grammar σ)) : stage ≠ .answered answer := by
  cases moves <;> intro same <;> cases same

theorem Moves.work_lt (moves : Moves r busy files language stage stage' r') :
    stage'.work < stage.work := by
  cases moves <;> simp [Stage.work]

/-- A request without an answer goes on, unless it waits for another one. -/
theorem moves_of_free (free : ∀ scope, q.stage = .waiting → busy scope = false)
    (without : ∀ a, q.stage ≠ .answered a) (r : Registry σ) (files : FileTree) :
    Moves r busy files q.language q.stage (q.proceed r busy files).1
      (q.proceed r busy files).2 := by
  rcases q.moves_proceed r busy files with rests | moves
  · exfalso
    have same := congrArg Prod.fst rests
    unfold proceed at same
    cases stage : q.stage with
    | waiting =>
      simp only [stage] at same
      split at same
      · cases same
      · split at same
        · cases same
        · simp [free _ stage] at same
    | loading scope =>
      simp only [stage] at same
      split at same <;> cases same
    | compiling scope source =>
      simp only [stage] at same
      split at same <;> cases same
    | answered a => exact without a stage
  · exact moves

theorem Moves.fields (moves : Moves r busy files language stage stage' r') :
    r'.provider = r.provider ∧ r'.engine = r.engine := by
  cases moves <;> exact ⟨rfl, rfl⟩

/-- A request that loads a scope did so before, or nobody did and the scope was not there. -/
theorem Moves.of_holds (moves : Moves r busy files language stage stage' r')
    (new : (⟨language, stage'⟩ : Request σ).holds scope = true) :
    r' = r ∧ ((⟨language, stage⟩ : Request σ).holds scope = true ∨
      r.provider.scopeOf? language = some scope ∧ r.loaded[scope]? = none ∧
        busy scope = false) := by
  cases moves with
  | begins s known stored free =>
    have same : s = scope := by simpa [holds] using new
    subst same
    exact ⟨rfl, .inr ⟨known, stored, free⟩⟩
  | fetches s text source => exact ⟨rfl, .inl new⟩
  | unknown | shares | misses | fails | loads => simp [holds] at new

/-- A request goes on in the same way over any registry with the same grammars where no more scopes
are being loaded. -/
theorem Moves.transfer {v : Registry σ} (busy' : String → Bool)
    (moves : Moves r busy files language stage stage' r') (provider : v.provider = r.provider)
    (engine : v.engine = r.engine) (loaded : v.loaded = r.loaded)
    (free : ∀ scope, busy scope = false → busy' scope = false) :
    ∃ v', Moves v busy' files language stage stage' v' ∧ v'.loaded = r'.loaded := by
  cases moves with
  | unknown known => exact ⟨v, .unknown (provider ▸ known), loaded⟩
  | shares scope g known stored =>
    exact ⟨v, .shares scope g (provider ▸ known) (loaded ▸ stored), loaded⟩
  | begins scope known stored idle =>
    exact ⟨v, .begins scope (provider ▸ known) (loaded ▸ stored) (free scope idle), loaded⟩
  | misses scope e source => exact ⟨v, .misses scope e (provider ▸ source), loaded⟩
  | fetches scope text source => exact ⟨v, .fetches scope text (provider ▸ source), loaded⟩
  | fails scope source e made => exact ⟨_, .fails scope source e (engine ▸ made), loaded⟩
  | loads scope source g made =>
    exact ⟨_, .loads scope source g (engine ▸ made), by simp only [loaded]⟩

/-- The loaded grammars change only by those that a request compiles and answers with. -/
theorem Moves.loaded (moves : Moves r busy files language stage stage' r') :
    r'.loaded = r.loaded ∨ ∃ scope source g, stage = .compiling scope source ∧
      stage' = .answered (.ok g) ∧ r.engine.compile scope source = .ok g ∧
      r'.loaded = r.loaded.insert scope g := by
  cases moves with
  | loads scope source g made => exact .inr ⟨scope, source, g, rfl, rfl, made, rfl⟩
  | unknown | shares | begins | misses | fetches | fails => exact .inl rfl

end Request

/-- A registry and the requests that were made of it, the first one first. -/
structure Traffic (σ : Type) where
  registry : Registry σ
  requests : List (Request σ)

namespace Traffic

inductive Event where
  | ask (language : String)
  /-- The request with this number goes on, over the files as they are then. -/
  | proceed (i : Nat) (files : FileTree)

def start (provider : Provider) (engine : Engine σ) : Traffic σ :=
  ⟨Registry.new provider engine, []⟩

def busy (t : Traffic σ) (scope : String) : Bool := t.requests.any (·.holds scope)

def step (t : Traffic σ) : Event → Traffic σ
  | .ask language => { t with requests := t.requests ++ [⟨language, .waiting⟩] }
  | .proceed i files =>
    match t.requests[i]? with
    | none => t
    | some q =>
      let (stage, registry) := q.proceed t.registry t.busy files
      ⟨registry, t.requests.set i { q with stage }⟩

def run (t : Traffic σ) (events : List Event) : Traffic σ := events.foldl step t

def successes (t : Traffic σ) : List String := t.requests.filterMap fun q =>
  q.grammar?.bind fun _ => t.registry.provider.scopeOf? q.language

variable {t u : Traffic σ} {i j : Nat} {q q' : Request σ} {scope : String} {g : Grammar σ}
  {files : FileTree} {p : Provider} {engine : Engine σ}

theorem step_proceed (there : t.requests[i]? = some q) (files : FileTree) :
    t.step (.proceed i files) = ⟨(q.proceed t.registry t.busy files).2,
      t.requests.set i ⟨q.language, (q.proceed t.registry t.busy files).1⟩⟩ := by
  simp [step, there]

/-- What a step does: a request is added, a request goes on, or nothing happens. -/
theorem step_cases (t : Traffic σ) (e : Event) :
    (∃ language, e = .ask language ∧
      t.step e = { t with requests := t.requests ++ [⟨language, .waiting⟩] }) ∨
    (∃ i files, e = .proceed i files ∧ t.step e = t) ∨
    ∃ i files q stage registry, e = .proceed i files ∧ t.requests[i]? = some q ∧
      Request.Moves t.registry t.busy files q.language q.stage stage registry ∧
      t.step e = ⟨registry, t.requests.set i ⟨q.language, stage⟩⟩ := by
  cases e with
  | ask language => exact .inl ⟨language, rfl, rfl⟩
  | proceed i files =>
    cases there : t.requests[i]? with
    | none => exact .inr (.inl ⟨i, files, rfl, by simp [step, there]⟩)
    | some q =>
      rcases q.moves_proceed t.registry t.busy files with rests | moves
      · obtain ⟨inside, here⟩ := List.getElem?_eq_some_iff.mp there
        have same : t.requests.set i q = t.requests := by rw [← here, List.set_getElem_self]
        exact .inr (.inl ⟨i, files, rfl, by rw [step_proceed there, rests, same]⟩)
      · exact .inr (.inr ⟨i, files, q, _, _, rfl, there, moves, step_proceed there files⟩)

theorem getElem?_set_cases {l : List (Request σ)} (there : (l.set i q')[j]? = some q) :
    j = i ∧ q = q' ∨ j ≠ i ∧ l[j]? = some q := by
  rw [List.getElem?_set] at there
  split at there
  next same =>
    split at there
    · exact .inl ⟨same.symm, (Option.some.inj there).symm⟩
    · cases there
  next other => exact .inr ⟨Ne.symm other, there⟩

theorem getElem?_ask_cases {l : List (Request σ)} {language : String}
    (there : (l ++ [⟨language, .waiting⟩])[j]? = some q) :
    l[j]? = some q ∨ j = l.length ∧ q = ⟨language, .waiting⟩ := by
  rw [List.getElem?_append] at there
  split at there
  · exact .inl there
  next behind =>
    obtain ⟨inside, rfl⟩ := List.getElem?_eq_some_iff.mp there
    simp only [List.length_singleton] at inside
    exact .inr ⟨by omega, by simp⟩

/-- What holds of the registry and the requests in every course of events. -/
structure Orderly (p : Provider) (engine : Engine σ) (t : Traffic σ) : Prop where
  provider : t.registry.provider = p
  engine : t.registry.engine = engine
  /-- A request loads the scope of its language, and only when that is not there yet. -/
  loader : ∀ (i : Nat) (q : Request σ) scope, t.requests[i]? = some q → q.holds scope = true →
    p.scopeOf? q.language = some scope ∧ t.registry.loaded[scope]? = none
  alone : ∀ (i j : Nat) (q q' : Request σ) scope, t.requests[i]? = some q →
    t.requests[j]? = some q' → q.holds scope = true → q'.holds scope = true → i = j
  answer : ∀ (i : Nat) (q : Request σ) g, t.requests[i]? = some q → q.stage = .answered (.ok g) →
    ∃ scope, p.scopeOf? q.language = some scope ∧ t.registry.loaded[scope]? = some g
  origin : ∀ (scope : String) g, t.registry.loaded[scope]? = some g →
    ∃ (i : Nat) (q : Request σ), t.requests[i]? = some q ∧ p.scopeOf? q.language = some scope ∧
      q.stage = .answered (.ok g)
  compiles : t.registry.compiles =
    t.registry.loaded.size + t.requests.countP Request.failsToCompile

theorem orderly_start : (start p engine).Orderly p engine where
  provider := rfl
  engine := rfl
  loader i q scope there := by simp [start] at there
  alone i j q q' scope there := by simp [start] at there
  answer i q g there := by simp [start] at there
  origin scope g stored := by simp [start, Registry.new] at stored
  compiles := by simp [start, Registry.new]

theorem Orderly.ask (orderly : t.Orderly p engine) (language : String) :
    ({ t with requests := t.requests ++ [⟨language, .waiting⟩] } : Traffic σ).Orderly p engine where
  provider := orderly.provider
  engine := orderly.engine
  loader i q scope there holds := by
    rcases getElem?_ask_cases there with before | ⟨-, rfl⟩
    · exact orderly.loader i q scope before holds
    · cases holds
  alone i j q q' scope there there' holds holds' := by
    rcases getElem?_ask_cases there with before | ⟨-, rfl⟩
    · rcases getElem?_ask_cases there' with before' | ⟨-, rfl⟩
      · exact orderly.alone i j q q' scope before before' holds holds'
      · cases holds'
    · cases holds
  answer i q g there answered := by
    rcases getElem?_ask_cases there with before | ⟨-, rfl⟩
    · exact orderly.answer i q g before answered
    · cases answered
  origin scope g stored := by
    obtain ⟨i, q, there, known, answered⟩ := orderly.origin scope g stored
    obtain ⟨inside, -⟩ := List.getElem?_eq_some_iff.mp there
    exact ⟨i, q, by rw [List.getElem?_append_left inside, there], known, answered⟩
  compiles := by
    simp [orderly.compiles, Request.failsToCompile]

section Insert

variable {m : Std.ExtTreeMap String (Grammar σ)} {k : String} {w : Grammar σ}

theorem getElem?_insert_kept (free : m[k]? = none) (stored : m[scope]? = some g) :
    (m.insert k w)[scope]? = some g := by
  rw [Std.ExtTreeMap.getElem?_insert, if_neg]
  · exact stored
  · intro same
    have here : k = scope := Std.LawfulEqCmp.eq_of_compare same
    rw [← here, free] at stored
    cases stored

theorem getElem?_insert_cases (stored : (m.insert k w)[scope]? = some g) :
    scope = k ∧ g = w ∨ m[scope]? = some g := by
  rw [Std.ExtTreeMap.getElem?_insert] at stored
  split at stored
  next same =>
    exact .inl ⟨(Std.LawfulEqCmp.eq_of_compare same).symm, (Option.some.inj stored).symm⟩
  · exact .inr stored

end Insert

theorem countP_set_of_not {l : List (Request σ)} {p : Request σ → Bool} (there : l[i]? = some q)
    (before : p q = false) : (l.set i q').countP p = l.countP p + if p q' then 1 else 0 := by
  obtain ⟨inside, rfl⟩ := List.getElem?_eq_some_iff.mp there
  simp [List.countP_set inside, before]

section Moves

variable {stage : Stage σ} {r : Registry σ}

/-- What was loaded stays when a request goes on: it inserts only a scope that is not there. -/
theorem Orderly.kept (orderly : t.Orderly p engine) (there : t.requests[i]? = some q)
    (moves : Request.Moves t.registry t.busy files q.language q.stage stage r)
    (stored : t.registry.loaded[scope]? = some g) : r.loaded[scope]? = some g := by
  rcases moves.loaded with same | ⟨s, source, w, old, -, -, gains⟩
  · rwa [same]
  · have holds : q.holds s = true := by simp [Request.holds, old]
    rw [gains]
    exact getElem?_insert_kept (orderly.loader i q s there holds).2 stored

theorem Orderly.loader_moves (orderly : t.Orderly p engine) (there : t.requests[i]? = some q)
    (moves : Request.Moves t.registry t.busy files q.language q.stage stage r)
    (there' : (t.requests.set i ⟨q.language, stage⟩)[j]? = some q')
    (holds : q'.holds scope = true) :
    p.scopeOf? q'.language = some scope ∧ r.loaded[scope]? = none := by
  rcases getElem?_set_cases there' with ⟨rfl, rfl⟩ | ⟨other, before⟩
  · obtain ⟨rfl, held | ⟨known, free, -⟩⟩ := moves.of_holds holds
    · exact orderly.loader j q scope there held
    · exact ⟨orderly.provider ▸ known, free⟩
  · obtain ⟨known, free⟩ := orderly.loader j q' scope before holds
    refine ⟨known, ?_⟩
    rcases moves.loaded with same | ⟨s, source, w, old, -, -, gains⟩
    · simpa only [same] using free
    · -- what is loaded now belongs to another request, so it is another scope
      have held : q.holds s = true := by simp [Request.holds, old]
      have apart : s ≠ scope := by
        rintro rfl
        exact other (orderly.alone j i q' q s before there holds held)
      cases stored : r.loaded[scope]? with
      | none => rfl
      | some g =>
        rw [gains] at stored
        rcases getElem?_insert_cases stored with ⟨same, -⟩ | earlier
        · exact absurd same.symm apart
        · rw [free] at earlier
          cases earlier

theorem busy_of_holds (there : t.requests[i]? = some q) (holds : q.holds scope = true) :
    t.busy scope ≠ false := by
  intro idle
  rw [busy, List.any_eq_false] at idle
  exact idle q (List.mem_of_getElem? there) holds

theorem Orderly.alone_moves {k : Nat} {q₁ q₂ : Request σ} (orderly : t.Orderly p engine)
    (there : t.requests[i]? = some q)
    (moves : Request.Moves t.registry t.busy files q.language q.stage stage r)
    (there₁ : (t.requests.set i ⟨q.language, stage⟩)[j]? = some q₁)
    (there₂ : (t.requests.set i ⟨q.language, stage⟩)[k]? = some q₂)
    (holds₁ : q₁.holds scope = true) (holds₂ : q₂.holds scope = true) : j = k := by
  rcases getElem?_set_cases there₁ with ⟨rfl, rfl⟩ | ⟨-, before₁⟩ <;>
    rcases getElem?_set_cases there₂ with ⟨rfl, rfl⟩ | ⟨-, before₂⟩
  · rfl
  · rcases (moves.of_holds holds₁).2 with held | ⟨-, -, idle⟩
    · exact orderly.alone j k q q₂ scope there before₂ held holds₂
    · exact absurd idle (busy_of_holds before₂ holds₂)
  · rcases (moves.of_holds holds₂).2 with held | ⟨-, -, idle⟩
    · exact orderly.alone j k q₁ q scope before₁ there holds₁ held
    · exact absurd idle (busy_of_holds before₁ holds₁)
  · exact orderly.alone j k q₁ q₂ scope before₁ before₂ holds₁ holds₂

theorem Orderly.answer_moves (orderly : t.Orderly p engine) (there : t.requests[i]? = some q)
    (moves : Request.Moves t.registry t.busy files q.language q.stage stage r)
    (there' : (t.requests.set i ⟨q.language, stage⟩)[j]? = some q')
    (answered : q'.stage = .answered (.ok g)) :
    ∃ scope, p.scopeOf? q'.language = some scope ∧ r.loaded[scope]? = some g := by
  rcases getElem?_set_cases there' with ⟨rfl, rfl⟩ | ⟨-, before⟩
  · have registry := orderly.provider
    generalize old : q.stage = stage₀ at moves
    cases answered
    cases moves with
    | shares scope g known stored => exact ⟨scope, registry ▸ known, stored⟩
    | loads scope source g made =>
      have held : q.holds scope = true := by simp [Request.holds, old]
      exact ⟨scope, (orderly.loader j q scope there held).1, by simp⟩
  · obtain ⟨scope, known, stored⟩ := orderly.answer j q' g before answered
    exact ⟨scope, known, orderly.kept there moves stored⟩

theorem Orderly.origin_moves (orderly : t.Orderly p engine) (there : t.requests[i]? = some q)
    (moves : Request.Moves t.registry t.busy files q.language q.stage stage r)
    (stored : r.loaded[scope]? = some g) :
    ∃ (j : Nat) (q' : Request σ), (t.requests.set i ⟨q.language, stage⟩)[j]? = some q' ∧
      p.scopeOf? q'.language = some scope ∧ q'.stage = .answered (.ok g) := by
  by_cases before : t.registry.loaded[scope]? = some g
  · obtain ⟨j, q', there', known, answered⟩ := orderly.origin scope g before
    have other : i ≠ j := by
      rintro rfl
      cases there.symm.trans there'
      exact moves.not_answered _ answered
    exact ⟨j, q', by rw [List.getElem?_set_ne other, there'], known, answered⟩
  · rcases moves.loaded with same | ⟨s, source, w, old, rfl, -, gains⟩
    · rw [same] at stored
      exact absurd stored before
    · rw [gains] at stored
      rcases getElem?_insert_cases stored with ⟨rfl, rfl⟩ | earlier
      · have held : q.holds scope = true := by simp [Request.holds, old]
        obtain ⟨inside, -⟩ := List.getElem?_eq_some_iff.mp there
        exact ⟨i, _, List.getElem?_set_self inside, (orderly.loader i q scope there held).1, rfl⟩
      · exact absurd earlier before

/-- A compilation either adds a grammar or makes the request one that failed to compile. -/
theorem Orderly.compiles_moves (honest : engine.NamesFailures) (orderly : t.Orderly p engine)
    (there : t.requests[i]? = some q)
    (moves : Request.Moves t.registry t.busy files q.language q.stage stage r) :
    r.compiles = r.loaded.size +
      (t.requests.set i ⟨q.language, stage⟩).countP Request.failsToCompile := by
  have count : (t.requests.set i ⟨q.language, stage⟩).countP Request.failsToCompile = _ :=
    countP_set_of_not there (by
      cases old : q.stage with
      | answered a => exact absurd old (moves.not_answered a)
      | _ => simp [Request.failsToCompile, old])
  have law := orderly.compiles
  have faithful := orderly.engine
  generalize old : q.stage = stage₀ at moves
  cases moves with
  | unknown known => simpa [count, Request.failsToCompile, GrammarError.isCompile] using law
  | shares scope g known stored => simpa [count, Request.failsToCompile] using law
  | begins scope known stored free => simpa [count, Request.failsToCompile] using law
  | misses scope e source =>
    simpa [count, Request.failsToCompile, Provider.source_isCompile source] using law
  | fetches scope text source => simpa [count, Request.failsToCompile] using law
  | fails scope source e made =>
    rw [faithful] at made
    simp [count, Request.failsToCompile, honest scope source e made, law, Nat.add_assoc]
  | loads scope source g made =>
    have held : q.holds scope = true := by simp [Request.holds, old]
    have absent : ¬ t.registry.loaded.contains scope = true := by
      simpa using (orderly.loader i q scope there held).2
    have size : (t.registry.loaded.insert scope g).size = t.registry.loaded.size + 1 := by
      rw [Std.ExtTreeMap.size_insert, if_neg absent]
    simp [count, Request.failsToCompile, law, size, Nat.add_right_comm]

theorem Orderly.moves (honest : engine.NamesFailures) (orderly : t.Orderly p engine)
    (there : t.requests[i]? = some q)
    (moves : Request.Moves t.registry t.busy files q.language q.stage stage r) :
    (⟨r, t.requests.set i ⟨q.language, stage⟩⟩ : Traffic σ).Orderly p engine where
  provider := moves.fields.1.trans orderly.provider
  engine := moves.fields.2.trans orderly.engine
  loader _ _ _ := orderly.loader_moves there moves
  alone _ _ _ _ _ := orderly.alone_moves there moves
  answer _ _ _ := orderly.answer_moves there moves
  origin _ _ := orderly.origin_moves there moves
  compiles := orderly.compiles_moves honest there moves

end Moves

theorem Orderly.step (honest : engine.NamesFailures) (orderly : t.Orderly p engine) (e : Event) :
    (t.step e).Orderly p engine := by
  rcases t.step_cases e with ⟨language, -, asks⟩ | ⟨i, files, -, rests⟩ |
    ⟨i, files, q, stage, r, -, there, moves, goes⟩
  · rw [asks]
    exact orderly.ask language
  · rwa [rests]
  · rw [goes]
    exact orderly.moves honest there moves

theorem Orderly.run (honest : engine.NamesFailures) (orderly : t.Orderly p engine)
    (events : List Event) : (t.run events).Orderly p engine := by
  induction events generalizing t with
  | nil => exact orderly
  | cons e events ih => exact ih (orderly.step honest e)

theorem step_answered {a : Except GrammarError (Grammar σ)} (there : t.requests[i]? = some q)
    (answered : q.stage = .answered a) (e : Event) : (t.step e).requests[i]? = some q := by
  rcases t.step_cases e with ⟨language, -, asks⟩ | ⟨j, files, -, rests⟩ |
    ⟨j, files, q', stage, r, -, there', moves, goes⟩
  · obtain ⟨inside, -⟩ := List.getElem?_eq_some_iff.mp there
    rw [asks, List.getElem?_append_left inside, there]
  · rwa [rests]
  · have other : j ≠ i := by
      rintro rfl
      cases there.symm.trans there'
      exact moves.not_answered a answered
    rw [goes, List.getElem?_set_ne other, there]

theorem run_answered {a : Except GrammarError (Grammar σ)} (there : t.requests[i]? = some q)
    (answered : q.stage = .answered a) (events : List Event) :
    (t.run events).requests[i]? = some q := by
  induction events generalizing t with
  | nil => exact there
  | cons e events ih => exact ih (step_answered there answered e)

theorem Orderly.mem_successes (orderly : t.Orderly p engine) :
    scope ∈ t.successes ↔ t.registry.loaded[scope]?.isSome = true := by
  simp only [successes, List.mem_filterMap, orderly.provider]
  constructor
  · rintro ⟨q, inside, known⟩
    obtain ⟨i, there⟩ := List.mem_iff_getElem?.mp inside
    obtain ⟨g, got, known⟩ := Option.bind_eq_some_iff.mp known
    obtain ⟨s, known', stored⟩ := orderly.answer i q g there (Request.grammar?_eq_some.mp got)
    cases known.symm.trans known'
    simp [stored]
  · intro stored
    obtain ⟨g, stored⟩ := Option.isSome_iff_exists.mp stored
    obtain ⟨i, q, there, known, succeeded⟩ := orderly.origin scope g stored
    refine ⟨q, List.mem_of_getElem? there, ?_⟩
    rw [Request.grammar?_eq_some.mpr succeeded, Option.bind_some, known]

theorem Orderly.loadedCount (orderly : t.Orderly p engine) :
    t.registry.loadedCount = t.successes.dedup.length := by
  have same : t.registry.loaded.keys.Perm t.successes.dedup := by
    rw [List.perm_ext_iff_of_nodup Std.ExtTreeMap.nodup_keys (List.nodup_dedup _)]
    intro scope
    rw [List.mem_dedup, orderly.mem_successes, Std.ExtTreeMap.mem_keys,
      Std.ExtTreeMap.mem_iff_isSome_getElem?]
  rw [Registry.loadedCount, ← Std.ExtTreeMap.length_keys, same.length_eq]

/-- Two orderly courses with the same requests have loaded and compiled the same. -/
theorem Orderly.registry_eq (orderly : t.Orderly p engine) (orderly' : u.Orderly p engine)
    (same : t.requests = u.requests) : t.registry.loaded = u.registry.loaded ∧
      t.registry.compiles = u.registry.compiles := by
  have half : ∀ {t u : Traffic σ}, t.Orderly p engine → u.Orderly p engine →
      t.requests = u.requests → ∀ (scope : String) g, t.registry.loaded[scope]? = some g →
        u.registry.loaded[scope]? = some g := by
    intro t u orderly orderly' same scope g stored
    obtain ⟨i, q, there, known, succeeded⟩ := orderly.origin scope g stored
    rw [same] at there
    obtain ⟨s, known', stored'⟩ := orderly'.answer i q g there succeeded
    cases known.symm.trans known'
    exact stored'
  have loaded : t.registry.loaded = u.registry.loaded := by
    refine Std.ExtTreeMap.ext_getElem? fun scope => Option.ext fun g => ?_
    exact ⟨half orderly orderly' same scope g, half orderly' orderly same.symm scope g⟩
  exact ⟨loaded, by rw [orderly.compiles, orderly'.compiles, loaded, same]⟩

end Traffic

end EventXref
