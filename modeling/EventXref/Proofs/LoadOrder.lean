import EventXref.Proofs.ClosedFiles
import EventXref.Proofs.Traffic
import Mathlib.Algebra.GroupWithZero.Nat

/-!
Requests that go on over files that stay as they are. Each of them can get its answer, and it is the
one that the registry gives when the requests are made one after the other.
-/
namespace EventXref

variable {σ : Type}

namespace Registry

variable {r r' r'' : Registry σ} {files : FileTree} {language scope : String} {g : Grammar σ}

/-- Two registries with the same grammars and the same count; the time may differ. -/
@[mk_iff]
structure Agrees (r r' : Registry σ) : Prop where
  provider : r.provider = r'.provider
  engine : r.engine = r'.engine
  loaded : r.loaded = r'.loaded
  compiles : r.compiles = r'.compiles

theorem agrees_fetch (r : Registry σ) (scope : String) : r.Agrees (r.fetch scope) := by
  unfold fetch
  dsimp only
  split <;> split <;> exact ⟨rfl, rfl, rfl, rfl⟩

theorem request_unknown (known : r.provider.scopeOf? language = none) :
    (r.request files language).1 = .error (.unknownLanguage language) := by
  simp [request, known]

theorem request_compiled (known : r.provider.scopeOf? language = some scope)
    (free : r.loaded[scope]? = none) :
    (r.request files language).1 = r.provider.compiled r.engine files scope := by
  simp [request, known, free, (load_cases r files scope).1]

theorem Agrees.trans (first : r.Agrees r') (second : r'.Agrees r'') : r.Agrees r'' :=
  ⟨first.provider.trans second.provider, first.engine.trans second.engine,
    first.loaded.trans second.loaded, first.compiles.trans second.compiles⟩

theorem Agrees.load (agrees : r.Agrees r') (files : FileTree) (scope : String) :
    (r.load files scope).1 = (r'.load files scope).1 ∧
      (r.load files scope).2.Agrees (r'.load files scope).2 := by
  have fetched : (r.fetch scope).Agrees (r'.fetch scope) := by
    have before := agrees_fetch r scope
    have after := agrees_fetch r' scope
    exact ⟨before.provider.symm.trans (agrees.provider.trans after.provider),
      before.engine.symm.trans (agrees.engine.trans after.engine),
      before.loaded.symm.trans (agrees.loaded.trans after.loaded),
      before.compiles.symm.trans (agrees.compiles.trans after.compiles)⟩
  unfold Registry.load
  simp only [fetched.provider, fetched.engine]
  cases read : (r'.fetch scope).provider.source files scope with
  | error e => exact ⟨rfl, fetched⟩
  | ok source =>
    cases made : (r'.fetch scope).engine.compile scope source with
    | error e => simp [made, agrees_iff, fetched.compiles, fetched.loaded]
    | ok g => simp [made, agrees_iff, fetched.compiles, fetched.loaded]

theorem Agrees.request (agrees : r.Agrees r') (files : FileTree) (language : String) :
    (r.request files language).1 = (r'.request files language).1 ∧
      (r.request files language).2.Agrees (r'.request files language).2 := by
  unfold Registry.request
  simp only [agrees.provider, agrees.loaded]
  cases r'.provider.scopeOf? language with
  | none => exact ⟨rfl, agrees⟩
  | some scope =>
    cases stored : r'.loaded[scope]? with
    | some g => simp [stored, agrees]
    | none => simpa only [stored] using agrees.load files scope

/-- A grammar that is loaded later on is the one that a request gives now. -/
theorem Later.request_loaded (later : Later files r files r')
    (known : r.provider.scopeOf? language = some scope) (stored : r'.loaded[scope]? = some g) :
    (r.request files language).1 = .ok g := by
  cases before : r.loaded[scope]? with
  | some w =>
    cases (later.kept scope w before).symm.trans stored
    simp [request, known, before]
  | none =>
    rcases later.gained scope g stored with already | made
    · rw [before] at already
      cases already
    · rw [request_compiled known before, made]

end Registry

namespace Traffic

variable {t u : Traffic σ} {i j : Nat} {q q' : Request σ} {scope : String} {g : Grammar σ}
  {files : FileTree} {p : Provider} {engine : Engine σ}

def Settled (t : Traffic σ) : Prop := ∀ q ∈ t.requests, ∃ a, q.stage = .answered a

def asked : List Event → List String :=
  List.filterMap fun
    | .ask language => some language
    | .proceed _ _ => none

/-- The requests only go on over these files. -/
def Over (files : FileTree) (events : List Event) : Prop :=
  ∀ i files', .proceed i files' ∈ events → files' = files

theorem run_languages (t : Traffic σ) (events : List Event) :
    (t.run events).requests.map Request.language =
      t.requests.map Request.language ++ asked events := by
  induction events generalizing t with
  | nil => simp [run, asked]
  | cons e events ih =>
    refine (ih (t.step e)).trans ?_
    rcases t.step_cases e with ⟨language, rfl, asks⟩ | ⟨i, files, rfl, rests⟩ |
      ⟨i, files, q, stage, r, rfl, there, -, goes⟩
    · simp [asks, asked]
    · simp [rests, asked]
    · have same : (t.requests.set i ⟨q.language, stage⟩).map Request.language =
          t.requests.map Request.language := by
        obtain ⟨inside, rfl⟩ := List.getElem?_eq_some_iff.mp there
        have within : i < (t.requests.map Request.language).length := by rwa [List.length_map]
        have here : t.requests[i].language = (t.requests.map Request.language)[i] := by simp
        rw [List.map_set, here, List.set_getElem_self]
      simp [goes, asked, same]

/-- The answers to the requests made since `t₀`, when every request goes on over the same files. -/
structure Since (t₀ : Traffic σ) (files : FileTree) (t : Traffic σ) : Prop where
  later : Registry.Later files t₀.registry files t.registry
  earlier : ∀ i < t₀.requests.length, t.requests[i]? = t₀.requests[i]?
  fetched : ∀ (i : Nat) (q : Request σ) scope source, t₀.requests.length ≤ i →
    t.requests[i]? = some q → q.stage = .compiling scope source →
    t₀.registry.provider.source files scope = .ok source
  answer : ∀ (i : Nat) (q : Request σ) a, t₀.requests.length ≤ i → t.requests[i]? = some q →
    q.stage = .answered a → a = (t₀.registry.request files q.language).1

/-- A scope that is being loaded was not loaded at `t₀` either, so its answer there is compiled. -/
theorem Since.request_compiled {t₀ : Traffic σ} (orderly : t.Orderly p engine)
    (since : Since t₀ files t) (there : t.requests[i]? = some q) (holds : q.holds scope = true) :
    (t₀.registry.request files q.language).1 =
      t₀.registry.provider.compiled t₀.registry.engine files scope := by
  obtain ⟨known, free⟩ := orderly.loader i q scope there holds
  rw [← orderly.provider, since.later.provider] at known
  refine Registry.request_compiled known ?_
  cases stored : t₀.registry.loaded[scope]? with
  | none => rfl
  | some g => exact (since.later.kept scope g stored).symm.trans free

theorem Since.compiled_eq {t₀ : Traffic σ} {text : String} (since : Since t₀ files t)
    (behind : t₀.requests.length ≤ i) (there : t.requests[i]? = some q)
    (old : q.stage = .compiling scope text) :
    t₀.registry.provider.compiled t₀.registry.engine files scope =
      t.registry.engine.compile scope text := by
  rw [Provider.compiled, since.fetched i q scope text behind there old, since.later.engine]

/-- The answer that a request gets is the one that `t₀` gives. -/
theorem Since.answer_moves {t₀ : Traffic σ} (orderly : t.Orderly p engine)
    (since : Since t₀ files t) {r : Registry σ} {a : Except GrammarError (Grammar σ)}
    (behind : t₀.requests.length ≤ i) (there : t.requests[i]? = some q)
    (moves : Request.Moves t.registry t.busy files q.language q.stage (.answered a) r) :
    a = (t₀.registry.request files q.language).1 := by
  have provider := since.later.provider
  generalize old : q.stage = stage₀ at moves
  cases moves with
  | unknown known =>
    rw [provider] at known
    exact (Registry.request_unknown known).symm
  | shares scope g known stored =>
    rw [provider] at known
    exact (since.later.request_loaded known stored).symm
  | misses scope e missing =>
    have held : q.holds scope = true := by simp [Request.holds, old]
    rw [provider] at missing
    rw [since.request_compiled orderly there held, Provider.compiled, missing]
  | fails scope text e made =>
    have held : q.holds scope = true := by simp [Request.holds, old]
    rw [since.request_compiled orderly there held, since.compiled_eq behind there old, made]
  | loads scope text g made =>
    have held : q.holds scope = true := by simp [Request.holds, old]
    rw [since.request_compiled orderly there held, since.compiled_eq behind there old, made]

theorem Since.moves {t₀ : Traffic σ} (settled : t₀.Settled) (orderly : t.Orderly p engine)
    (since : Since t₀ files t) {stage : Stage σ} {r : Registry σ} (there : t.requests[i]? = some q)
    (moves : Request.Moves t.registry t.busy files q.language q.stage stage r) :
    Since t₀ files ⟨r, t.requests.set i ⟨q.language, stage⟩⟩ := by
  have behind : t₀.requests.length ≤ i := by
    by_contra inside
    rw [since.earlier i (by omega)] at there
    obtain ⟨a, answered⟩ := settled q (List.mem_of_getElem? there)
    exact moves.not_answered a answered
  refine ⟨since.later.trans ⟨.refl files, moves.fields.1, moves.fields.2,
    fun _ _ => orderly.kept there moves, ?_⟩, ?_, ?_, ?_⟩
  · intro scope g stored
    rcases moves.loaded with same | ⟨s, text, w, old, -, made, gains⟩
    · exact .inl (by rwa [same] at stored)
    · rw [gains] at stored
      rcases getElem?_insert_cases stored with ⟨rfl, rfl⟩ | before
      · rw [since.later.provider, since.later.engine, since.compiled_eq behind there old, made]
        exact .inr rfl
      · exact .inl before
  · intro k inside
    rw [List.getElem?_set_ne (by omega), since.earlier k inside]
  · intro k q' scope text after there' old
    rcases getElem?_set_cases there' with ⟨rfl, rfl⟩ | ⟨-, before⟩
    · generalize q.stage = stage₀ at moves
      cases old
      cases moves with
      | fetches scope text read => rwa [since.later.provider] at read
    · exact since.fetched k q' scope text after before old
  · intro k q' a after there' answered
    rcases getElem?_set_cases there' with ⟨rfl, rfl⟩ | ⟨-, before⟩
    · cases answered
      exact since.answer_moves (q := q) orderly behind there moves
    · exact since.answer k q' a after before answered

theorem Since.step {t₀ : Traffic σ} (settled : t₀.Settled) (orderly : t.Orderly p engine)
    (since : Since t₀ files t) {e : Event}
    (same : ∀ i files', e = .proceed i files' → files' = files) : Since t₀ files (t.step e) := by
  rcases t.step_cases e with ⟨language, -, asks⟩ | ⟨i, files', -, rests⟩ |
    ⟨i, files', q, stage, r, rfl, there, moves, goes⟩
  · rw [asks]
    refine ⟨since.later, ?_, ?_, ?_⟩
    · intro k inside
      have before := since.earlier k inside
      rw [List.getElem?_eq_getElem inside] at before
      obtain ⟨inside', -⟩ := List.getElem?_eq_some_iff.mp before
      rw [List.getElem?_append_left inside', since.earlier k inside]
    · intro k q scope text after there old
      rcases getElem?_ask_cases there with before | ⟨-, rfl⟩
      · exact since.fetched k q scope text after before old
      · cases old
    · intro k q a after there answered
      rcases getElem?_ask_cases there with before | ⟨-, rfl⟩
      · exact since.answer k q a after before answered
      · cases answered
  · rwa [rests]
  · rw [goes]
    cases same i files' rfl
    exact since.moves settled orderly there moves

theorem Since.run {t₀ : Traffic σ} (honest : engine.NamesFailures) (settled : t₀.Settled)
    (orderly : t.Orderly p engine) (since : Since t₀ files t) {events : List Event}
    (fixed : Over files events) : Since t₀ files (t.run events) := by
  induction events generalizing t with
  | nil => exact since
  | cons e events ih =>
    refine ih (orderly.step honest e) ?_ fun i files' inside => fixed i files' (.tail e inside)
    exact since.step settled orderly fun i files' here => fixed i files' (here ▸ .head events)

theorem since_self (t : Traffic σ) (files : FileTree) : Since t files t where
  later := .refl files t.registry
  earlier _ _ := rfl
  fetched i q scope source behind there := by
    rw [List.getElem?_eq_none behind] at there
    cases there
  answer i q a behind there := by
    rw [List.getElem?_eq_none behind] at there
    cases there

/-- Over files that stay as they are, what is asked decides the answers; it does not matter in which
order the requests go on. -/
theorem Since.requests_eq {t₀ : Traffic σ} (since : Since t₀ files t) (since' : Since t₀ files u)
    (settled : t.Settled) (settled' : u.Settled)
    (same : t.requests.map Request.language = u.requests.map Request.language) :
    t.requests = u.requests := by
  have length : t.requests.length = u.requests.length := by simpa using congrArg List.length same
  refine List.ext_getElem length fun i inside inside' => ?_
  have there := List.getElem?_eq_getElem inside
  have there' := List.getElem?_eq_getElem inside'
  by_cases before : i < t₀.requests.length
  · have old := (since.earlier i before).trans (since'.earlier i before).symm
    exact Option.some.inj (there.symm.trans (old.trans there'))
  · obtain ⟨a, answered⟩ := settled _ (List.getElem_mem inside)
    obtain ⟨b, answered'⟩ := settled' _ (List.getElem_mem inside')
    have language : t.requests[i].language = u.requests[i].language := by
      have here := congrArg (·[i]?) same
      simpa [there, there'] using here
    have first := since.answer i _ a (by omega) there answered
    have second := since'.answer i _ b (by omega) there' answered'
    have stage : t.requests[i].stage = u.requests[i].stage := by
      rw [answered, answered', first, second, language]
    calc t.requests[i] = ⟨t.requests[i].language, t.requests[i].stage⟩ := rfl
      _ = ⟨u.requests[i].language, u.requests[i].stage⟩ := by rw [language, stage]

def work (t : Traffic σ) : Nat := (t.requests.map fun q => q.stage.work).sum

theorem work_moves {stage : Stage σ} {r : Registry σ} (there : t.requests[i]? = some q)
    (moves : Request.Moves t.registry t.busy files q.language q.stage stage r) :
    (⟨r, t.requests.set i ⟨q.language, stage⟩⟩ : Traffic σ).work < t.work := by
  obtain ⟨inside, rfl⟩ := List.getElem?_eq_some_iff.mp there
  have less := moves.work_lt
  have split : t.requests = t.requests.take i ++ t.requests[i] :: t.requests.drop (i + 1) := by
    simp
  simp only [work]
  rw [List.set_eq_take_append_cons_drop, if_pos inside]
  conv_rhs => rw [split]
  simp only [List.map_append, List.map_cons, List.sum_append, List.sum_cons]
  omega

/-- While a request has no answer, some request can go on. -/
theorem exists_moves (files : FileTree) (unsettled : ¬ t.Settled) :
    ∃ (i : Nat) (q : Request σ) (stage : Stage σ) (r : Registry σ), t.requests[i]? = some q ∧
      Request.Moves t.registry t.busy files q.language q.stage stage r := by
  by_cases held : ∃ scope, t.busy scope = true
  · -- the request that loads a scope waits for nobody
    obtain ⟨scope, held⟩ := held
    obtain ⟨q, inside, holds⟩ := List.any_eq_true.mp held
    obtain ⟨i, there⟩ := List.mem_iff_getElem?.mp inside
    refine ⟨i, q, _, _, there, Request.moves_of_free ?_ ?_ t.registry files⟩
    · intro _ waits
      simp [Request.holds, waits] at holds
    · intro a answered
      simp [Request.holds, answered] at holds
  · simp only [Settled, not_forall] at unsettled
    obtain ⟨q, inside, without⟩ := unsettled
    obtain ⟨i, there⟩ := List.mem_iff_getElem?.mp inside
    refine ⟨i, q, _, _, there, Request.moves_of_free ?_ ?_ t.registry files⟩
    · intro scope _
      exact Bool.eq_false_iff.mpr fun busy => held ⟨scope, busy⟩
    · exact fun a answered => without ⟨a, answered⟩

/-- Every request can get its answer, whatever the files are. -/
theorem exists_settled (t : Traffic σ) (files : FileTree) :
    ∃ order : List Nat, (t.run (order.map (.proceed · files))).Settled := by
  by_cases settled : t.Settled
  · exact ⟨[], settled⟩
  · obtain ⟨i, q, stage, r, there, moves⟩ := exists_moves files settled
    have goes : t.step (.proceed i files) = ⟨r, t.requests.set i ⟨q.language, stage⟩⟩ := by
      rw [step_proceed there, moves.proceed_eq]
    have less := work_moves there moves
    obtain ⟨order, settled⟩ := exists_settled (t.step (.proceed i files)) files
    exact ⟨i :: order, settled⟩
termination_by t.work
decreasing_by rwa [goes]

theorem step_last (r : Registry σ) (l : List (Request σ)) (q : Request σ) (files : FileTree) :
    (⟨r, l ++ [q]⟩ : Traffic σ).step (.proceed l.length files) =
      ⟨(q.proceed r (busy ⟨r, l ++ [q]⟩) files).2,
        l ++ [⟨q.language, (q.proceed r (busy ⟨r, l ++ [q]⟩) files).1⟩]⟩ := by
  rw [step_proceed (q := q) (by simp)]
  simp

/-- A request that is alone gets the answer of the registry, and leaves what the registry leaves. -/
theorem request_alone (settled : t.Settled) (files : FileTree) (language : String) :
    let alone := t.run (.ask language :: List.replicate 3 (.proceed t.requests.length files))
    alone.requests = t.requests ++
        [⟨language, .answered (t.registry.request files language).1⟩] ∧
      alone.registry.Agrees (t.registry.request files language).2 := by
  have free : ∀ scope, busy ⟨t.registry, t.requests ++ [⟨language, .waiting⟩]⟩ scope = false := by
    intro scope
    rw [busy, List.any_eq_false]
    intro q inside
    rcases List.mem_append.mp inside with before | last
    · obtain ⟨a, answered⟩ := settled q before
      simp [Request.holds, answered]
    · simp [Request.holds, List.mem_singleton.mp last]
  have asks : t.step (.ask language) = ⟨t.registry, t.requests ++ [⟨language, .waiting⟩]⟩ := rfl
  simp only [run, List.replicate, List.foldl_cons, List.foldl_nil, asks, step_last]
  cases known : t.registry.provider.scopeOf? language with
  | none => simp [Request.proceed, Registry.request, known, Registry.agrees_iff]
  | some scope =>
    cases stored : t.registry.loaded[scope]? with
    | some g => simp [Request.proceed, Registry.request, known, stored, Registry.agrees_iff]
    | none =>
      have fetch := Registry.agrees_fetch t.registry scope
      cases read : t.registry.provider.source files scope with
      | error e =>
        simp [Request.proceed, Registry.request, Registry.load, known, stored, free, read,
          ← fetch.provider, fetch]
      | ok source =>
        cases made : t.registry.engine.compile scope source with
        | error e =>
          simp [Request.proceed, Registry.request, Registry.load, known, stored, free, read, made,
            Registry.agrees_iff, ← fetch.provider, ← fetch.engine, ← fetch.loaded, ← fetch.compiles]
        | ok g =>
          simp [Request.proceed, Registry.request, Registry.load, known, stored, free, read, made,
            Registry.agrees_iff, ← fetch.provider, ← fetch.engine, ← fetch.loaded, ← fetch.compiles]

def answers : List String → List (Except GrammarError (Grammar σ)) → List (Request σ) :=
  List.zipWith fun language answer => ⟨language, .answered answer⟩

/-- Requests that are made one after the other get the answers of the registry in turn. -/
theorem requests_in_turn (settled : t.Settled) (files : FileTree) {r : Registry σ}
    (agrees : t.registry.Agrees r) (languages : List String) :
    ∃ events, asked events = languages ∧ Over files events ∧ (t.run events).Settled ∧
      (t.run events).requests = t.requests ++ answers languages (r.requestAll files languages).1 ∧
      (t.run events).registry.Agrees (r.requestAll files languages).2 := by
  induction languages generalizing t r with
  | nil => exact ⟨[], rfl, by simp [Over], settled, by simp [run, answers], agrees⟩
  | cons language languages ih =>
    obtain ⟨requests, leaves⟩ := request_alone settled files language
    obtain ⟨same, after⟩ := agrees.request files language
    have next := leaves.trans after
    have settled' : (t.run (.ask language ::
        List.replicate 3 (.proceed t.requests.length files))).Settled := by
      intro q inside
      rw [requests] at inside
      rcases List.mem_append.mp inside with before | last
      · exact settled q before
      · exact ⟨_, by rw [List.mem_singleton.mp last]⟩
    obtain ⟨events, languages', fixed, final, rest, registry⟩ := ih settled' next
    refine ⟨.ask language :: List.replicate 3 (.proceed t.requests.length files) ++ events,
      ?_, ?_, ?_⟩
    · simpa [asked] using languages'
    · intro i files' inside
      rcases List.mem_append.mp inside with first | later
      · simp at first
        exact first.2
      · exact fixed i files' later
    · rw [run, List.foldl_append]
      refine ⟨final, rest.trans ?_, registry⟩
      rw [requests, same, List.append_assoc]
      rfl

theorem Orderly.answers_in_turn (honest : engine.NamesFailures) (orderly : t.Orderly p engine)
    (settled : t.Settled) {events : List Event} (fixed : Over files events)
    (final : (t.run events).Settled) :
    let inTurn := t.registry.requestAll files (asked events)
    (t.run events).requests = t.requests ++ answers (asked events) inTurn.1 ∧
      (t.run events).registry.loaded = inTurn.2.loaded ∧
      (t.run events).registry.compiles = inTurn.2.compiles := by
  obtain ⟨events', languages, fixed', final', requests, agrees⟩ :=
    requests_in_turn settled files ⟨rfl, rfl, rfl, rfl⟩ (asked events)
  have since := (since_self t files).run honest settled orderly fixed
  have since' := (since_self t files).run honest settled orderly fixed'
  have same : (t.run events).requests = (t.run events').requests :=
    since.requests_eq since' final final' (by rw [run_languages, run_languages, languages])
  obtain ⟨loaded, compiles⟩ :=
    (orderly.run honest events).registry_eq (orderly.run honest events') same
  exact ⟨same.trans requests, loaded.trans agrees.loaded, compiles.trans agrees.compiles⟩

end Traffic

end EventXref
