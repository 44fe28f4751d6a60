import EventXref.Proofs.LoadOrder

namespace EventXref

namespace Traffic

variable {σ : Type} {t u : Traffic σ} {i j n : Nat} {q : Request σ} {scope : String}
  {g : Grammar σ} {p : Provider} {engine : Engine σ}

/-- A scope is loaded, and the requests for it that were made since then, from number `n` on, get
its grammar. -/
structure Served (scope : String) (g : Grammar σ) (n : Nat) (t : Traffic σ) : Prop where
  stored : t.registry.loaded[scope]? = some g
  later : ∀ (j : Nat) (q : Request σ), n ≤ j → t.requests[j]? = some q →
    t.registry.provider.scopeOf? q.language = some scope →
    q.stage = .waiting ∨ q.stage = .answered (.ok g)

theorem Served.step (orderly : t.Orderly p engine) (served : t.Served scope g n) (e : Event) :
    (t.step e).Served scope g n := by
  rcases t.step_cases e with ⟨language, -, asks⟩ | ⟨i, files, -, rests⟩ |
    ⟨i, files, q, stage, r, -, there, moves, goes⟩
  · rw [asks]
    refine ⟨served.stored, ?_⟩
    intro j q behind there known
    rcases getElem?_ask_cases there with before | ⟨-, rfl⟩
    · exact served.later j q behind before known
    · exact .inl rfl
  · rwa [rests]
  · rw [goes]
    refine ⟨orderly.kept there moves served.stored, ?_⟩
    intro j q' behind there' known
    rw [moves.fields.1] at known
    rcases getElem?_set_cases there' with ⟨rfl, rfl⟩ | ⟨-, before⟩
    · have old := served.later j q behind there known
      generalize q.stage = stage₀ at moves old
      have stored := served.stored
      -- only a request that waits can go on, and it finds the grammar
      cases moves with
      | unknown absent => rw [known] at absent; cases absent
      | shares s g' known' stored' =>
        cases known.symm.trans known'
        cases stored.symm.trans stored'
        exact .inr rfl
      | begins s known' free =>
        cases known.symm.trans known'
        rw [stored] at free
        cases free
      | misses | fetches | fails | loads => simp at old
    · exact served.later j q' behind before known

theorem Served.run (honest : engine.NamesFailures) (orderly : t.Orderly p engine)
    (served : t.Served scope g n) (events : List Event) : (t.run events).Served scope g n := by
  induction events generalizing t with
  | nil => exact served
  | cons e events ih => exact ih (orderly.step honest e) (served.step orderly e)

/-- A request for a scope that is loaded is answered when it goes on, whatever the files are. -/
theorem Served.proceed (served : t.Served scope g n) (behind : n ≤ j)
    (there : t.requests[j]? = some q)
    (known : t.registry.provider.scopeOf? q.language = some scope) (files : FileTree) :
    (t.step (.proceed j files)).requests[j]? = some ⟨q.language, .answered (.ok g)⟩ := by
  obtain ⟨inside, -⟩ := List.getElem?_eq_some_iff.mp there
  have goes : (q.proceed t.registry t.busy files).1 = .answered (.ok g) := by
    rcases served.later j q behind there known with waits | answered
    · simp [Request.proceed, waits, known, served.stored]
    · simp [Request.proceed, answered]
  rw [step_proceed there, goes, List.getElem?_set_self inside]

/-- `u` is `t` as it would be if request `i` had been made but had never gone on. -/
structure Without (i : Nat) (t u : Traffic σ) : Prop where
  provider : u.registry.provider = t.registry.provider
  engine : u.registry.engine = t.registry.engine
  loaded : u.registry.loaded = t.registry.loaded
  length : u.requests.length = t.requests.length
  others : ∀ j : Nat, j ≠ i → u.requests[j]? = t.requests[j]?
  still : ∀ q : Request σ, u.requests[i]? = some q → q.stage = .waiting

theorem Without.busy (without : Without i t u) (free : t.busy scope = false) :
    u.busy scope = false := by
  rw [Traffic.busy, List.any_eq_false] at free ⊢
  intro q inside
  obtain ⟨j, there⟩ := List.mem_iff_getElem?.mp inside
  by_cases same : j = i
  · subst same
    simp [Request.holds, without.still q there]
  · rw [without.others j same] at there
    exact free q (List.mem_of_getElem? there)

/-- What a step does is done without request `i` too, by the same step or by none, as long as the
step is not the one that makes request `i` succeed. -/
theorem Without.step (without : Without i t u) (e : Event)
    (fails : ∀ (q : Request σ) g, (t.step e).requests[i]? = some q → q.stage ≠ .answered (.ok g)) :
    Without i (t.step e) u ∨ (∀ files, e ≠ .proceed i files) ∧ Without i (t.step e) (u.step e) := by
  rcases t.step_cases e with ⟨language, rfl, asks⟩ | ⟨j, files, -, rests⟩ |
    ⟨j, files, q, stage, r, rfl, there, moves, goes⟩
  · refine .inr ⟨fun _ => Event.noConfusion, ?_⟩
    rw [asks]
    refine ⟨without.provider, without.engine, without.loaded, ?_, ?_, ?_⟩
    · simp [Traffic.step, without.length]
    · intro j other
      simp only [Traffic.step, List.getElem?_append, without.length, without.others j other]
    · intro q there
      rcases getElem?_ask_cases there with before | ⟨-, rfl⟩
      · exact without.still q before
      · rfl
  · rw [rests]
    exact .inl without
  · by_cases own : j = i
    · -- Request `i` itself: it does not succeed, so it loads nothing and `u` stays as it is.
      subst own
      refine .inl ?_
      rw [goes] at fails ⊢
      obtain ⟨inside, -⟩ := List.getElem?_eq_some_iff.mp there
      have same : r.loaded = t.registry.loaded := by
        rcases moves.loaded with same | ⟨s, source, g, -, rfl, -, -⟩
        · exact same
        · exact absurd rfl (fails _ g (List.getElem?_set_self inside))
      refine ⟨without.provider.trans moves.fields.1.symm, without.engine.trans moves.fields.2.symm,
        without.loaded.trans same.symm, by simp [without.length], ?_, without.still⟩
      intro k other
      rw [without.others k other, List.getElem?_set_ne other.symm]
    · have there' : u.requests[j]? = some q := (without.others j own).trans there
      obtain ⟨v, moves', loaded⟩ := moves.transfer u.busy without.provider
        without.engine without.loaded fun _ => without.busy
      have goes' : u.step (.proceed j files) = ⟨v, u.requests.set j ⟨q.language, stage⟩⟩ := by
        rw [step_proceed there', moves'.proceed_eq]
      refine .inr ⟨?_, ?_⟩
      · intro files' same
        cases same
        exact own rfl
      · rw [goes, goes']
        refine ⟨?_, ?_, loaded, by simp [without.length], ?_, ?_⟩
        · rw [moves'.fields.1, moves.fields.1, without.provider]
        · rw [moves'.fields.2, moves.fields.2, without.engine]
        · intro k other
          simp only [List.getElem?_set, without.length, without.others k other]
        · intro q' here
          rw [List.getElem?_set_ne own] at here
          exact without.still q' here

/-- A request that fails in the end could as well not have gone on: some of the steps of the others
lead to the same grammars and the same answers. -/
theorem Without.run {a : GrammarError} (without : Without i t u) (events : List Event)
    (there : (t.run events).requests[i]? = some q) (failed : q.stage = .answered (.error a)) :
    ∃ events', events'.Sublist events ∧ (∀ files, .proceed i files ∉ events') ∧
      Without i (t.run events) (u.run events') := by
  induction events generalizing t u with
  | nil => exact ⟨[], .refl _, by simp, without⟩
  | cons e events ih =>
    have fails : ∀ (q : Request σ) g, (t.step e).requests[i]? = some q →
        q.stage ≠ .answered (.ok g) := by
      intro q' g here succeeded
      have final := run_answered here succeeded events
      cases final.symm.trans there
      rw [succeeded] at failed
      cases failed
    rcases without.step e fails with dropped | ⟨other, kept⟩
    · obtain ⟨events', sub, apart, rest⟩ := ih dropped there
      exact ⟨events', sub.cons e, apart, rest⟩
    · obtain ⟨events', sub, apart, rest⟩ := ih kept there
      refine ⟨e :: events', sub.cons_cons e, ?_, rest⟩
      intro files inside
      rcases List.mem_cons.mp inside with own | later
      · exact other files own.symm
      · exact apart files later

theorem without_start : Without i (start p engine) (start p engine) :=
  ⟨rfl, rfl, rfl, rfl, fun _ _ => rfl, by simp [start]⟩

/-- Whatever is asked, in whatever order the requests go on and however the files change meanwhile:
after the first success of a scope, each new request for it gets the same grammar, whatever the
files are by then; a request that fails might as well not have gone on, since a part of the other
steps gives the same grammars and the same answers; the scopes with a success are the loaded ones;
and the compilations are these and the failures to compile. Every request can get its answer, and over files
that stay as they are it is the one that the registry gives to one request after the other. -/
theorem one_load_per_scope (p : Provider) (events : List Event) :
    let t := (start p markerEngine).run events
    (∀ (i : Nat) (q : Request GrammarState) scope g, t.requests[i]? = some q →
      q.stage = .answered (.ok g) → p.scopeOf? q.language = some scope →
      ∀ (later : List Event) (j : Nat) (q' : Request GrammarState), t.requests.length ≤ j →
        (t.run later).requests[j]? = some q' → p.scopeOf? q'.language = some scope →
        (q'.stage = .waiting ∨ q'.stage = .answered (.ok g)) ∧
        ∀ files, ((t.run later).step (.proceed j files)).requests[j]? =
          some ⟨q'.language, .answered (.ok g)⟩) ∧
    (∀ (i : Nat) (q : Request GrammarState) e, t.requests[i]? = some q →
      q.stage = .answered (.error e) →
      ∃ events', events'.Sublist events ∧ (∀ files, .proceed i files ∉ events') ∧
        ((start p markerEngine).run events').registry.loaded = t.registry.loaded ∧
        ∀ j : Nat, j ≠ i →
          ((start p markerEngine).run events').requests[j]? = t.requests[j]?) ∧
    t.registry.loadedCount = t.successes.dedup.length ∧
    t.registry.compiles = t.registry.loadedCount + t.requests.countP Request.failsToCompile ∧
    (∀ files, ∃ order : List Nat, (t.run (order.map (.proceed · files))).Settled) ∧
    ∀ files more, t.Settled → Over files more → (t.run more).Settled →
      let inTurn := t.registry.requestAll files (asked more)
      (t.run more).requests = t.requests ++ answers (asked more) inTurn.1 ∧
        (t.run more).registry.loaded = inTurn.2.loaded ∧
        (t.run more).registry.compiles = inTurn.2.compiles := by
  intro t
  have honest := markerEngine_namesFailures
  have orderly : t.Orderly p markerEngine := orderly_start.run honest events
  refine ⟨?_, ?_, orderly.loadedCount, orderly.compiles, t.exists_settled, ?_⟩
  · intro i q scope g there succeeded known later j q' behind there' known'
    obtain ⟨s, known'', stored⟩ := orderly.answer i q g there succeeded
    cases known.symm.trans known''
    have served : t.Served scope g t.requests.length := by
      refine ⟨stored, fun k q'' behind here => ?_⟩
      rw [List.getElem?_eq_none behind] at here
      cases here
    have final := served.run honest orderly later
    rw [← (orderly.run honest later).provider] at known'
    exact ⟨final.later j q' behind there' known', final.proceed behind there' known'⟩
  · intro i q e there failed
    obtain ⟨events', sub, apart, without⟩ := without_start.run events there failed
    exact ⟨events', sub, apart, without.loaded, without.others⟩
  · intro files more settled fixed final
    exact orderly.answers_in_turn honest settled fixed final

/-- Two languages with one grammar, which comes from a file. -/
def sharedFile : Provider :=
  ⟨[⟨"lua", [], "source.lua", .file "/lua"⟩, ⟨"luau", [], "source.lua", .file "/lua"⟩], 0⟩

/-- The first request finds no file; then the file is written, and the second one loads it. -/
def failsThenLoads : List Event :=
  let written := .folder [("lua", .file "line_comment=--")]
  [.ask "lua", .ask "luau", .proceed 0 (.folder []), .proceed 0 (.folder []),
    .proceed 1 written, .proceed 1 written, .proceed 1 written]

theorem one_load_per_scope_sharedFile :
    let t := (start sharedFile markerEngine).run failsThenLoads
    ∃ g, t.requests[1]? = some ⟨"luau", .answered (.ok g)⟩ ∧
      ∀ files, ((t.run [.ask "lua"]).step (.proceed 2 files)).requests[2]? =
        some ⟨"lua", .answered (.ok g)⟩ := by
  intro t
  have answered : (t.requests[1]?.bind Request.grammar?).isSome = true := by decide +kernel
  have languages : t.requests.map Request.language = ["lua", "luau"] := by decide +kernel
  have asked : t.requests.length = 2 := by simpa using congrArg List.length languages
  obtain ⟨g, got⟩ := Option.isSome_iff_exists.mp answered
  obtain ⟨⟨language, stage⟩, there, got⟩ := Option.bind_eq_some_iff.mp got
  cases Request.grammar?_eq_some.mp got
  have same : language = "luau" := by
    have here := congrArg (·[1]?) languages
    simpa [there] using here
  subst same
  have known : ∀ language ∈ ["lua", "luau"],
      sharedFile.scopeOf? language = some "source.lua" := by decide +kernel
  have waits : (t.run [.ask "lua"]).requests[2]? = some ⟨"lua", .waiting⟩ := by
    rw [run, List.foldl_cons, List.foldl_nil, step, ← asked, List.getElem?_concat_length]
  refine ⟨g, there, fun files => ?_⟩
  exact ((one_load_per_scope sharedFile failsThenLoads).1 1 _ "source.lua" g there rfl
    (known _ (by simp)) [.ask "lua"] 2 _ (Nat.le_of_eq asked) waits (known _ (by simp))).2 files

end Traffic

end EventXref
