import EventXref.FanOut

/-!
What tasks that take turns come to under every schedule. `Runs` leaves open which task is next; a run
with enough turns for all tasks is one of those that it admits. Two runs with one schedule go through
the same turns if their tasks go on alike.
-/
namespace EventXref

namespace FanOut

variable {κ α β ε S S' : Type} {advance : κ → S → Except ε (List (Slot κ α)) × S}

@[simp] theorem tasks_append (slots more : List (Slot κ α)) :
    tasks (slots ++ more) = tasks slots ++ tasks more := by
  fun_induction tasks slots <;> simp_all [tasks]

@[simp] theorem items_append (slots more : List (Slot κ α)) :
    items (slots ++ more) = items slots ++ items more := by
  fun_induction items slots <;> simp_all [items]

@[simp] theorem tasks_left (ts : List κ) : tasks (ts.map (Slot.left (α := α))) = ts := by
  induction ts with
  | nil => rfl
  | cons t ts ih => rw [List.map_cons, tasks, ih]

@[simp] theorem items_left (ts : List κ) : items (ts.map (Slot.left (α := α))) = [] := by
  induction ts with
  | nil => rfl
  | cons t ts ih => rw [List.map_cons, items, ih]

/-- Tasks that take turns in any order until one fails or none is left. -/
inductive Runs (advance : κ → S → Except ε (List (Slot κ α)) × S) :
    List (Slot κ α) → S → Except ε (List α) → S → Prop
  | ends {slots : List (Slot κ α)} (s : S) (nothing : tasks slots = []) :
      Runs advance slots s (.ok (items slots)) s
  | fails {before behind : List (Slot κ α)} {t : κ} {s s' : S} {x : ε}
      (failed : advance t s = (.error x, s')) :
      Runs advance (before ++ .left t :: behind) s (.error x) s'
  | turn {before new behind : List (Slot κ α)} {t : κ} {s s' s'' : S} {answer : Except ε (List α)}
      (took : advance t s = (.ok new, s'))
      (rest : Runs advance (before ++ (new ++ behind)) s' answer s'') :
      Runs advance (before ++ .left t :: behind) s answer s''

theorem pick_eq_some {n : Nat} {slots before behind : List (Slot κ α)} {t : κ}
    (picked : pick n slots = some (before, t, behind)) : slots = before ++ .left t :: behind := by
  fun_induction pick n slots generalizing before with
  | case1 => cases picked
  | case2 => cases picked; rfl
  | case3 n u slots ih | case4 n u slots ih =>
    obtain ⟨⟨before', t', behind'⟩, picked, same⟩ := Option.map_eq_some_iff.mp picked
    cases same
    rw [ih picked]
    rfl

theorem pick_of_lt {n : Nat} {slots : List (Slot κ α)} (inside : n < (tasks slots).length) :
    ∃ before t behind, pick n slots = some (before, t, behind) := by
  fun_induction pick n slots with
  | case1 => simp [tasks] at inside
  | case2 t slots => exact ⟨_, _, _, rfl⟩
  | case3 n u slots ih | case4 n a slots ih =>
    obtain ⟨before, t, behind, picked⟩ := ih (by simpa [tasks] using inside)
    exact ⟨_, _, _, by rw [picked]; rfl⟩

theorem pick_of_done {slots : List (Slot κ α)} (done : tasks slots = []) (n : Nat) :
    pick n slots = none := by
  cases picked : pick n slots with
  | none => rfl
  | some found =>
    obtain ⟨before, t, behind⟩ := found
    rw [pick_eq_some picked] at done
    simp [tasks] at done

/-- Every task stands for some work that each turn makes less of, so with as many turns nothing is
left. -/
theorem runs_run {I : S → Prop} {w : κ → List β} (work : ∀ t, w t ≠ [])
    (step : ∀ t s new s', I s → advance t s = (.ok new, s') →
      I s' ∧ ((tasks new).flatMap w).length < (w t).length)
    (turns : Nat) (schedule : Nat → List κ → Nat) {slots : List (Slot κ α)} {s : S} (here : I s)
    (enough : ((tasks slots).flatMap w).length ≤ turns) :
    Runs advance slots s (run advance turns schedule slots s).1
      (run advance turns schedule slots s).2 := by
  induction turns generalizing schedule slots s with
  | zero =>
    refine .ends s ?_
    cases left : tasks slots with
    | nil => rfl
    | cons t ts =>
      have some := List.length_pos_iff.mpr (work t)
      rw [left, List.flatMap_cons, List.length_append] at enough
      omega
  | succ turns ih =>
    unfold run
    cases left : tasks slots with
    | nil =>
      rw [pick_of_done left]
      exact .ends s left
    | cons t ts =>
      have inside : schedule 0 (tasks slots) % (tasks slots).length < (tasks slots).length :=
        Nat.mod_lt _ (by simp [left])
      obtain ⟨before, t, behind, picked⟩ := pick_of_lt inside
      rw [← left, picked]
      obtain rfl := pick_eq_some picked
      dsimp only
      cases went : advance t s with
      | mk answer s' =>
        cases answer with
        | error x => exact .fails went
        | ok new =>
          obtain ⟨here', lighter⟩ := step t s new s' here went
          refine .turn went (ih _ here' ?_)
          simp only [tasks_append, tasks, List.flatMap_append, List.flatMap_cons,
            List.length_append] at enough ⊢
          omega

/-- Runs with one schedule whose tasks go on alike. -/
theorem run_inStep {advance' : κ → S' → Except ε (List (Slot κ α)) × S'} {Q : S → S' → Prop}
    (step : ∀ t s s', Q s s' → (advance t s).1 = (advance' t s').1 ∧
      ∀ new, (advance t s).1 = .ok new → Q (advance t s).2 (advance' t s').2)
    (turns : Nat) (schedule : Nat → List κ → Nat) (slots : List (Slot κ α)) {s : S} {s' : S'}
    (related : Q s s') :
    (run advance turns schedule slots s).1 = (run advance' turns schedule slots s').1 ∧
      ∀ found, (run advance turns schedule slots s).1 = .ok found →
        Q (run advance turns schedule slots s).2 (run advance' turns schedule slots s').2 := by
  induction turns generalizing schedule slots s s' with
  | zero => exact ⟨rfl, fun _ _ => related⟩
  | succ turns ih =>
    unfold run
    split
    · exact ⟨rfl, fun _ _ => related⟩
    · rename_i before t behind _
      obtain ⟨same, later⟩ := step t s s' related
      generalize advance t s = went at same later
      generalize advance' t s' = went' at same later
      obtain ⟨answer, next⟩ := went
      obtain ⟨answer', next'⟩ := went'
      cases same
      cases answer with
      | error x => exact ⟨rfl, fun _ never => nomatch never⟩
      | ok new => exact ih _ _ (later new rfl)

end FanOut

namespace Job

variable {ε α : Type} {js : List (Job ε α)}

def outcome : Slot (Job ε α) (List α) → Except ε (List α)
  | .done items => .ok items
  | .left j => j.result

theorem map_outcome {slots : List (Slot (Job ε α) (List α))} (nothing : FanOut.tasks slots = []) :
    slots.map outcome = (FanOut.items slots).map .ok := by
  fun_induction FanOut.items slots with
  | case1 => rfl
  | case2 items slots ih => simp [outcome, ih nothing]
  | case3 j slots => cases nothing

theorem finish_eq {j : Job ε α} {s s' : Unit} {answer : Except ε (List (Slot (Job ε α) (List α)))}
    (finished : j.finish s = (answer, s')) :
    (∃ items, j.result = .ok items ∧ answer = .ok [.done items]) ∨
      ∃ x, j.result = .error x ∧ answer = .error x := by
  cases finished
  cases result : j.result with
  | ok items => exact .inl ⟨items, rfl, rfl⟩
  | error x => exact .inr ⟨x, rfl, rfl⟩

theorem runs_finish {slots : List (Slot (Job ε α) (List α))} {s s' : Unit}
    {answer : Except ε (List (List α))} (runs : FanOut.Runs finish slots s answer s') :
    (∀ found, answer = .ok found → slots.map outcome = found.map .ok) ∧
      ∀ x, answer = .error x → .error x ∈ slots.map outcome := by
  induction runs with
  | ends s nothing =>
    refine ⟨?_, fun _ never => nomatch never⟩
    rintro _ ⟨⟩
    exact map_outcome nothing
  | fails failed =>
    refine ⟨fun _ never => (nomatch never), ?_⟩
    rintro _ ⟨⟩
    obtain ⟨items, -, never⟩ | ⟨x, result, same⟩ := finish_eq failed
    · cases never
    · simp [outcome, result, Except.error.inj same]
  | turn took rest ih =>
    obtain ⟨items, result, same⟩ | ⟨x, -, never⟩ := finish_eq took
    · cases same
      simpa [outcome, result] using ih
    · cases never

/-- Jobs succeed together, with all items in order, or one of their failures is given. -/
theorem fanOut_spec (js : List (Job ε α)) :
    (∃ found : List (List α), js.map result = found.map .ok ∧ fanOut js = .ok found.flatten) ∨
      ∃ j ∈ js, ∃ x, j.result = .error x ∧ fanOut js = .error x := by
  have step : ∀ (j : Job ε α) s new s', True → j.finish s = (.ok new, s') →
      True ∧ ((FanOut.tasks new).flatMap fun j => [j]).length < [j].length := by
    intro j s new s' _ took
    obtain ⟨items, -, same⟩ | ⟨x, -, never⟩ := finish_eq took
    · cases same
      simp [FanOut.tasks]
    · cases never
  have enough : ((FanOut.tasks (js.map (.left (α := List α)))).flatMap fun j => [j]).length ≤
      js.length := by
    simp
  have runs := FanOut.runs_run (I := fun _ => True) (w := fun j => [j]) (by simp) step js.length
    (fun _ left => if js.length ≤ maxInTurn then earliest left else 0) (s := ()) trivial enough
  obtain ⟨all, one⟩ := runs_finish runs
  have outcomes : (js.map Slot.left).map outcome = js.map result := by simp [outcome]
  rw [outcomes] at all one
  rw [fanOut]
  generalize FanOut.run finish js.length _ _ _ = ran at all one
  obtain ⟨answer, _⟩ := ran
  cases answer with
  | ok found => exact .inl ⟨found, all found rfl, rfl⟩
  | error x =>
    obtain ⟨j, member, failed⟩ := List.mem_map.mp (one x rfl)
    exact .inr ⟨j, member, x, failed, rfl⟩

end Job

end EventXref
