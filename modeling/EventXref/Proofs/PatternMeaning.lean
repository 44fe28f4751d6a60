import EventXref.Proofs.FirstMatch

/-!
What patterns mean. A pattern reads a text from one place to another and notes where its groups
begin and end. The steps of a pattern's program lead exactly along these readings: from the first
step to the one behind the pattern. Repetitions of any kind come down to a number of rounds.
-/
namespace EventXref

/-- A way to get from one place to another, with the notes that are made, the latest first. -/
abbrev Reading := Cursor → List (Nat × Nat) → Cursor → Prop

namespace Reading

variable {R S T : Reading}

/-- Staying at a place that meets a condition. -/
def stay (holds : Cursor → Prop) : Reading := fun a marks b => holds a ∧ b = a ∧ marks = []

def takes (class' : Char → Prop) : Reading := fun a marks b =>
  ∃ c rest, a.rest = c :: rest ∧ class' c ∧ b = a.past c rest ∧ marks = []

def comp (R S : Reading) : Reading := fun a marks b =>
  ∃ q first second, R a first q ∧ S q second b ∧ marks = second ++ first

def rounds (R : Reading) : Nat → Reading
  | 0 => stay fun _ => True
  | n + 1 => comp R (rounds R n)

/-- A text, character by character. -/
def spells : List Char → Reading
  | [] => stay fun _ => True
  | c :: cs => comp (takes (· = c)) (spells cs)

theorem stay_comp (R : Reading) : comp (stay fun _ => True) R = R := by
  funext a marks b
  refine propext ⟨?_, fun reads => ⟨a, [], marks, ⟨trivial, rfl, rfl⟩, reads, by simp⟩⟩
  rintro ⟨q, first, second, ⟨-, rfl, rfl⟩, reads, rfl⟩
  simpa using reads

theorem comp_stay (R : Reading) : comp R (stay fun _ => True) = R := by
  funext a marks b
  refine propext ⟨?_, fun reads => ⟨b, marks, [], reads, ⟨trivial, rfl, rfl⟩, by simp⟩⟩
  rintro ⟨q, first, second, reads, ⟨-, rfl, rfl⟩, rfl⟩
  simpa using reads

theorem comp_assoc (R S T : Reading) : comp (comp R S) T = comp R (comp S T) := by
  funext a marks b
  apply propext
  constructor
  · rintro ⟨q, first, third, ⟨r, one, two, here, there, rfl⟩, last, rfl⟩
    exact ⟨r, one, third ++ two, here, ⟨q, two, third, there, last, rfl⟩, by simp⟩
  · rintro ⟨r, one, later, here, ⟨q, two, third, there, last, rfl⟩, rfl⟩
    exact ⟨q, two ++ one, third, ⟨r, one, two, here, there, rfl⟩, last, by simp⟩

theorem rounds_add (R : Reading) (m n : Nat) : rounds R (m + n) = comp (rounds R m) (rounds R n) := by
  induction m with
  | zero => rw [Nat.zero_add, rounds, stay_comp]
  | succ m ih => rw [Nat.succ_add, rounds, rounds, ih, comp_assoc]

theorem rounds_one (R : Reading) : rounds R 1 = R := by
  rw [rounds, rounds, comp_stay]

end Reading

namespace Regex

open Reading in
/-- How a pattern reads a text. -/
def reading : Regex → Reading
  | .empty => stay fun _ => True
  | .literal cs => spells cs
  | .set _ s => takes fun c => s.contains c = true
  | .anchor k => stay fun a => k.holds a = true
  | .seq r s => comp r.reading s.reading
  | .alt r s => fun a marks b => r.reading a marks b ∨ s.reading a marks b
  | .rep r least most _ => fun a marks b => ∃ n, least ≤ n ∧ (∀ m ∈ most, n ≤ max least m) ∧
      rounds r.reading n a marks b
  | .group i r => fun a marks b => ∃ inner, r.reading a inner b ∧
      marks = (Program.closeSlot i, b.offset) :: inner ++ [(Program.openSlot i, a.offset)]
  | .ahead holds r => stay fun a => (∃ marks b, r.reading a marks b) ↔ holds = true

end Regex

namespace Program

open Reading

variable {p : Program} {ahead : Nat → Cursor → Bool} {R S : Reading} {entry mid next i j : Nat}
  {step : Step} {place q : Cursor} {n s : Nat} {noted marks : List (Nat × Nat)}

/-- The ways from one step are the readings from it up to another one, and go on from there. -/
structure Enters (p : Program) (ahead : Nat → Cursor → Bool) (R : Reading) (entry next : Nat) :
    Prop where
  sound : ∀ n s noted a q marks, p.Way ahead n ⟨entry, s, noted⟩ a q marks →
    ∃ b new k, R a new b ∧ k ≤ n ∧ p.Way ahead k ⟨next, s, new ++ noted⟩ b q marks
  complete : ∀ s noted a b new q marks k, R a new b →
    p.Way ahead k ⟨next, s, new ++ noted⟩ b q marks →
    ∃ n, p.Way ahead n ⟨entry, s, noted⟩ a q marks

theorem Enters.refl (p : Program) (ahead : Nat → Cursor → Bool) (i : Nat) :
    p.Enters ahead (stay fun _ => True) i i := by
  constructor
  · intro n s noted a q marks way
    exact ⟨a, [], n, ⟨trivial, rfl, rfl⟩, Nat.le_refl n, way⟩
  · rintro s noted a b new q marks k ⟨-, rfl, rfl⟩ way
    exact ⟨k, way⟩

theorem Enters.comp (first : p.Enters ahead R entry mid) (second : p.Enters ahead S mid next) :
    p.Enters ahead (comp R S) entry next := by
  constructor
  · intro n s noted a q marks way
    obtain ⟨b, one, k, reads, le, way⟩ := first.sound n s noted a q marks way
    obtain ⟨c, two, l, reads', le', way⟩ := second.sound k s _ b q marks way
    refine ⟨c, two ++ one, l, ⟨b, one, two, reads, reads', rfl⟩, Nat.le_trans le' le, ?_⟩
    simpa using way
  · rintro s noted a c new q marks k ⟨b, one, two, reads, reads', rfl⟩ way
    rw [List.append_assoc] at way
    obtain ⟨l, way⟩ := second.complete s _ b c two q marks k reads' way
    exact first.complete s noted a b one q marks l reads way

/-- The first step of a way from a thread that stands before a given step. -/
theorem Way.first (way : p.Way ahead n ⟨i, s, noted⟩ place q marks)
    (here : p.steps[i]? = some step) (going : step ≠ .done) :
    (∃ k t, n = k + 1 ∧ t ∈ p.onward ahead place ⟨i, s, noted⟩ ∧ p.Way ahead k t place q marks) ∨
      ∃ k c rest t, n = k + 1 ∧ place.rest = c :: rest ∧ p.taken? ⟨i, s, noted⟩ c = some t ∧
        p.Way ahead k t (place.past c rest) q marks := by
  cases way with
  | done ended =>
    rw [isDone, here] at ended
    exact absurd (by simpa using ended) going
  | pass member way => exact .inl ⟨_, _, rfl, member, way⟩
  | take next taken way => exact .inr ⟨_, _, _, _, rfl, next, taken, way⟩

theorem enters_char {c : Char} (here : p.steps[i]? = some (.char c next)) :
    p.Enters ahead (takes (· = c)) i next := by
  constructor
  · intro n s noted a q marks way
    rcases way.first here (by simp) with ⟨k, t, -, member, -⟩ | ⟨k, d, rest, t, rfl, ahead, taken, way⟩
    · simp [onward, here] at member
    · simp only [taken?, here] at taken
      split at taken
      next same =>
        cases taken
        exact ⟨_, [], k, ⟨d, rest, ahead, same, rfl, rfl⟩, Nat.le_succ k, way⟩
      next => cases taken
  · rintro s noted a b new q marks k ⟨d, rest, ahead, rfl, rfl, rfl⟩ way
    exact ⟨k + 1, .take ahead (by simp [taken?, here]) way⟩

theorem enters_oneOf {set : CharSet} (here : p.steps[i]? = some (.oneOf set next)) :
    p.Enters ahead (takes fun c => set.contains c = true) i next := by
  constructor
  · intro n s noted a q marks way
    rcases way.first here (by simp) with ⟨k, t, -, member, -⟩ | ⟨k, d, rest, t, rfl, ahead, taken, way⟩
    · simp [onward, here] at member
    · simp only [taken?, here] at taken
      split at taken
      next has =>
        cases taken
        exact ⟨_, [], k, ⟨d, rest, ahead, has, rfl, rfl⟩, Nat.le_succ k, way⟩
      next => cases taken
  · rintro s noted a b new q marks k ⟨d, rest, ahead, has, rfl, rfl⟩ way
    exact ⟨k + 1, .take ahead (by simp [taken?, here, has]) way⟩

/-- A step that takes no character goes on to others at the same place. -/
theorem enters_onward (here : p.steps[i]? = some step) (going : step ≠ .done)
    (untaken : ∀ s noted c, p.taken? ⟨i, s, noted⟩ c = none)
    (onward : ∀ s noted a t, t ∈ p.onward ahead a ⟨i, s, noted⟩ ↔
      ∃ new, R a new a ∧ t = ⟨next, s, new ++ noted⟩)
    (stays : ∀ a new b, R a new b → b = a) : p.Enters ahead R i next := by
  constructor
  · intro n s noted a q marks way
    rcases way.first here going with ⟨k, t, rfl, member, way⟩ | ⟨k, d, rest, t, -, -, taken, -⟩
    · obtain ⟨new, reads, rfl⟩ := (onward s noted a t).mp member
      exact ⟨a, new, k, reads, Nat.le_succ k, way⟩
    · rw [untaken] at taken
      cases taken
  · intro s noted a b new q marks k reads way
    have same := stays a new b reads
    subst same
    exact ⟨k + 1, .pass ((onward s noted _ _).mpr ⟨new, reads, rfl⟩) way⟩

theorem enters_check {k : Anchor} (here : p.steps[i]? = some (.check k next)) :
    p.Enters ahead (stay fun a => k.holds a = true) i next := by
  refine enters_onward here (by simp) (by simp [taken?, here]) ?_ (fun a new b reads => reads.2.1)
  intro s noted a t
  by_cases holds : k.holds a = true <;> simp [onward, here, stay, holds]

theorem enters_mark {slot : Nat} (here : p.steps[i]? = some (.mark slot next)) :
    p.Enters ahead (fun a marks b => b = a ∧ marks = [(slot, a.offset)]) i next := by
  refine enters_onward here (by simp) (by simp [taken?, here]) ?_ (fun a new b reads => reads.1)
  intro s noted a t
  simp [onward, here]

theorem enters_ahead {holds : Bool} {inner : Nat} (here : p.steps[i]? = some (.ahead holds inner next)) :
    p.Enters ahead (stay fun a => ahead inner a = true ↔ holds = true) i next := by
  refine enters_onward here (by simp) (by simp [taken?, here]) ?_ (fun a new b reads => reads.2.1)
  intro s noted a t
  by_cases same : ahead inner a = holds
  · simp [onward, here, stay, same]
  · have differ : ¬ (ahead inner a = true ↔ holds = true) := by
      rwa [← Bool.eq_iff_iff]
    simp [onward, here, stay, same, differ]

theorem way_fork {first second : Nat} (here : p.steps[i]? = some (.fork first second)) :
    p.Way ahead n ⟨i, s, noted⟩ place q marks ↔ ∃ k, n = k + 1 ∧
      (p.Way ahead k ⟨first, s, noted⟩ place q marks ∨
        p.Way ahead k ⟨second, s, noted⟩ place q marks) := by
  have onward : p.onward ahead place ⟨i, s, noted⟩ = [⟨first, s, noted⟩, ⟨second, s, noted⟩] := by
    simp [onward, here]
  constructor
  · intro way
    rcases way.first here (by simp) with ⟨k, t, rfl, member, way⟩ | ⟨k, d, rest, t, -, -, taken, -⟩
    · simp only [onward, List.mem_cons, List.not_mem_nil, or_false] at member
      rcases member with rfl | rfl
      · exact ⟨k, rfl, .inl way⟩
      · exact ⟨k, rfl, .inr way⟩
    · simp [taken?, here] at taken
  · rintro ⟨k, rfl, way | way⟩
    · exact .pass (by simp [onward]) way
    · exact .pass (by simp [onward]) way

theorem way_branch {greedy : Bool} {round exit : Nat}
    (here : p.steps[i]? = some (branch greedy round exit)) :
    p.Way ahead n ⟨i, s, noted⟩ place q marks ↔ ∃ k, n = k + 1 ∧
      (p.Way ahead k ⟨round, s, noted⟩ place q marks ∨
        p.Way ahead k ⟨exit, s, noted⟩ place q marks) := by
  cases greedy with
  | true => exact way_fork here
  | false => simp only [way_fork here, or_comm]

theorem enters_branch {greedy : Bool} {round exit : Nat}
    (here : p.steps[i]? = some (branch greedy round exit)) (left : p.Enters ahead R round next)
    (right : p.Enters ahead S exit next) :
    p.Enters ahead (fun a marks b => R a marks b ∨ S a marks b) i next := by
  constructor
  · intro n s noted a q marks way
    obtain ⟨k, rfl, way | way⟩ := (way_branch here).mp way
    · obtain ⟨b, new, l, reads, le, way⟩ := left.sound k s noted a q marks way
      exact ⟨b, new, l, .inl reads, Nat.le_succ_of_le le, way⟩
    · obtain ⟨b, new, l, reads, le, way⟩ := right.sound k s noted a q marks way
      exact ⟨b, new, l, .inr reads, Nat.le_succ_of_le le, way⟩
  · rintro s noted a b new q marks k (reads | reads) way
    · obtain ⟨n, way⟩ := left.complete s noted a b new q marks k reads way
      exact ⟨n + 1, (way_branch here).mpr ⟨n, rfl, .inl way⟩⟩
    · obtain ⟨n, way⟩ := right.complete s noted a b new q marks k reads way
      exact ⟨n + 1, (way_branch here).mpr ⟨n, rfl, .inr way⟩⟩

/-- A fork that leads into a pattern and from there back to itself reads any number of rounds. -/
theorem enters_loop {greedy : Bool} {round exit : Nat}
    (here : p.steps[i]? = some (branch greedy round exit)) (body : p.Enters ahead R round i) :
    p.Enters ahead (fun a marks b => ∃ n, rounds R n a marks b) i exit := by
  constructor
  · intro n s noted a q marks way
    -- every round takes at least the fork, so the rest of the way is shorter
    induction n using Nat.strongRecOn generalizing noted a with
    | _ n ih =>
      obtain ⟨k, rfl, way | way⟩ := (way_branch here).mp way
      · obtain ⟨b, one, l, reads, le, way⟩ := body.sound k s noted a q marks way
        obtain ⟨c, more, j, ⟨m, again⟩, le', way⟩ := ih l (by omega) _ b way
        refine ⟨c, more ++ one, j, ⟨m + 1, b, one, more, reads, again, rfl⟩, by omega, ?_⟩
        simpa using way
      · exact ⟨a, [], k, ⟨0, trivial, rfl, rfl⟩, Nat.le_succ k, way⟩
  · rintro s noted a b new q marks k ⟨m, reads⟩ way
    induction m generalizing noted a new with
    | zero =>
      obtain ⟨-, rfl, rfl⟩ := reads
      exact ⟨k + 1, (way_branch here).mpr ⟨k, rfl, .inr way⟩⟩
    | succ m ih =>
      obtain ⟨c, one, more, reads, again, rfl⟩ := reads
      rw [List.append_assoc] at way
      obtain ⟨l, way⟩ := ih _ c more again way
      obtain ⟨n, way⟩ := body.complete s noted a c one q marks l reads way
      exact ⟨n + 1, (way_branch here).mpr ⟨n, rfl, .inl way⟩⟩

/-- From some number on the steps of a program are these. -/
def Contains (p : Program) (low : Nat) (out : Array Step) : Prop :=
  ∀ i step, low ≤ i → out[i]? = some step → p.steps[i]? = some step

/-- Steps are added behind others, and in a program that contains them they lead along the reading. -/
structure Emits (p : Program) (ahead : Nat → Cursor → Bool) (R : Reading) (one : Emit) : Prop where
  grows : ∀ next steps, steps.size ≤ (one next steps).2.size
  keeps : ∀ next steps i, i < steps.size → (one next steps).2[i]? = steps[i]?
  enters : ∀ next steps, p.Contains steps.size (one next steps).2 →
    p.Enters ahead R (one next steps).1 next

theorem Contains.later {low low' : Nat} {out : Array Step} (contains : p.Contains low out)
    (le : low ≤ low') : p.Contains low' out :=
  fun i step above here => contains i step (Nat.le_trans le above) here

/-- What is emitted first is still there when more has been emitted. -/
theorem Emits.contains_first {one : Emit} {low : Nat} {steps : Array Step}
    (emits : p.Emits ahead R one) (contains : p.Contains low (one next steps).2) :
    p.Contains low steps := by
  intro i step above here
  obtain ⟨inside, -⟩ := Array.getElem?_eq_some_iff.mp here
  exact contains i step above ((emits.keeps next steps i inside).trans here)

theorem contains_pushed {low : Nat} {steps : Array Step} (contains : p.Contains low (steps.push step))
    (le : low ≤ steps.size) : p.steps[steps.size]? = some step ∧ p.Contains low steps := by
  refine ⟨contains steps.size step le (by simp), fun i step' above here => ?_⟩
  obtain ⟨inside, -⟩ := Array.getElem?_eq_some_iff.mp here
  exact contains i step' above (by rw [Array.getElem?_push_lt inside, ← here, Array.getElem?_eq_getElem inside])

theorem emits_step (step : Nat → Step)
    (enters : ∀ i next, p.steps[i]? = some (step next) → p.Enters ahead R i next) :
    p.Emits ahead R (emitStep step) := by
  constructor
  · intro next steps
    simp [emitStep]
  · intro next steps i inside
    simp [emitStep, Array.getElem?_push_lt inside, Array.getElem?_eq_getElem inside]
  · intro next steps contains
    exact enters _ next (contains_pushed contains (Nat.le_refl _)).1

theorem emits_nothing : p.Emits ahead (stay fun _ => True) fun next steps => (next, steps) :=
  ⟨fun _ _ => Nat.le_refl _, fun _ _ _ _ => rfl, fun next _ _ => .refl p ahead next⟩

/-- What comes first is emitted last. -/
theorem Emits.comp {first second : Emit} (left : p.Emits ahead R first)
    (right : p.Emits ahead S second) :
    p.Emits ahead (comp R S) fun next steps =>
      first (second next steps).1 (second next steps).2 := by
  constructor
  · intro next steps
    exact Nat.le_trans (right.grows next steps) (left.grows _ _)
  · intro next steps i inside
    rw [left.keeps _ _ i (Nat.lt_of_lt_of_le inside (right.grows next steps)),
      right.keeps next steps i inside]
  · intro next steps contains
    have front := left.enters _ _ (contains.later (right.grows next steps))
    exact front.comp (right.enters next steps (left.contains_first contains))

theorem Emits.congr {one : Emit} (emits : p.Emits ahead R one)
    (same : ∀ a marks b, R a marks b ↔ S a marks b) : p.Emits ahead S one := by
  have eq : R = S := by
    funext a marks b
    exact propext (same a marks b)
  exact eq ▸ emits

theorem emits_literal (cs : List Char) : p.Emits ahead (spells cs) (emitLiteral cs) := by
  induction cs with
  | nil => exact emits_nothing
  | cons c cs ih =>
    have eq : emitLiteral (c :: cs) = fun next steps =>
        emitStep (.char c) (emitLiteral cs next steps).1 (emitLiteral cs next steps).2 := by
      funext next steps
      simp [emitLiteral]
    rw [eq]
    exact (emits_step (.char c) fun i next here => enters_char here).comp ih

theorem Emits.copies {one : Emit} (emits : p.Emits ahead R one) (n : Nat) :
    p.Emits ahead (rounds R n) (emitCopies one n) := by
  induction n with
  | zero => exact emits_nothing
  | succ n ih =>
    rw [rounds_add, rounds_one]
    exact ih.comp emits

def upTo (R : Reading) (most : Nat) : Reading := fun a marks b => ∃ n, n ≤ most ∧ rounds R n a marks b

theorem upTo_zero (R : Reading) : upTo R 0 = stay fun _ => True := by
  funext a marks b
  simp [upTo, rounds]

theorem upTo_succ (R : Reading) (most : Nat) (a : Cursor) (marks : List (Nat × Nat)) (b : Cursor) :
    (Reading.comp R (upTo R most) a marks b ∨ stay (fun _ => True) a marks b) ↔
      upTo R (most + 1) a marks b := by
  constructor
  · rintro (⟨q, first, second, reads, ⟨n, le, more⟩, rfl⟩ | stays)
    · exact ⟨n + 1, by omega, q, first, second, reads, more, rfl⟩
    · exact ⟨0, by omega, stays⟩
  · rintro ⟨n, le, reads⟩
    cases n with
    | zero => exact .inr reads
    | succ n =>
      obtain ⟨q, first, second, reads, more, rfl⟩ := reads
      exact .inl ⟨q, first, second, reads, ⟨n, by omega, more⟩, rfl⟩

/-- Each further copy stands in front of a fork that may leave out all that was emitted before. -/
theorem Emits.optional {one : Emit} (emits : p.Emits ahead R one) (greedy : Bool)
    (exit n most next : Nat) (steps : Array Step) :
    steps.size ≤ (emitOptional one greedy exit n next steps).2.size ∧
    (∀ i, i < steps.size → (emitOptional one greedy exit n next steps).2[i]? = steps[i]?) ∧
    (p.Contains steps.size (emitOptional one greedy exit n next steps).2 →
      p.Enters ahead (upTo R most) next exit →
      p.Enters ahead (upTo R (most + n)) (emitOptional one greedy exit n next steps).1 exit) := by
  induction n generalizing most next steps with
  | zero => exact ⟨Nat.le_refl _, fun _ _ => rfl, fun _ enters => enters⟩
  | succ n ih =>
    let out := (one next steps).2
    let fork := branch greedy (one next steps).1 exit
    obtain ⟨grows, keeps, enters⟩ := ih (most + 1) out.size (out.push fork)
    have size : steps.size ≤ out.size := emits.grows next steps
    rw [Array.size_push] at grows keeps
    refine ⟨Nat.le_trans size (Nat.le_of_succ_le grows), fun i inside => ?_,
      fun contains first => ?_⟩
    · have inside' : i < out.size := Nat.lt_of_lt_of_le inside size
      calc (emitOptional one greedy exit n out.size (out.push fork)).2[i]?
          = (out.push fork)[i]? := keeps i (by omega)
        _ = out[i]? := by rw [Array.getElem?_push_lt inside', Array.getElem?_eq_getElem inside']
        _ = steps[i]? := emits.keeps next steps i inside
    · have pushed : p.Contains steps.size (out.push fork) := by
        intro i step above here
        obtain ⟨inside, -⟩ := Array.getElem?_eq_some_iff.mp here
        rw [Array.size_push] at inside
        exact contains i step above ((keeps i inside).trans here)
      obtain ⟨here, body⟩ := contains_pushed pushed size
      have round := (emits.enters next steps body).comp first
      have both := enters_branch here round (.refl p ahead exit)
      have more : p.Enters ahead (upTo R (most + 1)) out.size exit := by
        have eq : upTo R (most + 1) = fun a marks b =>
            Reading.comp R (upTo R most) a marks b ∨ stay (fun _ => True) a marks b := by
          funext a marks b
          exact propext (upTo_succ R most a marks b).symm
        exact eq ▸ both
      have result := enters (contains.later (by rw [Array.size_push]; omega)) more
      rwa [Nat.add_right_comm, Nat.add_assoc] at result

/-- The fork behind a pattern that leads back into it. -/
theorem Emits.again {one : Emit} (emits : p.Emits ahead R one) (greedy : Bool) (next : Nat)
    (steps : Array Step) :
    let r := one steps.size (steps.push .done)
    let out := r.2.setIfInBounds steps.size (branch greedy r.1 next)
    steps.size ≤ out.size ∧ (∀ i, i < steps.size → out[i]? = steps[i]?) ∧
      (p.Contains steps.size out → p.Enters ahead R r.1 steps.size ∧
        p.Enters ahead (fun a marks b => ∃ n, rounds R n a marks b) steps.size next) := by
  intro r out
  have grows : steps.size + 1 ≤ r.2.size := by
    have := emits.grows steps.size (steps.push .done)
    rwa [Array.size_push] at this
  refine ⟨by simp only [out, Array.size_setIfInBounds]; omega, fun i inside => ?_, fun contains => ?_⟩
  · rw [Array.getElem?_setIfInBounds_ne (by omega),
      emits.keeps steps.size _ i (by rw [Array.size_push]; omega),
      Array.getElem?_push_lt inside, Array.getElem?_eq_getElem inside]
  · have here : p.steps[steps.size]? = some (branch greedy r.1 next) := by
      refine contains _ _ (Nat.le_refl _) ?_
      simp only [out, Array.getElem?_setIfInBounds, if_true]
      rw [if_pos (by omega)]
    have body : p.Enters ahead R r.1 steps.size := by
      refine emits.enters steps.size (steps.push .done) fun i step above there => ?_
      rw [Array.size_push] at above
      refine contains i step (by omega) ?_
      rwa [Array.getElem?_setIfInBounds_ne (by omega)]
    exact ⟨body, enters_loop here body⟩

theorem Emits.loop {one : Emit} (emits : p.Emits ahead R one) (greedy : Bool) :
    p.Emits ahead (fun a marks b => ∃ n, rounds R n a marks b) (emitLoop one greedy) :=
  ⟨fun next steps => (emits.again greedy next steps).1,
    fun next steps => (emits.again greedy next steps).2.1,
    fun next steps contains => ((emits.again greedy next steps).2.2 contains).2⟩

theorem some_rounds (a : Cursor) (marks : List (Nat × Nat)) (b : Cursor) :
    Reading.comp R (fun a marks b => ∃ n, rounds R n a marks b) a marks b ↔
      ∃ n, 1 ≤ n ∧ rounds R n a marks b := by
  constructor
  · rintro ⟨q, first, second, reads, ⟨n, more⟩, rfl⟩
    exact ⟨n + 1, by omega, q, first, second, reads, more, rfl⟩
  · rintro ⟨n, low, reads⟩
    obtain ⟨n, rfl⟩ := Nat.exists_eq_add_of_le' low
    obtain ⟨q, first, second, reads, more, rfl⟩ := reads
    exact ⟨q, first, second, reads, ⟨n, more⟩, rfl⟩

theorem Emits.oneOrMore {one : Emit} (emits : p.Emits ahead R one) (greedy : Bool) :
    p.Emits ahead (fun a marks b => ∃ n, 1 ≤ n ∧ rounds R n a marks b) (emitSome one greedy) := by
  have looped : p.Emits ahead (Reading.comp R fun a marks b => ∃ n, rounds R n a marks b)
      (emitSome one greedy) := by
    refine ⟨fun next steps => (emits.again greedy next steps).1,
      fun next steps => (emits.again greedy next steps).2.1, fun next steps contains => ?_⟩
    obtain ⟨body, loop⟩ := (emits.again greedy next steps).2.2 contains
    exact body.comp loop
  exact looped.congr some_rounds

theorem Emits.any {one : Emit} (emits : p.Emits ahead R one) (greedy : Bool) :
    p.Emits ahead (fun a marks b => ∃ n, rounds R n a marks b) (emitAny one greedy) := by
  have once := emits.oneOrMore greedy
  have both : p.Emits ahead (fun a marks b => (∃ n, 1 ≤ n ∧ rounds R n a marks b) ∨
      stay (fun _ => True) a marks b) (emitAny one greedy) := by
    constructor
    · intro next steps
      simp only [emitAny, Array.size_push]
      exact Nat.le_succ_of_le (once.grows next steps)
    · intro next steps i inside
      have inside' := Nat.lt_of_lt_of_le inside (once.grows next steps)
      simp only [emitAny]
      rw [Array.getElem?_push_lt inside', ← Array.getElem?_eq_getElem inside']
      exact once.keeps next steps i inside
    · intro next steps contains
      obtain ⟨here, body⟩ := contains_pushed contains (once.grows next steps)
      exact enters_branch here (once.enters next steps body) (.refl p ahead next)
  refine both.congr fun a marks b => ?_
  constructor
  · rintro (⟨n, -, reads⟩ | stays)
    · exact ⟨n, reads⟩
    · exact ⟨0, stays⟩
  · rintro ⟨n, reads⟩
    cases n with
    | zero => exact .inr reads
    | succ n => exact .inl ⟨n + 1, by omega, reads⟩

theorem comp_rounds (n : Nat) (P : Nat → Prop) (a : Cursor) (marks : List (Nat × Nat)) (b : Cursor) :
    Reading.comp (rounds R n) (fun a marks b => ∃ k, P k ∧ rounds R k a marks b) a marks b ↔
      ∃ k, P k ∧ rounds R (n + k) a marks b := by
  constructor
  · rintro ⟨q, first, second, reads, ⟨k, holds, more⟩, rfl⟩
    exact ⟨k, holds, rounds_add R n k ▸ ⟨q, first, second, reads, more, rfl⟩⟩
  · rintro ⟨k, holds, reads⟩
    rw [rounds_add] at reads
    obtain ⟨q, first, second, reads, more, rfl⟩ := reads
    exact ⟨q, first, second, reads, ⟨k, holds, more⟩, rfl⟩

theorem Emits.rounds {one : Emit} (emits : p.Emits ahead R one) (takesSome : Bool) (least : Nat)
    (most : Option Nat) (greedy : Bool) :
    p.Emits ahead (fun a marks b => ∃ n, least ≤ n ∧ (∀ m ∈ most, n ≤ max least m) ∧
      Reading.rounds R n a marks b) (emitRounds one takesSome least most greedy) := by
  cases most with
  | some most =>
    have few : p.Emits ahead (upTo R (most - least)) fun next steps =>
        emitOptional one greedy next (most - least) next steps := by
      refine ⟨fun next steps => (emits.optional greedy next _ 0 next steps).1,
        fun next steps => (emits.optional greedy next _ 0 next steps).2.1,
        fun next steps contains => ?_⟩
      have none : p.Enters ahead (upTo R 0) next next := upTo_zero R ▸ .refl p ahead next
      have result := (emits.optional greedy next _ 0 next steps).2.2 contains none
      rwa [Nat.zero_add] at result
    refine ((emits.copies least).comp few).congr fun a marks b =>
      (comp_rounds least _ a marks b).trans ?_
    constructor
    · rintro ⟨k, le, reads⟩
      exact ⟨least + k, by omega, by simp; omega, reads⟩
    · rintro ⟨n, low, high, reads⟩
      have high := high most rfl
      obtain ⟨k, rfl⟩ := Nat.le.dest low
      exact ⟨k, by omega, reads⟩
  | none =>
    cases least with
    | zero =>
      have any : ∀ a marks b, (∃ n, Reading.rounds R n a marks b) ↔ ∃ n, 0 ≤ n ∧
          (∀ m ∈ (none : Option Nat), n ≤ max 0 m) ∧ Reading.rounds R n a marks b := by
        simp
      cases takesSome with
      | true => exact (emits.loop greedy).congr any
      | false => exact (emits.any greedy).congr any
    | succ least =>
      refine ((emits.copies least).comp (emits.oneOrMore greedy)).congr fun a marks b =>
        (comp_rounds least _ a marks b).trans ?_
      constructor
      · rintro ⟨k, low, reads⟩
        exact ⟨least + k, by omega, by simp, reads⟩
      · rintro ⟨n, low, -, reads⟩
        obtain ⟨k, rfl⟩ := Nat.le.dest low
        exact ⟨k + 1, by omega, by rwa [← Nat.add_assoc, Nat.add_right_comm]⟩

theorem Emits.alt {one two : Emit} (left : p.Emits ahead R one) (right : p.Emits ahead S two) :
    p.Emits ahead (fun a marks b => R a marks b ∨ S a marks b) fun next steps =>
      let (first, steps) := one next steps
      let (second, steps) := two next steps
      (steps.size, steps.push (.fork first second)) := by
  constructor
  · intro next steps
    simp only [Array.size_push]
    exact Nat.le_succ_of_le (Nat.le_trans (left.grows next steps) (right.grows next _))
  · intro next steps i inside
    have inside' := Nat.lt_of_lt_of_le inside (left.grows next steps)
    have inside'' := Nat.lt_of_lt_of_le inside' (right.grows next _)
    simp only
    rw [Array.getElem?_push_lt inside'', ← Array.getElem?_eq_getElem inside'',
      right.keeps next _ i inside', left.keeps next steps i inside]
  · intro next steps contains
    have first := left.grows next steps
    have second := right.grows next (one next steps).2
    obtain ⟨here, body⟩ := contains_pushed contains (Nat.le_trans first second)
    exact @enters_branch _ _ _ _ _ _ true _ _ here
      (left.enters next steps (right.contains_first body))
      (right.enters next _ (body.later first))

theorem Emits.group {one : Emit} (emits : p.Emits ahead R one) (i : Nat) :
    p.Emits ahead (fun a marks b => ∃ inner, R a inner b ∧
      marks = (closeSlot i, b.offset) :: inner ++ [(openSlot i, a.offset)]) fun next steps =>
        let (close, steps) := emitStep (.mark (closeSlot i)) next steps
        let (entry, steps) := one close steps
        emitStep (.mark (openSlot i)) entry steps := by
  have marks : ∀ slot, p.Emits ahead (fun a marks b => b = a ∧ marks = [(slot, a.offset)])
      (emitStep (.mark slot)) := fun slot => emits_step _ fun i next here => enters_mark here
  refine ((marks (openSlot i)).comp (emits.comp (marks (closeSlot i)))).congr fun a noted b => ?_
  constructor
  · rintro ⟨_, _, _, ⟨rfl, rfl⟩, ⟨_, inner, _, reads, ⟨rfl, rfl⟩, rfl⟩, rfl⟩
    exact ⟨inner, reads, by simp⟩
  · rintro ⟨inner, reads, rfl⟩
    exact ⟨a, _, _, ⟨rfl, rfl⟩, ⟨b, inner, _, reads, ⟨rfl, rfl⟩, rfl⟩, by simp⟩

theorem way_final (here : p.steps[final]? = some .done) :
    p.Way ahead n ⟨final, s, noted⟩ place q marks ↔ n = 0 ∧ q = place ∧ marks = noted := by
  constructor
  · intro way
    cases way with
    | done => exact ⟨rfl, rfl, rfl⟩
    | pass member => simp [onward, here] at member
    | take _ taken => simp [taken?, here] at taken
  · rintro ⟨rfl, rfl, rfl⟩
    exact .done (by simp [isDone, here])

theorem Enters.ends_iff (enters : p.Enters ahead R entry final)
    (here : p.steps[final]? = some .done) :
    (∃ n, p.Way ahead n ⟨entry, s, []⟩ place q marks) ↔ R place marks q := by
  constructor
  · rintro ⟨n, way⟩
    obtain ⟨b, new, k, reads, -, way⟩ := enters.sound n s [] place q marks way
    obtain ⟨-, rfl, rfl⟩ := (way_final here).mp way
    simpa using reads
  · intro reads
    exact enters.complete s [] place q marks q _ 0 reads ((way_final here).mpr (by simp))

theorem leads_succ_iff {depth : Nat} (enters : p.Enters (p.leads depth) R entry final)
    (here : p.steps[final]? = some .done) :
    p.leads (depth + 1) entry place = true ↔ ∃ marks b, R place marks b := by
  rw [leads_iff]
  constructor
  · rintro ⟨n, q, marks, way⟩
    exact ⟨marks, q, (enters.ends_iff here).mp ⟨n, way⟩⟩
  · rintro ⟨marks, q, reads⟩
    obtain ⟨n, way⟩ := (enters.ends_iff here).mpr reads
    exact ⟨n, q, marks, way⟩

theorem Emits.condition {one : Emit} {depth : Nat} (emits : p.Emits (p.leads depth) R one)
    (ended : p.steps[final]? = some .done) (holds : Bool) :
    p.Emits (p.leads (depth + 1)) (stay fun a => (∃ marks b, R a marks b) ↔ holds = true)
      fun next steps =>
        let (inner, steps) := one final steps
        emitStep (.ahead holds inner) next steps := by
  constructor
  · intro next steps
    simp only [emitStep, Array.size_push]
    exact Nat.le_succ_of_le (emits.grows final steps)
  · intro next steps i inside
    have inside' := Nat.lt_of_lt_of_le inside (emits.grows final steps)
    simp only [emitStep]
    rw [Array.getElem?_push_lt inside', ← Array.getElem?_eq_getElem inside']
    exact emits.keeps final steps i inside
  · intro next steps contains
    obtain ⟨here, body⟩ := contains_pushed contains (emits.grows final steps)
    have inner := emits.enters final steps body
    have enters : p.Enters (p.leads (depth + 1)) _ _ next := enters_ahead here
    simp only [leads_succ_iff inner ended] at enters
    exact enters

/-- The steps of a pattern lead along its readings. Conditions on what follows may be nested as deep
as the pattern does it. -/
theorem emits_emit (here : p.steps[final]? = some .done) (r : Regex) {depth : Nat}
    (deep : r.aheads ≤ depth) : p.Emits (p.leads depth) r.reading (emit r) := by
  induction r generalizing depth with
  | empty => exact emits_nothing
  | literal cs => exact emits_literal cs
  | set ascii s => exact emits_step _ fun i next here => enters_oneOf here
  | anchor k => exact emits_step _ fun i next here => enters_check here
  | seq a b ia ib =>
    exact (ia (Nat.le_trans (Nat.le_max_left _ _) deep)).comp
      (ib (Nat.le_trans (Nat.le_max_right _ _) deep))
  | alt a b ia ib =>
    exact (ia (Nat.le_trans (Nat.le_max_left _ _) deep)).alt
      (ib (Nat.le_trans (Nat.le_max_right _ _) deep))
  | rep r least most greedy ih => exact (ih deep).rounds _ least most greedy
  | group i r ih => exact (ih deep).group i
  | ahead holds r ih =>
    obtain ⟨depth, rfl⟩ : ∃ d, depth = d + 1 := ⟨depth - 1, by simp only [Regex.aheads] at deep; omega⟩
    exact (ih (Nat.le_of_succ_le_succ deep)).condition here holds

theorem ofRegex_final (r : Regex) : (ofRegex r).steps[final]? = some .done := by
  -- what the steps of a pattern keep does not depend on the program that they are looked at in
  have emits := emits_emit (p := ⟨#[.done], 0, 0, 0, none⟩) rfl r (Nat.le_refl _)
  exact emits.keeps final #[.done] final Nat.one_pos

/-- The ways through the program of a pattern are the pattern's readings. -/
theorem ofRegex_way_iff (r : Regex) :
    (∃ n, (ofRegex r).Way ((ofRegex r).leads (ofRegex r).aheads) n ⟨(ofRegex r).start, s, []⟩
      place q marks) ↔ r.reading place marks q := by
  have ended := ofRegex_final r
  have contains : (ofRegex r).Contains 1 (ofRegex r).steps := fun _ _ _ here => here
  have emits : (ofRegex r).Emits ((ofRegex r).leads (ofRegex r).aheads) r.reading (emit r) :=
    emits_emit ended r (Nat.le_refl _)
  exact (emits.enters final #[.done] contains).ends_iff ended

theorem ofRegex_ends_iff (r : Regex) :
    (ofRegex r).Ends ((ofRegex r).leads (ofRegex r).aheads) ⟨(ofRegex r).start, s, []⟩ place ↔
      ∃ marks q, r.reading place marks q := by
  constructor
  · rintro ⟨n, q, marks, way⟩
    exact ⟨marks, q, (ofRegex_way_iff r).mp ⟨n, way⟩⟩
  · rintro ⟨marks, q, reads⟩
    obtain ⟨n, way⟩ := (ofRegex_way_iff r).mpr reads
    exact ⟨n, q, marks, way⟩

/-- What a search for a pattern finds: the pattern reads the match, and no reading that starts from
the place on starts before it. -/
structure Answers (r : Regex) (place : Cursor) (found : Found) : Prop where
  reads : ∀ f ∈ found, ∃ a, place.Upto a ∧ a.offset = f.1.start ∧ r.reading a f.1.marks f.2 ∧
    f.2.offset = f.1.stop
  least : ∀ a marks b, place.Upto a → r.reading a marks b → ∃ f ∈ found, f.1.start ≤ a.offset

theorem search_answers (r : Regex) (place : Cursor) {v : Visits} (fresh : v.Fresh (ofRegex r)) :
    Answers r place ((ofRegex r).search place v).1 ∧
      ((ofRegex r).search place v).2.Fresh (ofRegex r) := by
  have finds := search_finds (fun q ends => mayStart_of_ends rfl ends) fresh place
  refine ⟨⟨fun f found => ?_, fun a marks b upto reads => ?_⟩, finds.fresh⟩
  · obtain ⟨⟨a, n, upto, start, way⟩, stop⟩ := finds.origin f found
    exact ⟨a, upto, start, (ofRegex_way_iff r).mp ⟨n, way⟩, stop⟩
  · exact finds.least a.offset ⟨rfl, a, upto, rfl, (ofRegex_ends_iff r).mpr ⟨marks, b, reads⟩⟩

end Program

end EventXref
