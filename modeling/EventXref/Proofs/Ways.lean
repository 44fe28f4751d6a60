import EventXref.Regex.Search

/-!
Ways through a program. A search follows many threads at once and closes a step to all but the
first that reaches it. Nothing is lost by that: whatever way leads from a step to the end, the
thread that was there first can go it as well, and it did not start later. So a search finds a
match if there is a way from any place on, and the match begins at the first place where one does.
-/
namespace EventXref

namespace Cursor

/-- The second place is the first one or lies behind it in the same text. -/
inductive Upto : Cursor → Cursor → Prop
  | here (p : Cursor) : Upto p p
  | past {p q : Cursor} {c : Char} {rest : List Char} : p.rest = c :: rest →
      Upto (p.past c rest) q → Upto p q

variable {p q r : Cursor} {c : Char} {rest : List Char}

theorem Upto.offset_le (upto : p.Upto q) : p.offset ≤ q.offset := by
  induction upto with
  | here => exact Nat.le_refl _
  | past _ _ ih => exact Nat.le_trans (Nat.le_add_right _ _) ih

theorem Upto.eq_or_past (upto : p.Upto q) (ahead : p.rest = c :: rest) :
    q = p ∨ (p.past c rest).Upto q := by
  cases upto with
  | here => exact .inl rfl
  | past here upto =>
    rw [ahead] at here
    cases here
    exact .inr upto

theorem Upto.eq_of_end (upto : p.Upto q) (ends : p.rest = []) : q = p := by
  cases upto with
  | here => rfl
  | past ahead _ =>
    rw [ends] at ahead
    cases ahead

theorem Upto.offset_lt (upto : (p.past c rest).Upto q) : p.offset < q.offset := by
  have further := upto.offset_le
  have taken := c.utf8Size_pos
  simp only [Cursor.past] at further
  omega

/-- A place in a text is known by its offset. -/
theorem Upto.unique (upto : p.Upto q) (upto' : p.Upto r) (same : q.offset = r.offset) : q = r := by
  induction upto with
  | here p =>
    cases upto' with
    | here => rfl
    | past _ further =>
      have := further.offset_lt
      omega
  | past ahead further ih =>
    rcases upto'.eq_or_past ahead with rfl | further'
    · have := further.offset_lt
      omega
    · exact ih further' same

end Cursor

namespace Program

variable {p : Program} {ahead : Nat → Cursor → Bool} {place q : Cursor} {t t' u : Thread}
  {n s bound : Nat} {marks : List (Nat × Nat)}

/-- What a thread turns into at a place without taking a character, in order of preference. -/
def onward (p : Program) (ahead : Nat → Cursor → Bool) (place : Cursor) (t : Thread) :
    List Thread :=
  match p.steps[t.step]? with
  | some (.check a next) => if a.holds place then [{ t with step := next }] else []
  | some (.mark slot next) => [{ t with step := next, marks := (slot, place.offset) :: t.marks }]
  | some (.fork first second) => [{ t with step := first }, { t with step := second }]
  | some (.ahead holds inner next) =>
    if ahead inner place == holds then [{ t with step := next }] else []
  | _ => []

/-- Whether a thread waits for a character or is done. -/
def waits (p : Program) (t : Thread) : Bool :=
  match p.steps[t.step]? with
  | some (.char _ _) | some (.oneOf _ _) | some .done => true
  | _ => false

/-- A way of `n` steps on which a thread that stands at a place comes to the end of the program, at
the place `q` and with these notes. -/
inductive Way (p : Program) (ahead : Nat → Cursor → Bool) :
    Nat → Thread → Cursor → Cursor → List (Nat × Nat) → Prop
  | done {t : Thread} {place : Cursor} : p.isDone t = true → Way p ahead 0 t place place t.marks
  | pass {n : Nat} {t t' : Thread} {place q : Cursor} {marks : List (Nat × Nat)} :
      t' ∈ p.onward ahead place t → Way p ahead n t' place q marks →
      Way p ahead (n + 1) t place q marks
  | take {n : Nat} {t t' : Thread} {c : Char} {rest : List Char} {place q : Cursor}
      {marks : List (Nat × Nat)} : place.rest = c :: rest → p.taken? t c = some t' →
      Way p ahead n t' (place.past c rest) q marks → Way p ahead (n + 1) t place q marks

/-- Whether a thread can come to the end from a place. -/
def Ends (p : Program) (ahead : Nat → Cursor → Bool) (t : Thread) (place : Cursor) : Prop :=
  ∃ n q marks, p.Way ahead n t place q marks

/-- What a thread turns into depends on its step only; the notes it makes are put in front. -/
theorem onward_same (member : t' ∈ p.onward ahead place t) : ∃ new, t'.start = t.start ∧
    t'.marks = new ++ t.marks ∧ ∀ u : Thread, u.step = t.step →
      ⟨t'.step, u.start, new ++ u.marks⟩ ∈ p.onward ahead place u := by
  unfold onward at member ⊢
  split at member
  · rename_i a next here
    split at member
    · rename_i holds
      cases List.mem_singleton.mp member
      exact ⟨[], rfl, rfl, fun u same => by simp [same, here, holds]⟩
    · cases member
  · rename_i slot next here
    cases List.mem_singleton.mp member
    exact ⟨[(slot, place.offset)], rfl, rfl, fun u same => by simp [same, here]⟩
  · rename_i first second here
    simp only [List.mem_cons, List.not_mem_nil, or_false] at member
    rcases member with rfl | rfl
    · exact ⟨[], rfl, rfl, fun u same => by simp [same, here]⟩
    · exact ⟨[], rfl, rfl, fun u same => by simp [same, here]⟩
  · rename_i holds inner next here
    split at member
    · rename_i allowed
      cases List.mem_singleton.mp member
      exact ⟨[], rfl, rfl, fun u same => by simp [same, here, allowed]⟩
    · cases member
  · cases member

theorem length_onward_le (p : Program) (ahead : Nat → Cursor → Bool) (place : Cursor) (t : Thread) :
    (p.onward ahead place t).length ≤ 2 := by
  unfold onward
  split
  · split <;> simp
  · simp
  · simp
  · split <;> simp
  · simp

theorem taken?_same {c : Char} (taken : p.taken? t c = some t') : p.waits t = true ∧
    t'.start = t.start ∧ t'.marks = t.marks ∧ ∀ u : Thread, u.step = t.step →
      p.taken? u c = some { u with step := t'.step } := by
  unfold taken? at taken ⊢
  split at taken
  · rename_i d next here
    split at taken
    · rename_i same
      cases Option.some.inj taken
      exact ⟨by simp [waits, here], rfl, rfl, fun u step => by simp [step, here, same]⟩
    · cases taken
  · rename_i set next here
    split at taken
    · rename_i among
      cases Option.some.inj taken
      exact ⟨by simp [waits, here], rfl, rfl, fun u step => by simp [step, here, among]⟩
    · cases taken
  · cases taken

theorem waits_of_isDone (done : p.isDone t = true) : p.waits t = true := by
  simp only [isDone, beq_iff_eq] at done
  simp [waits, done]

/-- Another thread at the same step can go the same way, and makes the same notes. -/
theorem Way.same (way : p.Way ahead n t place q marks) : ∃ new, marks = new ++ t.marks ∧
    ∀ u : Thread, u.step = t.step → p.Way ahead n u place q (new ++ u.marks) := by
  induction way with
  | done ended =>
    refine ⟨[], rfl, fun u step => .done ?_⟩
    unfold isDone at ended ⊢
    rwa [step]
  | pass member _ ih =>
    obtain ⟨new, rfl, again⟩ := ih
    obtain ⟨first, -, noted, same⟩ := onward_same member
    refine ⟨new ++ first, by rw [noted, List.append_assoc], fun u step => ?_⟩
    rw [List.append_assoc]
    exact .pass (same u step) (again _ rfl)
  | take next taken _ ih =>
    obtain ⟨new, rfl, again⟩ := ih
    obtain ⟨-, -, noted, same⟩ := taken?_same taken
    refine ⟨new, by rw [noted], fun u step => ?_⟩
    exact .take next (same u step) (again { u with step := _ } rfl)

theorem Ends.same (ends : p.Ends ahead t place) (step : u.step = t.step) :
    p.Ends ahead u place := by
  obtain ⟨n, q, marks, way⟩ := ends
  obtain ⟨new, -, again⟩ := way.same
  exact ⟨n, q, _, again u step⟩

theorem Ends.inside (ends : p.Ends ahead t place) : p.steps[t.step]? ≠ none := by
  obtain ⟨n, q, marks, way⟩ := ends
  intro outside
  cases way with
  | done ended => simp [isDone, outside] at ended
  | pass member _ => simp [onward, outside] at member
  | take _ taken _ => simp [taken?, outside] at taken

namespace Visits

variable {v : Visits} {i j : Nat}

/-- There is a slot for every step, and none shows a turn that is still to come. -/
structure Fits (v : Visits) (p : Program) : Prop where
  size : v.last.size = p.steps.size
  past : ∀ i, v.last.getD i 0 ≤ v.turn
  turn : 0 < v.turn

def Fresh (v : Visits) (p : Program) : Prop := v.Fits p ∧ ∀ i, v.isReached i = false

def left (v : Visits) : Nat := v.last.countP (· != v.turn)

theorem getD_reach (v : Visits) (i j : Nat) : (v.reach i).last.getD j 0 =
    if i = j ∧ i < v.last.size then v.turn else v.last.getD j 0 := by
  simp only [reach, Array.getD_eq_getD_getElem?, Array.getElem?_setIfInBounds]
  by_cases same : i = j
  · subst same
    by_cases inside : i < v.last.size <;> simp [inside]
  · simp [same]

theorem isReached_reach (v : Visits) (i j : Nat) : (v.reach i).isReached j = true ↔
    v.isReached j = true ∨ i = j ∧ i < v.last.size := by
  have turn : (v.reach i).turn = v.turn := rfl
  simp only [isReached, getD_reach, turn, beq_iff_eq]
  by_cases here : i = j ∧ i < v.last.size
  · rw [if_pos here]
    exact iff_of_true rfl (.inr here)
  · rw [if_neg here]
    exact (or_iff_left here).symm

theorem Fits.reach (fits : v.Fits p) (i : Nat) : (v.reach i).Fits p := by
  refine ⟨by simp [Visits.reach, fits.size], fun j => ?_, fits.turn⟩
  rw [getD_reach]
  split
  · exact Nat.le_refl _
  · exact fits.past j

theorem left_reach (inside : i < v.last.size) (new : v.isReached i = false) :
    (v.reach i).left + 1 = v.left := by
  have unseen : (v.last[i] != v.turn) = true := by
    simpa [isReached, Array.getD_eq_getD_getElem?, inside] using new
  have among : 0 < v.last.countP (· != v.turn) :=
    Array.countP_pos_iff.mpr ⟨_, Array.getElem_mem inside, unseen⟩
  simp only [left, Visits.reach, Array.setIfInBounds, dif_pos inside, Array.countP_set, unseen,
    if_true, bne_self_eq_false, Bool.false_eq_true, if_false]
  omega

theorem left_le (v : Visits) : v.left ≤ v.last.size := Array.countP_le_size

theorem Fits.nextTurn (fits : v.Fits p) : v.nextTurn.Fresh p := by
  refine ⟨⟨fits.size, fun i => Nat.le_succ_of_le (fits.past i), Nat.succ_pos _⟩, fun i => ?_⟩
  have past := fits.past i
  simp only [isReached, Visits.nextTurn, beq_eq_false_iff_ne]
  omega

theorem none_fresh (p : Program) : (Visits.none p).Fresh p := by
  have zero : ∀ i, (Visits.none p).last.getD i 0 = 0 := by
    intro i
    simp only [none, Array.getD_eq_getD_getElem?, Array.getElem?_replicate]
    split <;> rfl
  exact ⟨⟨by simp [none], fun i => by simp [zero], Nat.one_pos⟩, fun i => by
    simp only [isReached, zero]
    rfl⟩

end Visits

variable {v v' : Visits} {ts : List Thread} {waiting : Waiting}

theorem follow_of_reached (reached : v.isReached t.step = true) :
    follow p ahead place (bound + 1) (t :: ts) waiting v = follow p ahead place bound ts waiting v := by
  rw [follow, if_pos reached]

theorem follow_of_new (new : v.isReached t.step = false) :
    follow p ahead place (bound + 1) (t :: ts) waiting v =
      follow p ahead place bound (p.onward ahead place t ++ ts)
        (if p.waits t then t :: waiting else waiting) (v.reach t.step) := by
  rw [follow, if_neg (by simp [new])]
  unfold onward waits
  cases here : p.steps[t.step]? with
  | none => simp
  | some step =>
    cases step with
    | check a next => by_cases holds : a.holds place = true <;> simp [holds]
    | ahead holds inner next => by_cases allowed : (ahead inner place == holds) = true <;> simp [allowed]
    | _ => simp

/-- Following threads puts more of them in front of those that wait, and what holds of a thread all
along its way holds of the new ones. -/
theorem follow_adds (bound : Nat) (waiting : Waiting) (v : Visits) {P : Thread → Prop}
    (keeps : ∀ t, P t → ∀ t' ∈ p.onward ahead place t, P t') (here : ∀ t ∈ ts, P t) :
    ∃ new, (follow p ahead place bound ts waiting v).1 = new ++ waiting ∧
      ∀ t ∈ new, P t ∧ p.waits t = true := by
  induction bound generalizing ts waiting v with
  | zero =>
    refine ⟨[], ?_, by simp⟩
    cases ts <;> rfl
  | succ bound ih =>
    cases ts with
    | nil => exact ⟨[], rfl, by simp⟩
    | cons t ts =>
      obtain ⟨first, rest⟩ := List.forall_mem_cons.mp here
      by_cases reached : v.isReached t.step = true
      · rw [follow_of_reached reached]
        exact ih waiting v rest
      · rw [follow_of_new (by simpa using reached)]
        have both : ∀ u ∈ p.onward ahead place t ++ ts, P u :=
          List.forall_mem_append.mpr ⟨keeps t first, rest⟩
        split
        next waits =>
          obtain ⟨new, result, all⟩ := ih (t :: waiting) (v.reach t.step) both
          exact ⟨new ++ [t], by simp [result],
            List.forall_mem_append.mpr ⟨all, List.forall_mem_singleton.mpr ⟨first, waits⟩⟩⟩
        next => exact ih waiting (v.reach t.step) both

/-- What has been reached at a place is complete, up to the threads that are still to be followed: a
step behind a reached one is reached as well, and where a thread has to wait one does, which did not
start behind `s`. -/
structure Closed (p : Program) (ahead : Nat → Cursor → Bool) (place : Cursor) (s : Nat)
    (todo : List Thread) (waiting : Waiting) (v : Visits) : Prop where
  onward : ∀ t, v.isReached t.step = true → ∀ t' ∈ p.onward ahead place t,
    p.steps[t'.step]? = none ∨ v.isReached t'.step = true ∨ ∃ u ∈ todo, u.step = t'.step
  waits : ∀ t, v.isReached t.step = true → p.waits t = true →
    ∃ u ∈ waiting, u.step = t.step ∧ u.start ≤ s

theorem Visits.Fresh.closed (fresh : v.Fresh p) (todo : List Thread) :
    Closed p ahead place s todo [] v := by
  constructor
  all_goals
    intro t reached
    rw [fresh.2 t.step] at reached
    cases reached

theorem Closed.later {s' : Nat} (closed : Closed p ahead place s ts waiting v) (le : s ≤ s') :
    Closed p ahead place s' ts waiting v := by
  refine ⟨closed.onward, fun t reached waits => ?_⟩
  obtain ⟨u, member, step, start⟩ := closed.waits t reached waits
  exact ⟨u, member, step, Nat.le_trans start le⟩

theorem Closed.with (closed : Closed p ahead place s [] waiting v) (ts : List Thread) :
    Closed p ahead place s ts waiting v := by
  refine ⟨fun t reached t' member => ?_, closed.waits⟩
  rcases closed.onward t reached t' member with none | reached' | ⟨u, pending, -⟩
  · exact .inl none
  · exact .inr (.inl reached')
  · cases pending

/-- A thread whose step has been reached need not be followed. -/
theorem Closed.drop (closed : Closed p ahead place s (t :: ts) waiting v)
    (reached : v.isReached t.step = true) : Closed p ahead place s ts waiting v := by
  refine ⟨fun t₁ reached₁ t' member => ?_, closed.waits⟩
  rcases closed.onward t₁ reached₁ t' member with none | reached' | ⟨u, pending, step⟩
  · exact .inl none
  · exact .inr (.inl reached')
  · rcases List.mem_cons.mp pending with rfl | later
    · exact .inr (.inl (step ▸ reached))
    · exact .inr (.inr ⟨u, later, step⟩)

/-- One round of following: the thread is noted, and what it turns into is still to be followed. -/
theorem Closed.reach (closed : Closed p ahead place s (t :: ts) waiting v) (fits : v.Fits p)
    (start : t.start ≤ s) : Closed p ahead place s (p.onward ahead place t ++ ts)
      (if p.waits t then t :: waiting else waiting) (v.reach t.step) := by
  constructor
  · intro t₁ reached₁ t' member
    rcases (Visits.isReached_reach v _ _).mp reached₁ with before | ⟨here, -⟩
    · rcases closed.onward t₁ before t' member with none | reached' | ⟨u, pending, step⟩
      · exact .inl none
      · exact .inr (.inl ((Visits.isReached_reach v _ _).mpr (.inl reached')))
      · rcases List.mem_cons.mp pending with rfl | later
        · by_cases inside : u.step < v.last.size
          · exact .inr (.inl ((Visits.isReached_reach v _ _).mpr (.inr ⟨step, inside⟩)))
          · refine .inl ?_
            rw [fits.size] at inside
            simpa [← step] using inside
        · exact .inr (.inr ⟨u, by simp [later], step⟩)
    · obtain ⟨new, -, -, same⟩ := onward_same member
      exact .inr (.inr ⟨_, List.mem_append_left _ (same t here), rfl⟩)
  · intro t₁ reached₁ waits
    rcases (Visits.isReached_reach v _ _).mp reached₁ with before | ⟨here, -⟩
    · obtain ⟨u, member, step, start⟩ := closed.waits t₁ before waits
      refine ⟨u, ?_, step, start⟩
      split
      · exact List.mem_cons_of_mem _ member
      · exact member
    · have waits' : p.waits t = true := by
        unfold Program.waits at waits ⊢
        rwa [here]
      exact ⟨t, by simp [waits'], here, start⟩

/-- Threads are followed to their ends: the bound is high enough. -/
theorem follow_closed (fits : v.Fits p) (enough : 2 * v.left + ts.length ≤ bound)
    (starts : ∀ t ∈ ts, t.start ≤ s) (closed : Closed p ahead place s ts waiting v) :
    let r := follow p ahead place bound ts waiting v
    Closed p ahead place s [] r.1 r.2 ∧ r.2.Fits p ∧
      (∀ i, v.isReached i = true → r.2.isReached i = true) ∧
      ∀ t ∈ ts, p.steps[t.step]? = none ∨ r.2.isReached t.step = true := by
  induction bound generalizing ts waiting v with
  | zero =>
    have empty : ts = [] := List.length_eq_zero_iff.mp (by omega)
    subst empty
    exact ⟨closed, fits, fun _ reached => reached, by simp⟩
  | succ bound ih =>
    cases ts with
    | nil => exact ⟨closed, fits, fun _ reached => reached, by simp⟩
    | cons t ts =>
      obtain ⟨start, rest⟩ := List.forall_mem_cons.mp starts
      by_cases reached : v.isReached t.step = true
      · rw [follow_of_reached reached]
        obtain ⟨closed', fits', kept, all⟩ := ih fits
          (by simp only [List.length_cons] at enough; omega) rest (closed.drop reached)
        exact ⟨closed', fits', kept, List.forall_mem_cons.mpr ⟨.inr (kept _ reached), all⟩⟩
      · rw [follow_of_new (by simpa using reached)]
        have starts' : ∀ u ∈ p.onward ahead place t ++ ts, u.start ≤ s := by
          refine List.forall_mem_append.mpr ⟨fun u member => ?_, rest⟩
          obtain ⟨-, same, -⟩ := onward_same member
          omega
        -- A step goes on in two threads at most, so reaching it pays for what it adds.
        have enough' : 2 * (v.reach t.step).left + (p.onward ahead place t ++ ts).length ≤ bound := by
          simp only [List.length_append, List.length_cons] at enough ⊢
          by_cases inside : t.step < v.last.size
          · have fewer := Visits.left_reach inside (by simpa using reached)
            have few := length_onward_le p ahead place t
            omega
          · have outside : p.steps[t.step]? = none := by simpa [fits.size] using inside
            have same : (v.reach t.step).left = v.left := by
              simp [Visits.left, Visits.reach, Array.setIfInBounds, inside]
            have none : p.onward ahead place t = [] := by simp [onward, outside]
            rw [same, none, List.length_nil]
            omega
        obtain ⟨closed', fits', kept, all⟩ := ih (fits.reach t.step) enough' starts'
          (closed.reach fits start)
        refine ⟨closed', fits', fun i seen => kept i ((Visits.isReached_reach v _ _).mpr (.inl seen)),
          List.forall_mem_cons.mpr ⟨?_, fun u member => all u (List.mem_append_right _ member)⟩⟩
        by_cases inside : t.step < v.last.size
        · exact .inr (kept _ ((Visits.isReached_reach v _ _).mpr (.inr ⟨rfl, inside⟩)))
        · refine .inl ?_
          rw [fits.size] at inside
          simpa using inside

/-- Whoever stands at a reached step, a thread that waits can come to the end as well. -/
theorem Closed.ends (closed : Closed p ahead place s [] waiting v) (ends : p.Ends ahead t place)
    (reached : v.isReached t.step = true) : ∃ u ∈ waiting, u.start ≤ s ∧ p.Ends ahead u place := by
  obtain ⟨n, q, marks, way⟩ := ends
  induction way with
  | done ended =>
    obtain ⟨u, member, step, start⟩ := closed.waits _ reached (waits_of_isDone ended)
    exact ⟨u, member, start, Ends.same ⟨0, _, _, .done ended⟩ step⟩
  | pass member way ih =>
    rcases closed.onward _ reached _ member with none | reached' | ⟨u, pending, -⟩
    · exact absurd none (Ends.inside ⟨_, _, _, way⟩)
    · exact ih closed reached'
    · cases pending
  | take next taken way _ =>
    obtain ⟨u, member, step, start⟩ := closed.waits _ reached (taken?_same taken).1
    exact ⟨u, member, start, Ends.same ⟨_, _, _, .take next taken way⟩ step⟩

end Program

end EventXref
