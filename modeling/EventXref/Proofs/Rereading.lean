import EventXref.Proofs.Convergence

namespace EventXref

namespace LineStates

variable {σ : Type}

/-- The line has been read, and its state is what the stored state before it leads to. -/
def Follows (g : Grammar σ) (prev : Option σ) (lines : List (List Char)) (slots : List (Option σ))
    (i : Nat) : Prop :=
  ∃ p, before prev slots i = some p ∧
    slots[i]? = some (some (g.tokenizeLine p (lines.getD i [])).endState)

section Follows

variable {g : Grammar σ} {prev : Option σ} {lines : List (List Char)} {slots : List (Option σ)}
  {i : Nat}

theorem follows_iff :
    Follows g prev lines slots i ↔ IsRead slots i ∧ Linked g prev lines slots i := by
  constructor
  · rintro ⟨p, known, stored⟩
    refine ⟨⟨_, stored⟩, ?_⟩
    intro st stored'
    cases stored.symm.trans stored'
    exact ⟨p, known, rfl⟩
  · rintro ⟨⟨st, stored⟩, linked⟩
    obtain ⟨p, known, rfl⟩ := linked st stored
    exact ⟨p, known, stored⟩

theorem follows_succ {line : List Char} {slot : Option σ} :
    Follows g prev (line :: lines) (slot :: slots) (i + 1) ↔ Follows g slot lines slots i := by
  rw [follows_iff, follows_iff, linked_succ]
  rfl

theorem follows_append {kept rest : List (Option σ)} {n k : Nat} (size : kept.length = n) :
    Follows g prev lines (kept ++ rest) (n + k) ↔
      Follows g (before prev kept n) (lines.drop n) rest k := by
  have read : IsRead (kept ++ rest) (n + k) ↔ IsRead rest k := by
    rw [IsRead, IsRead, List.getElem?_append_right (by omega), size, Nat.add_sub_cancel_left]
  rw [follows_iff, follows_iff, read, linked_append size]

end Follows

theorem length_take_backfill (slots : List (Option σ)) (line : Nat) :
    (slots.take (backfill slots line)).length = backfill slots line := by
  have bound := backfill_le slots line
  rw [List.length_take]
  omega

variable [DecidableEq σ]

section Sweep

variable (g : Grammar σ)

theorem sweep_changed (s : σ) (due : Nat) (unsettled : Bool) (lines : List (List Char))
    (slots : List (Option σ)) :
    (sweep g s due unsettled lines slots).changed = true ↔
      (sweep g s due unsettled lines slots).slots ≠ slots := by
  induction lines generalizing s due unsettled slots with
  | nil => simp [sweep]
  | cons line lines ih =>
    cases slots with
    | nil => simp [sweep]
    | cons slot slots =>
      simp only [sweep]
      split
      · have rest := ih (g.tokenizeLine s line).endState (due - 1)
          (decide (slot ≠ some (g.tokenizeLine s line).endState)) slots
        generalize sweep g _ _ _ lines slots = swept at rest ⊢
        simp only [Bool.or_eq_true, rest, decide_eq_true_eq, ne_eq, List.cons.injEq, not_and_or,
          eq_comm (a := slot)]
      · simp

theorem getElem?_sweep {s : σ} {due : Nat} {unsettled : Bool} {lines : List (List Char)}
    {slots : List (Option σ)} {k : Nat} (late : (sweep g s due unsettled lines slots).count ≤ k) :
    (sweep g s due unsettled lines slots).slots[k]? = slots[k]? := by
  induction lines generalizing s due unsettled slots k with
  | nil => simp [sweep]
  | cons line lines ih =>
    cases slots with
    | nil => simp [sweep]
    | cons slot slots =>
      simp only [sweep] at late ⊢
      split
      next goes =>
        rw [if_pos goes] at late
        cases k with
        | zero => cases late
        | succ k => exact ih (Nat.le_of_succ_le_succ late)
      next => rfl

theorem sweep_follows {s : σ} {due : Nat} {unsettled : Bool} {lines : List (List Char)}
    {slots : List (Option σ)} {k : Nat} (read : k < (sweep g s due unsettled lines slots).count) :
    Follows g (some s) lines (sweep g s due unsettled lines slots).slots k := by
  induction lines generalizing s due unsettled slots k with
  | nil => simp [sweep] at read
  | cons line lines ih =>
    cases slots with
    | nil => simp [sweep] at read
    | cons slot slots =>
      simp only [sweep] at read ⊢
      split
      next goes =>
        rw [if_pos goes] at read
        cases k with
        | zero => exact ⟨s, rfl, rfl⟩
        | succ k => exact follows_succ.mpr (ih (Nat.lt_of_succ_lt_succ read))
      next stops =>
        rw [if_neg stops] at read
        cases read

/-- Where every line that is due follows from the one before, nothing changes, and then nothing
makes the run go on. -/
theorem sweep_settled {s : σ} {due : Nat} {lines : List (List Char)} {slots : List (Option σ)}
    (follows : ∀ k < due, k < slots.length → Follows g (some s) lines slots k) :
    (sweep g s due false lines slots).slots = slots := by
  induction lines generalizing s due slots with
  | nil => simp [sweep]
  | cons line lines ih =>
    cases slots with
    | nil => simp [sweep]
    | cons slot slots =>
      simp only [sweep]
      split
      next goes =>
        have some_due : 0 < due := by simpa using goes
        obtain ⟨p, ⟨⟩, ⟨⟩⟩ := follows 0 some_due (Nat.succ_pos _)
        have later : ∀ k < due - 1, k < slots.length →
            Follows g (some (g.tokenizeLine s line).endState) lines slots k :=
          fun k low inside => follows_succ.mp (follows (k + 1) (by omega) (Nat.succ_lt_succ inside))
        simpa using ih later
      next => rfl

end Sweep

section Reparse

variable {s : LineStates σ} {d : Document} {first stop i : Nat}

theorem reparse_changed (s : LineStates σ) (d : Document) (first stop : Nat) :
    (s.reparse d first stop).changed = true ↔ (s.reparse d first stop).states.slots ≠ s.slots := by
  have whole := List.take_append_drop (backfill s.slots first) s.slots
  refine (sweep_changed _ _ _ _ _ _).trans (not_congr ?_)
  constructor
  · intro same
    rw [reparse_slots, swept, same, whole]
  · intro same
    exact List.append_cancel_left (same.trans whole.symm)

theorem mem_visited : i ∈ (s.reparse d first stop).visited ↔
    backfill s.slots first ≤ i ∧ i < backfill s.slots first + (s.swept d first stop).count :=
  List.mem_range'_1

theorem reparse_follows (visited : i ∈ (s.reparse d first stop).visited) :
    Follows s.grammar (some s.grammar.initial) d.lines (s.reparse d first stop).states.slots i := by
  obtain ⟨low, high⟩ := mem_visited.mp visited
  obtain ⟨k, rfl⟩ := Nat.exists_eq_add_of_le low
  rw [reparse_slots, follows_append (length_take_backfill s.slots first), before_take,
    before_backfill]
  exact sweep_follows _ (Nat.lt_of_add_lt_add_left high)

theorem getElem?_of_not_visited (elsewhere : i ∉ (s.reparse d first stop).visited) :
    (s.reparse d first stop).states.slots[i]? = s.slots[i]? := by
  rw [mem_visited] at elsewhere
  have start := length_take_backfill s.slots first
  rw [reparse_slots]
  rcases Nat.lt_or_ge i (backfill s.slots first) with front | behind
  · rw [List.getElem?_append_left (by omega), List.getElem?_take_of_lt front]
  · obtain ⟨k, rfl⟩ := Nat.exists_eq_add_of_le behind
    have late : (s.swept d first stop).count ≤ k := by omega
    rw [List.getElem?_append_right (by omega), start, Nat.add_sub_cancel_left, swept,
      getElem?_sweep _ late, List.getElem?_drop]

/-- Reading again starts no earlier: the state that reading started from is still there. -/
theorem backfill_le_backfill_reparse (s : LineStates σ) (d : Document) (first stop : Nat) :
    backfill s.slots first ≤ backfill (s.reparse d first stop).states.slots first := by
  by_contra earlier
  obtain ⟨i, start⟩ : ∃ i, backfill s.slots first = i + 1 := ⟨backfill s.slots first - 1, by omega⟩
  have bound := backfill_le s.slots first
  obtain ⟨st, stored⟩ := isRead_before_backfill start
  have kept : (s.reparse d first stop).states.slots[i]? = s.slots[i]? := by
    apply getElem?_of_not_visited
    rw [mem_visited]
    omega
  exact unread_behind_backfill (by omega) (by omega : i < first) ⟨st, kept.trans stored⟩

theorem reparse_again (length : s.slots.length = d.lineCount) :
    ((s.reparse d first stop).states.reparse d first stop).states.slots =
      (s.reparse d first stop).states.slots := by
  have later := backfill_le_backfill_reparse s d first stop
  have due := (swept_count first stop length).1
  have same : (s.reparse d first stop).states.slots.length = s.slots.length := length_reparse length
  have follows : ∀ i ∈ (s.reparse d first stop).visited, Follows s.grammar
      (some s.grammar.initial) d.lines (s.reparse d first stop).states.slots i :=
    fun i => reparse_follows
  have grammar : (s.reparse d first stop).states.grammar = s.grammar := rfl
  simp only [mem_visited] at follows
  rw [← grammar] at follows
  generalize (s.reparse d first stop).states = now at later same follows ⊢
  -- every line that is due now was read before
  have settled : (now.swept d first stop).slots = now.slots.drop (backfill now.slots first) := by
    apply sweep_settled
    intro k low inside
    rw [← before_backfill now first, ← before_take,
      ← follows_append (length_take_backfill now.slots first), List.take_append_drop]
    exact follows _ (by omega)
  rw [reparse_slots, settled, List.take_append_drop]

/-- What one run of reading does to any states of as many lines as the document has: it reads at
least the lines of the range, it reports a change exactly if some slot differs, a line that was read
has the state that follows from the one stored before it, any other line has kept its slot, and the
same run again changes and reports nothing. -/
theorem reading_reports_and_settles (s : LineStates σ) (d : Document) (first stop : Nat)
    (length : s.slots.length = d.lineCount) :
    let r := s.reparse d first stop
    (∀ i, first ≤ i → i < stop → i < d.lineCount → i ∈ r.visited) ∧
    (r.changed = true ↔ ∃ i : Nat, r.states.slots[i]? ≠ s.slots[i]?) ∧
    (∀ i ∈ r.visited, ∃ p, before (some s.grammar.initial) r.states.slots i = some p ∧
      r.states.slots[i]? = some (some (s.grammar.tokenizeLine p (d.line i)).endState)) ∧
    (∀ i, i ∉ r.visited → r.states.slots[i]? = s.slots[i]?) ∧
    (r.states.reparse d first stop).changed = false ∧
    (r.states.reparse d first stop).states.slots = r.states.slots := by
  intro r
  have again : (r.states.reparse d first stop).states.slots = r.states.slots := reparse_again length
  refine ⟨?_, ?_, ?_, fun i => getElem?_of_not_visited, ?_, again⟩
  · intro i low high inside
    have start := backfill_le s.slots first
    have due := (swept_count first stop length).1
    exact mem_visited.mpr (by omega)
  · rw [reparse_changed, ne_eq, List.ext_getElem?_iff, not_forall]
  · intro i visited
    rw [Document.line_eq_getD]
    exact reparse_follows visited
  · exact Bool.eq_false_iff.mpr fun changed => (reparse_changed ..).mp changed again

end Reparse

end LineStates

namespace Tokenizer

/-- The first line is taken to open a comment, and the second line has not been read. -/
def mistaken : LineStates GrammarState :=
  ⟨dashes, 1, [some (.markers true), none, some (.markers false)], 0⟩

/-- Asked for the last line only, the run starts at the line that is missing. -/
theorem reading_reports_and_settles_mistaken :
    (mistaken.reparse plain 2 3).visited = [1, 2] ∧
      (∃ i : Nat, (mistaken.reparse plain 2 3).states.slots[i]? ≠ mistaken.slots[i]?) ∧
      (mistaken.reparse plain 2 3).states.slots[0]? = some (some (.markers true)) ∧
      ((mistaken.reparse plain 2 3).states.reparse plain 2 3).changed = false := by
  have visited : (mistaken.reparse plain 2 3).visited = [1, 2] := by decide +kernel
  have changed : (mistaken.reparse plain 2 3).changed = true := by decide +kernel
  obtain ⟨-, reports, -, kept, settled, -⟩ :=
    LineStates.reading_reports_and_settles mistaken plain 2 3 (by decide)
  refine ⟨visited, reports.mp changed, kept 0 ?_, settled⟩
  rw [visited]
  decide

end Tokenizer

end EventXref
