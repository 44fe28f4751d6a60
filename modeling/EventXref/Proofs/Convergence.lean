import EventXref.Proofs.LineArithmetic

/-!
How far a change is followed. Reading goes on behind the new lines of the change until a line ends
in the state that is stored for it, so that the lines that are read are the new ones and those
behind them up to the first one whose state has not changed.
-/
namespace EventXref

namespace LineStates

variable {σ : Type} [DecidableEq σ]

def IsRead (slots : List (Option σ)) (i : Nat) : Prop := ∃ st, slots[i]? = some (some st)

omit [DecidableEq σ] in
theorem Complete.isRead {slots : List (Option σ)} (complete : Complete slots) {i : Nat}
    (inside : i < slots.length) : IsRead slots i := by
  obtain ⟨st, read⟩ := Option.isSome_iff_exists.mp (complete slots[i] (List.getElem_mem inside))
  exact ⟨st, by rw [List.getElem?_eq_getElem inside, read]⟩

section Sweep

variable (g : Grammar σ) (s : σ) (due : Nat) (unsettled : Bool) (lines : List (List Char))
  (slots : List (Option σ))

/-- The line before the `k`-th one has got another state than was stored for it. -/
def UnsettledAt : Nat → Prop
  | 0 => unsettled = true
  | k + 1 => slots[k]? ≠ (g.statesFrom s lines)[k]?.map some

/-- What makes a run of reading take the `k`-th line. -/
def GoesOn (k : Nat) : Prop :=
  k < due ∨ UnsettledAt g s unsettled lines slots k ∧ IsRead slots k

theorem goesOn_succ (line : List Char) (slot : Option σ) (k : Nat) :
    GoesOn g s due unsettled (line :: lines) (slot :: slots) (k + 1) ↔
      GoesOn g (g.tokenizeLine s line).endState (due - 1)
        (decide (slot ≠ some (g.tokenizeLine s line).endState)) lines slots k := by
  refine or_congr (by omega) ?_
  cases k with
  | zero => simp [UnsettledAt, IsRead, Grammar.statesFrom]
  | succ k => simp [UnsettledAt, IsRead, Grammar.statesFrom]

theorem sweep_exact :
    (∀ k < (sweep g s due unsettled lines slots).count,
      GoesOn g s due unsettled lines slots k) ∧
    ((sweep g s due unsettled lines slots).count < min lines.length slots.length →
      ¬ GoesOn g s due unsettled lines slots (sweep g s due unsettled lines slots).count) := by
  induction lines generalizing s due unsettled slots with
  | nil => simp [sweep]
  | cons line lines ih =>
    cases slots with
    | nil => simp [sweep]
    | cons slot slots =>
      have here : GoesOn g s due unsettled (line :: lines) (slot :: slots) 0 ↔
          (due > 0 ∨ (unsettled = true ∧ slot.isSome = true)) := by
        simp [GoesOn, UnsettledAt, IsRead, Option.isSome_iff_exists]
      simp only [sweep]
      split
      · rename_i takes
        obtain ⟨before, stop⟩ := ih (g.tokenizeLine s line).endState (due - 1)
          (decide (slot ≠ some (g.tokenizeLine s line).endState)) slots
        constructor
        · intro k low
          cases k with
          | zero => exact here.mpr takes
          | succ k => exact (goesOn_succ ..).mpr (before k (Nat.lt_of_succ_lt_succ low))
        · intro inside onward
          simp only [List.length_cons] at inside
          exact stop (by omega) ((goesOn_succ ..).mp onward)
      · rename_i stops
        exact ⟨fun k low => absurd low (Nat.not_lt_zero k), fun _ onward => stops (here.mp onward)⟩

end Sweep

section Backfill

omit [DecidableEq σ]

variable {slots : List (Option σ)} {line i : Nat}

theorem unread_behind_backfill (low : backfill slots line ≤ i) (high : i < line) :
    ¬ IsRead slots i := by
  -- From the back the slots are a run of empty ones, and then what `backfill` counts.
  have whole := congrArg List.reverse (List.takeWhile_append_dropWhile (p := Option.isNone)
    (l := (slots.take line).reverse))
  rw [List.reverse_append, List.reverse_reverse] at whole
  rintro ⟨st, stored⟩
  rw [← List.getElem?_take_of_lt high, ← whole,
    List.getElem?_append_right (by rwa [List.length_reverse])] at stored
  have empty := List.mem_takeWhile_imp (List.mem_reverse.mp (List.mem_of_getElem? stored))
  simp at empty

theorem isRead_before_backfill {s : LineStates σ} (start : backfill s.slots line = i + 1) :
    IsRead s.slots i := by
  have known := before_backfill s line
  rw [start] at known
  exact ⟨_, Option.join_eq_some_iff.mp known⟩

theorem backfill_of_read (read : ∀ i, i + 1 = line → IsRead slots i) :
    backfill slots line = line := by
  have bound := backfill_le slots line
  by_contra early
  obtain ⟨i, rfl⟩ : ∃ i, line = i + 1 := ⟨line - 1, by omega⟩
  have late : backfill slots (i + 1) ≤ i := by omega
  exact unread_behind_backfill late (Nat.lt_succ_self i) (read i rfl)

end Backfill

/-- What is known of a run of reading that starts at line `b`. -/
theorem swept_exact {s : LineStates σ} {d : Document} {first b : Nat} (stop : Nat)
    (start : backfill s.slots first = b) (length : s.slots.length = d.lineCount) :
    (∀ k < (s.swept d first stop).count,
      GoesOn s.grammar (s.stateBefore b) (min stop s.slots.length - b) false (d.lines.drop b)
        (s.slots.drop b) k) ∧
    (b + (s.swept d first stop).count < s.slots.length →
      ¬ GoesOn s.grammar (s.stateBefore b) (min stop s.slots.length - b) false (d.lines.drop b)
        (s.slots.drop b) (s.swept d first stop).count) := by
  subst start
  obtain ⟨goes, stops⟩ := sweep_exact s.grammar (s.stateBefore (backfill s.slots first))
    (min stop s.slots.length - backfill s.slots first) false
    (d.lines.drop (backfill s.slots first)) (s.slots.drop (backfill s.slots first))
  refine ⟨goes, fun inside => stops ?_⟩
  rw [List.length_drop, List.length_drop, length_lines, ← length, Nat.min_self]
  exact Nat.lt_sub_of_add_lt (Nat.add_comm _ _ ▸ inside)

variable {s : LineStates σ} {d d' : Document} {c : Change}

def moved (s : LineStates σ) (c : Change) : LineStates σ := { s with slots := splice s.slots c }

theorem change_one (newer : s.version < d'.version)
    (fits : (s.moved c).slots.length = d'.lineCount) :
    (s.change d' [c]).2 = ((s.moved c).reparse d' c.firstLine c.endLine).visited := by
  have fresh : ¬ d'.version ≤ s.version := by omega
  simp only [moved] at fits ⊢
  simp [LineStates.change, fresh, Change.lastFirst, Change.insertLast, fits, newLines,
    reparseRanges, Change.endLine]

/-- Line `j` ends in the state that was stored for the line in its place before the change. -/
def Settles (s : LineStates σ) (c : Change) (d' : Document) (j : Nat) : Prop :=
  s.slots[(j - c.lineDelta).toNat]? = (s.grammar.states d'.lines)[j]?.map some

instance (s : LineStates σ) (c : Change) (d' : Document) (j : Nat) : Decidable (s.Settles c d' j) :=
  inferInstanceAs (Decidable (_ = _))

/-- The first line that settles, from the last new line on; the last line if none does. -/
def lastRead (s : LineStates σ) (c : Change) (d' : Document) : Nat :=
  ((List.range d'.lineCount).find? fun j => c.endLine ≤ j + 1 ∧ s.Settles c d' j).getD
    (d'.lineCount - 1)

theorem lastRead_eq {j : Nat} (behind : c.endLine ≤ j + 1) (inside : j < d'.lineCount)
    (unsettled : ∀ i, c.endLine ≤ i + 1 → i < j → ¬ s.Settles c d' i)
    (settled : s.Settles c d' j ∨ j + 1 = d'.lineCount) : s.lastRead c d' = j := by
  have earlier : ∀ i < j, ¬ (c.endLine ≤ i + 1 ∧ s.Settles c d' i) :=
    fun i low settles => unsettled i settles.1 low settles.2
  rw [lastRead]
  by_cases here : s.Settles c d' j
  · have found : (List.range d'.lineCount).find?
        (fun j => decide (c.endLine ≤ j + 1 ∧ s.Settles c d' j)) = some j := by
      apply List.find?_range_eq_some.mpr
      refine ⟨decide_eq_true ⟨behind, here⟩, List.mem_range.mpr inside, ?_⟩
      intro i low
      rw [decide_eq_false (earlier i low)]
      rfl
    rw [found, Option.getD_some]
  · have last := settled.resolve_left here
    have none : (List.range d'.lineCount).find?
        (fun j => decide (c.endLine ≤ j + 1 ∧ s.Settles c d' j)) = none := by
      rw [List.find?_eq_none]
      intro i member
      have low := List.mem_range.mp member
      by_cases same : i = j
      · simp [same, here]
      · simpa using not_and.mp (earlier i (by omega))
    rw [none, Option.getD_none]
    omega

section Moved

variable (order : c.span.start.line ≤ c.span.stop.line)
  (inside : c.span.stop.line < s.slots.length)

include order inside

omit [DecidableEq σ]

theorem getElem?_moved_before {i : Nat} (before : i < c.span.start.line) :
    (s.moved c).slots[i]? = s.slots[i]? := by
  rw [moved, splice_eq order inside, List.getElem?_append_left (by simp; omega),
    List.getElem?_take_of_lt before]

theorem getElem?_moved_behind {j : Nat} (behind : c.endLine ≤ j + 1) :
    (s.moved c).slots[j]? = s.slots[(j - c.lineDelta).toNat]? := by
  simp only [Change.endLine, Change.firstLine] at behind
  have place : ((j : Int) - c.lineDelta).toNat =
      c.span.stop.line + (j - c.span.start.line - c.insertedBreaks) := by
    simp only [Change.lineDelta, Span.lines]
    omega
  rw [moved, splice_eq order inside, List.getElem?_append_right (by simp; omega),
    List.getElem?_append_right (by simp; omega), List.getElem?_drop, place]
  simp only [List.length_take, List.length_replicate]
  congr 2
  omega

theorem length_moved :
    (s.moved c).slots.length + c.span.lines = s.slots.length + c.insertedBreaks := by
  rw [moved, splice_eq order inside, Span.lines]
  simp only [List.length_append, List.length_take, List.length_replicate, List.length_drop]
  omega

theorem moved_backfill (complete : Complete s.slots) :
    backfill (s.moved c).slots c.firstLine = c.firstLine := by
  apply backfill_of_read
  intro i before
  rw [Change.firstLine] at before
  rw [IsRead, getElem?_moved_before order inside (by omega)]
  exact complete.isRead (by omega)

theorem moved_stateBefore (sound : s.Sound d) (complete : Complete s.slots)
    (same : ∀ i < c.firstLine, d'.lines[i]? = d.lines[i]?) :
    (s.moved c).stateBefore c.firstLine =
      s.grammar.after s.grammar.initial (d'.lines.take c.firstLine) := by
  have lines : d'.lines.take c.firstLine = d.lines.take c.firstLine := by
    apply List.ext_getElem?
    intro i
    by_cases before : i < c.firstLine
    · rw [List.getElem?_take_of_lt before, List.getElem?_take_of_lt before, same i before]
    · simp only [List.getElem?_take, before, if_false]
  have stored : (s.moved c).stateBefore c.firstLine = s.stateBefore c.firstLine := by
    cases line : c.firstLine with
    | zero => rfl
    | succ i =>
      rw [Change.firstLine] at line
      simp only [stateBefore, List.getD_eq_getElem?_getD]
      rw [getElem?_moved_before order inside (by omega)]
      rfl
  have read : backfill s.slots c.firstLine = c.firstLine := by
    apply backfill_of_read
    intro i before
    rw [Change.firstLine] at before
    exact complete.isRead (by omega)
  have here := sound.backfill_state c.firstLine
  rw [read] at here
  rw [stored, lines, here]

/-- Behind the new lines a run of reading takes the next line as long as none has settled. -/
theorem goesOn_moved (complete : Complete s.slots) {st : σ} {due : Nat} {unsettled : Bool}
    (right : st = s.grammar.after s.grammar.initial (d'.lines.take c.firstLine)) {k : Nat}
    (behind : c.endLine ≤ c.firstLine + k + 1) (read : due ≤ k + 1)
    (next : c.firstLine + k + 1 < (s.moved c).slots.length) :
    GoesOn s.grammar st due unsettled (d'.lines.drop c.firstLine)
      ((s.moved c).slots.drop c.firstLine) (k + 1) ↔ ¬ s.Settles c d' (c.firstLine + k) := by
  have here := getElem?_moved_behind order inside behind
  have there := getElem?_moved_behind (j := c.firstLine + k + 1) order inside (by omega)
  have stored : IsRead ((s.moved c).slots.drop c.firstLine) (k + 1) := by
    rw [IsRead, List.getElem?_drop, ← Nat.add_assoc, there]
    apply complete.isRead
    have size := length_moved order inside
    rw [Change.lineDelta]
    simp only [Change.endLine] at behind
    omega
  simp only [GoesOn, UnsettledAt, Settles, List.getElem?_drop, right, Grammar.statesFrom_drop, here]
  simp [Nat.not_lt.mpr read, stored, Grammar.states]

end Moved

theorem change_visits (sound : s.Sound d) (complete : Complete s.slots)
    (first : d.InContent c.span.start) (last : d.InContent c.span.stop)
    (edited : d.edit [c] = .ok d') (counts : (d'.lineCount : Int) = d.lineCount + c.lineDelta) :
    (s.change d' [c]).2 = List.range' c.firstLine (s.lastRead c d' + 1 - c.firstLine) := by
  obtain ⟨start, stop, fits⟩ := Document.fits_of_edit edited counts
  have order : c.span.start.line ≤ c.span.stop.line := by
    have lines := (Document.cutAt_of_byteOf fits.first first).breaks_slice
      (Document.cutAt_of_byteOf fits.last last) fits.order
    omega
  have inside : c.span.stop.line < s.slots.length := by
    rw [sound.length]
    exact Document.line_lt_of_byteOf fits.last
  have size := length_moved order inside
  have length : (s.moved c).slots.length = d'.lineCount := by
    have known := sound.length
    simp only [Change.lineDelta] at counts
    omega
  have newer : s.version < d'.version := by
    rw [sound.version, (Document.edit_keeps edited).2.2]
    omega
  have start := moved_backfill order inside complete
  have right := moved_stateBefore order inside sound complete
    fun i before => fits.lines_before_change before
  obtain ⟨low, high⟩ := swept_count (s := s.moved c) c.firstLine c.endLine length
  obtain ⟨goes, stops⟩ := swept_exact c.endLine start length
  rw [change_one newer length]
  show List.range' (backfill (s.moved c).slots c.firstLine)
    ((s.moved c).swept d' c.firstLine c.endLine).count = _
  rw [start] at low high ⊢
  generalize ((s.moved c).swept d' c.firstLine c.endLine).count = n at *
  have ends : c.endLine = c.firstLine + c.insertedBreaks + 1 := rfl
  have reach : c.endLine ≤ (s.moved c).slots.length := by
    have begins : c.firstLine = c.span.start.line := rfl
    have lines : c.span.lines = c.span.stop.line - c.span.start.line := rfl
    omega
  rw [Nat.min_eq_left reach] at low goes stops
  obtain ⟨k, rfl⟩ : ∃ k, n = k + 1 := ⟨n - 1, by omega⟩
  -- The run goes past each line that does not settle, and stops at the first that does.
  have last : s.lastRead c d' = c.firstLine + k := by
    apply lastRead_eq (by omega) (by omega)
    · intro i behind low
      obtain ⟨m, rfl⟩ : ∃ m, i = c.firstLine + m := ⟨i - c.firstLine, by omega⟩
      exact (goesOn_moved order inside complete right behind (by omega) (by omega)).mp
        (goes (m + 1) (by omega))
    · rcases Nat.lt_or_ge (c.firstLine + k + 1) (s.moved c).slots.length with next | none
      · have settles := mt (goesOn_moved order inside complete right (by omega) (by omega) next).mpr
          (stops next)
        exact .inl (Decidable.not_not.mp settles)
      · exact .inr (by omega)
  rw [last]
  congr 1
  omega

end LineStates

namespace Tokenizer

variable {σ : Type} [DecidableEq σ] {t : Tokenizer σ} {s : LineStates σ} {d d' : Document}
  {c : Change}

/-- When all lines of a document have been read, following a change within contents reads the lines
from the one it starts on up to the first one that settles, each of them once. -/
theorem change_reads_until_settled (tracked : t.documents[d.uri]? = some s) (sound : s.Sound d)
    (complete : LineStates.Complete s.slots) (first : d.InContent c.span.start)
    (last : d.InContent c.span.stop) (edited : d.edit [c] = .ok d')
    (counts : (d'.lineCount : Int) = d.lineCount + c.lineDelta) :
    (s.change d' [c]).2 = List.range' c.firstLine (s.lastRead c d' + 1 - c.firstLine) ∧
      (t.change d' [c]).documents = t.documents.insert d.uri (s.change d' [c]).1 ∧
      (t.change d' [c]).calls = t.calls + (s.lastRead c d' + 1 - c.firstLine) := by
  have visits := LineStates.change_visits sound complete first last edited counts
  have same := (Document.edit_keeps edited).1
  refine ⟨visits, ?_, ?_⟩
  · rw [change_documents t d' [c] (same ▸ tracked), same]
  · simp only [change, same, tracked, store, visits, List.length_range']

/-- The comment that reaches into the second line is no longer opened. -/
def closeComment : Change := ⟨⟨⟨0, 1⟩, ⟨0, 6⟩⟩, []⟩

def closed : Document := snapshot 2 "x\nf() ]]\ny"

theorem change_reads_until_settled_comment :
    commented.edit [closeComment] = .ok closed ∧
      ((readOnce dashes commented).change closed [closeComment]).2 = [0, 1] ∧
      ((keeping (readOnce dashes commented) commented).change closed [closeComment]).calls = 2 := by
  have edited : commented.edit [closeComment] = .ok closed := by rfl
  have read : (readOnce dashes commented).lastRead closeComment closed = 1 := by decide +kernel
  obtain ⟨visits, -, calls⟩ := change_reads_until_settled
    (keeping_tracks (readOnce dashes commented) commented) (readOnce_sound dashes commented).1
    (LineStates.reparseAll_sound (LineStates.fresh_sound dashes commented).version
      (LineStates.fresh_sound dashes commented).length).2
    (by decide) (by decide) edited (by decide)
  rw [read] at visits calls
  exact ⟨edited, visits, calls⟩

end Tokenizer

end EventXref
