import EventXref.Proofs.LineArithmetic

namespace EventXref

theorem Position.not_le_iff {p q : Position} : ¬ q ≤ p ↔ compare p q = .lt := by
  show ¬ (compare q p).isLE ↔ _
  rw [Std.OrientedOrd.eq_swap (a := q) (b := p)]
  cases compare p q <;> decide

namespace Document

def fullSize (d : Document) (line : Nat) : Nat := Text.size (d.fullLines.getD line [])

/-- The second position is the start of the line behind the one that the first position ends. -/
def Meets (d : Document) (p q : Position) : Prop :=
  p.column = d.fullSize p.line ∧ q = ⟨p.line + 1, 0⟩

theorem isSome_offset? {ls : List (List Char)} {line column : Nat} :
    (offset? ls ⟨line, column⟩).isSome = true ↔
      line < ls.length ∧ column ≤ Text.size (ls.getD line []) := by
  induction ls generalizing line with
  | nil => simp [offset?]
  | cons l ls ih =>
    cases line with
    | zero => simp [offset?]
    | succ line => simp [offset?, ih]

variable {d : Document} {p q : Position} {a b i : Nat}

theorem isSome_byteOf? :
    (d.byteOf? p).isSome = true ↔ p.line < d.lineCount ∧ p.column ≤ d.fullSize p.line := by
  rw [byteOf?, ← length_fullLines]
  exact isSome_offset?

theorem byteOf_positionOf (within : a ≤ Text.size d.text) :
    d.byteOf? (d.positionOf a) = some a := by
  have whole : d.fullLines.flatten = d.text := Text.flatten_splitLines d.text
  have nonempty : d.fullLines ≠ [] := Text.splitLines_ne_nil d.text
  obtain ⟨pre, l, post, column, lines, rfl, reaches, inside⟩ :=
    exists_line nonempty (whole ▸ within)
  rw [positionOf, Nat.min_eq_left within, byteOf?, lines, locate_append inside]
  exact offset?_append.mpr ⟨reaches, rfl⟩

theorem compare_positionOf (less : a < b) (within : b ≤ Text.size d.text) :
    compare (d.positionOf a) (d.positionOf b) = .lt := by
  apply Position.not_le_iff.mp
  intro le
  have back := byteOf_mono le (byteOf_positionOf within) (byteOf_positionOf (by omega : a ≤ _))
  omega

theorem Splits.fullSize_eq {pre post : List (List Char)} {ending : List Char}
    (splits : d.Splits i pre ending post) : d.fullSize i = Text.size (d.line i ++ ending) := by
  obtain rfl := splits.length
  rw [fullSize, splits.lines]
  simp

/-- A line that is not the last one takes at least the bytes of its break. -/
theorem lineStart_succ (start : d.byteOf? ⟨i, 0⟩ = some a) (next : d.byteOf? ⟨i + 1, 0⟩ = some b) :
    b = a + d.fullSize i ∧ 0 < d.fullSize i := by
  obtain ⟨pre, ending, post, splits⟩ := exists_splits_of_lt (line_lt_of_byteOf start)
  have size := splits.fullSize_eq
  have inside : i + 1 < d.fullLines.length := by
    rw [length_fullLines]
    exact line_lt_of_byteOf next
  obtain ⟨l, post, rfl⟩ : ∃ l ls, post = l :: ls := by
    apply List.exists_cons_of_ne_nil
    rintro rfl
    simp [splits.lines, splits.length] at inside
  have ended : ending ≠ [] := fun none => List.cons_ne_nil l post (splits.open_ none)
  constructor
  · obtain ⟨-, rfl⟩ := splits.byteOf?_iff.mp start
    have length : (pre ++ [d.line i ++ ending]).length = i + 1 := by simp [splits.length]
    rw [byteOf?, splits.lines, List.append_cons, ← length] at next
    obtain ⟨-, rfl⟩ := offset?_append.mp next
    simp [size]
  · have some := Text.size_pos ended
    rw [size, Text.size_append]
    omega

theorem eq_lineStart_add (found : d.byteOf? p = some a)
    (start : d.byteOf? ⟨p.line, 0⟩ = some b) : a = b + p.column := by
  obtain ⟨pre, ending, post, splits⟩ := exists_splits_of_lt (line_lt_of_byteOf found)
  obtain ⟨-, rfl⟩ := splits.byteOf?_iff.mp start
  exact (splits.byteOf?_iff.mp found).2

theorem byteOf_meets (found : d.byteOf? p = some a) (meets : d.Meets p q) :
    ∀ b, d.byteOf? q = some b → a = b := by
  obtain ⟨full, rfl⟩ := meets
  intro b next
  obtain ⟨start, first⟩ := exists_lineStart (line_lt_of_byteOf found)
  obtain ⟨rfl, -⟩ := lineStart_succ first next
  rw [eq_lineStart_add found first, full]

/-- Bytes on different lines are equal only at the seam of two neighbours: the lines in between
would have to be empty, and a line without a break is the last one. -/
theorem meets_of_lt (order : p.line < q.line) (found : d.byteOf? p = some a)
    (found' : d.byteOf? q = some a) : d.Meets p q := by
  have inside := line_lt_of_byteOf found'
  obtain ⟨start, first⟩ := exists_lineStart (line_lt_of_byteOf found)
  obtain ⟨b, next⟩ := exists_lineStart (by omega : p.line + 1 < d.lineCount)
  have after := le_lineStart next found (Nat.lt_succ_self _)
  have before := lineStart_le next found' order
  obtain rfl : a = b := Nat.le_antisymm after before
  obtain ⟨seam, -⟩ := lineStart_succ first next
  have column := eq_lineStart_add found first
  refine ⟨by omega, ?_⟩
  rcases Nat.lt_or_ge (p.line + 1) q.line with further | near
  · obtain ⟨c, behind⟩ := exists_lineStart (by omega : p.line + 1 + 1 < d.lineCount)
    have reach := lineStart_le behind found' further
    obtain ⟨sum, filled⟩ := lineStart_succ next behind
    omega
  · have line : q.line = p.line + 1 := by omega
    rw [← line] at next
    have same := eq_lineStart_add found' next
    obtain ⟨qline, qcolumn⟩ := q
    simp only at line same
    rw [line, show qcolumn = 0 by omega]

theorem eq_byteOf_iff (found : d.byteOf? p = some a) (found' : d.byteOf? q = some b) :
    a = b ↔ p = q ∨ d.Meets p q ∨ d.Meets q p := by
  constructor
  · rintro rfl
    rcases Nat.lt_trichotomy p.line q.line with before | same | behind
    · exact .inr (.inl (meets_of_lt before found found'))
    · left
      obtain ⟨line, column⟩ := p
      obtain ⟨line', column'⟩ := q
      cases same
      rw [offset?_column_inj found found']
    · exact .inr (.inr (meets_of_lt behind found' found))
  · rintro (rfl | meets | meets)
    · exact Option.some.inj (found.symm.trans found')
    · exact byteOf_meets found meets b found'
    · exact (byteOf_meets found' meets a found).symm

theorem clamp_of_inContent (inside : p.line < d.lineCount) (within : d.InContent p) :
    d.clamp p = p := by
  have row : min p.line (d.lineCount - 1) = p.line := by omega
  rw [clamp, row, Nat.min_eq_left within]

theorem clamp_inContent (d : Document) (p : Position) : d.InContent (d.clamp p) :=
  Nat.min_le_right _ _

theorem size_line_le (d : Document) (i : Nat) : Text.size (d.line i) ≤ d.fullSize i := by
  obtain ⟨ending, whole, -⟩ := Text.exists_content_append (d.fullLines.getD i [])
  rw [fullSize, whole, line, Text.size_append]
  exact Nat.le_add_right _ _

/-- A position for every byte, in the same order and with the way back; a byte for every position
that has its line and a column no further than the line's ending, again in order, and one byte for
two of them only at the end of a line; and the nearest position is one of those, is its own nearest
one, and is a position itself inside the content of a line. -/
theorem bytes_and_positions_in_order (d : Document) :
    (∀ a b, a < b → b ≤ Text.size d.text →
      compare (d.positionOf a) (d.positionOf b) = .lt) ∧
    (∀ a, a ≤ Text.size d.text → d.byteOf? (d.positionOf a) = some a) ∧
    (∀ p : Position, (d.byteOf? p).isSome = true ↔
      p.line < d.lineCount ∧ p.column ≤ Text.size (d.fullLines.getD p.line [])) ∧
    (∀ p q a b, d.byteOf? p = some a → d.byteOf? q = some b →
      (p ≤ q → a ≤ b) ∧ (a = b ↔ p = q ∨ d.Meets p q ∨ d.Meets q p)) ∧
    ∀ p : Position, (d.byteOf? (d.clamp p)).isSome = true ∧ d.clamp (d.clamp p) = d.clamp p ∧
      (p.line < d.lineCount → d.InContent p → d.clamp p = p) := by
  refine ⟨fun a b => compare_positionOf, fun a => byteOf_positionOf, fun p => isSome_byteOf?,
    fun p q a b found found' => ⟨fun le => byteOf_mono le found found', eq_byteOf_iff found found'⟩,
    fun p => ?_⟩
  have inside := d.clamp_line_lt p
  have within := d.clamp_inContent p
  refine ⟨?_, clamp_of_inContent inside within, clamp_of_inContent⟩
  exact isSome_byteOf?.mpr ⟨inside, Nat.le_trans within (d.size_line_le _)⟩

end Document

end EventXref
