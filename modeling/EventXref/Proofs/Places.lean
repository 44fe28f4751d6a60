import EventXref.Proofs.Batch

namespace EventXref

namespace Text

theorem size_pos {t : List Char} (nonempty : t ≠ []) : 0 < size t := by
  cases t with
  | nil => contradiction
  | cons c t => exact Nat.add_pos_left c.utf8Size_pos _

/-- Of two ways to cut a text, the one that cuts later goes on from the earlier one. -/
theorem exists_append_of_size_le {a b c d : List Char} (same : a ++ b = c ++ d)
    (le : size a ≤ size c) : ∃ between, c = a ++ between ∧ b = between ++ d := by
  rcases List.append_eq_append_iff.mp same with found | ⟨more, long, rest⟩
  · exact found
  · have none : more = [] := by
      by_contra some
      have := size_pos some
      rw [long, size_append] at le
      omega
    subst none
    exact ⟨[], by simpa using long.symm, by simpa using rest.symm⟩

theorem content_lt_of_mem_dropLast (t : List Char) :
    ∀ l ∈ (splitLines t).dropLast, size (content l) < size l := by
  fun_induction splitLines t with
  | case1 => simp
  | case2 t ih =>
    rw [List.dropLast_cons_of_ne_nil (splitLines_ne_nil t)]
    exact List.forall_mem_cons.mpr ⟨by decide, ih⟩
  | case3 c t _ ending ih =>
    rw [List.dropLast_cons_of_ne_nil (splitLines_ne_nil t)]
    refine List.forall_mem_cons.mpr ⟨?_, ih⟩
    have empty : content [c] = [] := by simp [content, trimEnd, ending]
    simp [empty, c.utf8Size_pos]
  | case4 c t _ plain ih =>
    cases lines : splitLines t with
    | nil => exact absurd lines (splitLines_ne_nil t)
    | cons l ls =>
      rw [lines] at ih
      cases ls with
      | nil => simp [consLine]
      | cons l' ls =>
        simp only [List.dropLast_cons_cons, List.forall_mem_cons, consLine] at ih ⊢
        obtain ⟨here, rest⟩ := ih
        refine ⟨?_, rest⟩
        rw [content_plain (by simpa using plain), size_cons, size_cons]
        omega

end Text

namespace Document

theorem offset?_append {pre post : List (List Char)} {l : List Char} {column a : Nat} :
    offset? (pre ++ l :: post) ⟨pre.length, column⟩ = some a ↔
      column ≤ Text.size l ∧ a = Text.size pre.flatten + column := by
  induction pre generalizing a with
  | nil => simpa using offset?_first
  | cons l' pre ih =>
    rw [List.cons_append, List.length_cons, offset?_later]
    simp only [ih, List.flatten_cons, Text.size_append]
    constructor
    · rintro ⟨_, ⟨reaches, rfl⟩, rfl⟩
      exact ⟨reaches, by omega⟩
    · rintro ⟨reaches, rfl⟩
      exact ⟨_, ⟨reaches, rfl⟩, by omega⟩

/-- The position of an offset among lines is on the line that goes on behind it, if there is one. -/
theorem locate_append {pre post : List (List Char)} {l : List Char} {column : Nat}
    (inside : column < Text.size l ∨ post = []) :
    locate (pre ++ l :: post) (Text.size pre.flatten + column) = ⟨pre.length, column⟩ := by
  induction pre with
  | nil =>
    cases post with
    | nil => simp [locate]
    | cons l' post =>
      have within : column < Text.size l := by simpa using inside
      simp [locate, within]
  | cons l' pre ih =>
    have more : pre ++ l :: post ≠ [] := by simp
    obtain ⟨next, rest, lines⟩ := List.exists_cons_of_ne_nil more
    have behind : ¬ Text.size (l' :: pre).flatten + column < Text.size l' := by
      simp only [List.flatten_cons, Text.size_append]
      omega
    have left : Text.size (l' :: pre).flatten + column - Text.size l' =
        Text.size pre.flatten + column := by
      simp only [List.flatten_cons, Text.size_append]
      omega
    rw [List.cons_append, lines, locate, if_neg behind, left, ← lines, ih]
    · rfl
    · simp

/-- Every offset of a text lies on one of its lines. -/
theorem exists_line {ls : List (List Char)} (nonempty : ls ≠ []) {a : Nat}
    (within : a ≤ Text.size ls.flatten) :
    ∃ pre l post column, ls = pre ++ l :: post ∧ a = Text.size pre.flatten + column ∧
      column ≤ Text.size l ∧ (column < Text.size l ∨ post = []) := by
  induction ls generalizing a with
  | nil => contradiction
  | cons l ls ih =>
    rw [List.flatten_cons, Text.size_append] at within
    by_cases here : a < Text.size l
    · exact ⟨[], l, ls, a, rfl, by simp, by omega, .inl here⟩
    · by_cases last : ls = []
      · subst last
        simp only [List.flatten_nil, Text.size_nil] at within
        exact ⟨[], l, [], a, rfl, by simp, by omega, .inr rfl⟩
      · have rest : a - Text.size l ≤ Text.size ls.flatten := by omega
        obtain ⟨pre, l', post, column, rfl, sum, reaches, inside⟩ := ih last rest
        refine ⟨l :: pre, l', post, column, rfl, ?_, reaches, inside⟩
        rw [List.flatten_cons, Text.size_append]
        omega

/-- A line of a document with its ending, between the lines before and behind it. -/
structure Splits (d : Document) (line : Nat) (pre : List (List Char)) (ending : List Char)
    (post : List (List Char)) : Prop where
  lines : d.fullLines = pre ++ (d.line line ++ ending) :: post
  length : pre.length = line
  ends : ∀ c ∈ ending, Text.isBreak c = true
  open_ : ending = [] → post = []

variable {d : Document} {line column a : Nat} {pre post : List (List Char)} {ending : List Char}

theorem exists_splits {l : List Char} (lines : d.fullLines = pre ++ l :: post) :
    ∃ ending, l = d.line pre.length ++ ending ∧ d.Splits pre.length pre ending post := by
  have content : d.line pre.length = Text.content l := by simp [line, lines]
  obtain ⟨ending, whole, breaks⟩ := Text.exists_content_append l
  rw [← content] at whole
  refine ⟨ending, whole, by rw [← whole, lines], rfl, breaks, ?_⟩
  rintro rfl
  by_contra more
  have member : l ∈ (Text.splitLines d.text).dropLast := by
    rw [← fullLines, lines, List.dropLast_append_of_ne_nil (by simp),
      List.dropLast_cons_of_ne_nil more]
    simp
  have shorter := Text.content_lt_of_mem_dropLast d.text l member
  rw [← content, ← List.append_nil (d.line pre.length), ← whole] at shorter
  omega

theorem exists_splits_of_lt (inside : line < d.lineCount) :
    ∃ pre ending post, d.Splits line pre ending post := by
  rw [← length_fullLines] at inside
  have lines : d.fullLines = d.fullLines.take line ++
      d.fullLines[line] :: d.fullLines.drop (line + 1) := by
    rw [List.getElem_cons_drop, List.take_append_drop]
  obtain ⟨ending, -, splits⟩ := exists_splits lines
  rw [List.length_take_of_le (Nat.le_of_lt inside)] at splits
  exact ⟨_, ending, _, splits⟩

namespace Splits

theorem text_eq (splits : d.Splits line pre ending post) :
    d.text = pre.flatten ++ (d.line line ++ (ending ++ post.flatten)) := by
  rw [← Text.flatten_splitLines d.text, ← fullLines, splits.lines]
  simp

theorem lt_lineCount (splits : d.Splits line pre ending post) : line < d.lineCount := by
  rw [← length_fullLines, splits.lines, ← splits.length]
  simp

/-- Behind the content of a line there is a break, or nothing. -/
theorem isBreak_head (splits : d.Splits line pre ending post) :
    ∀ c ∈ (ending ++ post.flatten).head?, Text.isBreak c = true := by
  intro c here
  cases breaks : ending with
  | nil => simp [breaks, splits.open_ breaks] at here
  | cons e es =>
    have first : e = c := by simpa [breaks] using here
    exact splits.ends c (by simp [breaks, first])

theorem byteOf?_iff (splits : d.Splits line pre ending post) :
    d.byteOf? ⟨line, column⟩ = some a ↔
      column ≤ Text.size (d.line line ++ ending) ∧ a = Text.size pre.flatten + column := by
  rw [byteOf?, splits.lines, ← splits.length]
  exact offset?_append

theorem positionOf_of_lt (splits : d.Splits line pre ending post)
    (reaches : column ≤ Text.size (d.line line ++ ending))
    (inside : column < Text.size (d.line line ++ ending) ∨ post = []) :
    d.positionOf (Text.size pre.flatten + column) = ⟨line, column⟩ := by
  have within : Text.size pre.flatten + column ≤ Text.size d.text := by
    simp only [splits.text_eq, Text.size_append] at reaches ⊢
    omega
  rw [positionOf, Nat.min_eq_left within, splits.lines, locate_append inside, splits.length]

theorem positionOf_eq (splits : d.Splits line pre ending post)
    (inside : column ≤ Text.size (d.line line)) :
    d.positionOf (Text.size pre.flatten + column) = ⟨line, column⟩ := by
  apply splits.positionOf_of_lt
  · rw [Text.size_append]
    omega
  · by_cases last : ending = []
    · exact .inr (splits.open_ last)
    · have some := Text.size_pos last
      rw [Text.size_append]
      exact .inl (by omega)

theorem clamp_eq (splits : d.Splits line pre ending post) (column : Nat) :
    d.clamp ⟨line, column⟩ = ⟨line, min column (Text.size (d.line line))⟩ := by
  have bound := splits.lt_lineCount
  have row : min line (d.lineCount - 1) = line := by omega
  rw [clamp, row]

end Splits

/-- An offset lies inside of the content of a line, or else what follows it is a break or nothing. -/
theorem exists_place (d : Document) (within : a ≤ Text.size d.text) :
    ∃ line pre ending post column, d.Splits line pre ending post ∧
      a = Text.size pre.flatten + column ∧ d.positionOf a = ⟨line, column⟩ ∧
      (column < Text.size (d.line line) ∨
        Text.size (d.line line) ≤ column ∧
          ∀ c ∈ (Text.dropBytes a d.text).head?, Text.isBreak c = true) := by
  rw [← Text.flatten_splitLines d.text, ← fullLines] at within
  obtain ⟨pre, l, post, column, lines, rfl, reaches, inside⟩ :=
    exists_line (Text.splitLines_ne_nil d.text) within
  obtain ⟨ending, rfl, splits⟩ := exists_splits lines
  have place := splits.positionOf_of_lt reaches inside
  refine ⟨_, pre, ending, post, column, splits, rfl, place, ?_⟩
  by_cases content : column < Text.size (d.line pre.length)
  · exact .inl content
  refine .inr ⟨by omega, ?_⟩
  -- The offset stands in the ending, and its rest is empty only on the last line.
  obtain ⟨k, rfl⟩ := Nat.exists_eq_add_of_le (Nat.le_of_not_lt content)
  rw [Text.size_append] at reaches inside
  rw [splits.text_eq, Text.dropBytes_size_add, Text.dropBytes_size_add,
    Text.dropBytes_append (by omega)]
  intro c here
  cases rest : Text.dropBytes k ending with
  | nil =>
    have whole := Text.takeBytes_append_dropBytes k ending
    rw [rest, List.append_nil] at whole
    have short := Text.size_takeBytes_le k ending
    rw [whole] at short
    have last : post = [] := by
      rcases inside with before | last
      · omega
      · exact last
    simp [rest, last] at here
  | cons e es =>
    have first : e = c := by simpa [rest] using here
    apply splits.ends
    rw [← Text.takeBytes_append_dropBytes k ending, rest, first]
    simp

end Document

end EventXref
