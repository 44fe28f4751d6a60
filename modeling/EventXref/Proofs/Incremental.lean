import EventXref.Proofs.Batch
import EventXref.Proofs.LineStates

/-!
Line states through a batch of changes. The slots are moved change by change, from the last to the
first, and so are the lines of the text. If the two line counts agree in the end, no break has been
put together from two parts, and outside of the new lines of all changes every slot stands at the
line it stood at before, behind the same slot as before. Reading the new lines, again from the last
change to the first, then links all of them.
-/
namespace EventXref

def Text.contents (t : List Char) : List (List Char) := (Text.splitLines t).map Text.content

theorem Text.getD_contents_congr {t t' : List Char} {i j : Nat}
    (same : (Text.splitLines t)[i]? = (Text.splitLines t')[j]?) :
    (Text.contents t).getD i [] = (Text.contents t').getD j [] := by
  simp only [Text.contents, List.getD_eq_getElem?_getD, List.getElem?_map, same]

namespace LineStates

variable {σ : Type}

/-- The slots from a line on when changes in ascending order move them at once. -/
def carried (slots : List (Option σ)) : Nat → List Change → List (Option σ)
  | line, [] => slots.drop line
  | line, c :: cs =>
    (slots.take c.span.start.line).drop line ++
      (List.replicate c.insertedBreaks none ++ carried slots c.span.stop.line cs)

/-- Each change starts no earlier than on the line on which the one before ends. -/
def LinesAscend (count : Nat) : Nat → List Change → Prop
  | line, [] => line < count
  | line, c :: cs =>
    line ≤ c.span.start.line ∧ c.span.start.line ≤ c.span.stop.line ∧
      LinesAscend count c.span.stop.line cs

theorem LinesAscend.lt {count line : Nat} {cs : List Change} (ascend : LinesAscend count line cs) :
    line < count := by
  induction cs generalizing line with
  | nil => exact ascend
  | cons c cs ih =>
    obtain ⟨h₁, h₂, rest⟩ := ascend
    have := ih rest
    omega

theorem carried_ne_nil {slots : List (Option σ)} {line : Nat} {cs : List Change}
    (ascend : LinesAscend slots.length line cs) : carried slots line cs ≠ [] := by
  induction cs generalizing line with
  | nil =>
    intro empty
    have : slots.length ≤ line := List.drop_eq_nil_iff.mp empty
    exact absurd ascend (Nat.not_lt.mpr this)
  | cons c cs ih =>
    intro empty
    simp only [carried, List.append_eq_nil_iff] at empty
    exact ih ascend.2.2 empty.2.2

theorem splice_eq {slots : List (Option σ)} {c : Change}
    (order : c.span.start.line ≤ c.span.stop.line) (inside : c.span.stop.line < slots.length) :
    splice slots c = slots.take c.span.start.line ++
      (List.replicate c.insertedBreaks none ++ slots.drop c.span.stop.line) := by
  have first : min c.span.start.line (slots.length - 1) = c.span.start.line := by omega
  have last : max c.span.start.line (min c.span.stop.line (slots.length - 1)) =
      c.span.stop.line := by omega
  have slot : slots.getD c.span.stop.line none = slots[c.span.stop.line] := by
    rw [List.getD_eq_getElem?_getD, List.getElem?_eq_getElem inside, Option.getD_some]
  unfold splice
  split
  · simp at inside
  · simp only [first, last, slot]
    rw [List.append_assoc, List.append_assoc, List.singleton_append,
      List.getElem_cons_drop inside]

/-- Moving slots change by change, the last change first, is moving them at once. -/
theorem foldr_splice {slots : List (Option σ)} {line : Nat} {cs : List Change}
    (ascend : LinesAscend slots.length line cs) :
    cs.foldr (fun c moved => splice moved c) slots =
      slots.take line ++ carried slots line cs := by
  induction cs generalizing line with
  | nil => simp [carried]
  | cons c cs ih =>
    obtain ⟨le, order, rest⟩ := ascend
    have size := rest.lt
    have taken : (slots.take c.span.stop.line).length = c.span.stop.line := by
      rw [List.length_take]
      omega
    have filled := List.length_pos_of_ne_nil (carried_ne_nil rest)
    have inside : c.span.stop.line <
        (slots.take c.span.stop.line ++ carried slots c.span.stop.line cs).length := by
      rw [List.length_append, taken]
      omega
    rw [List.foldr_cons, ih rest, splice_eq order inside,
      List.take_append_of_le_length (by omega), List.drop_append_of_le_length (by omega),
      List.take_take, Nat.min_eq_left order, List.drop_of_length_le (by omega), List.nil_append,
      carried, ← List.append_assoc, ← List.append_assoc, ← List.append_assoc]
    congr 2
    conv_lhs => rw [← List.take_append_drop line (slots.take c.span.start.line)]
    rw [List.take_take, Nat.min_eq_left le]

section Tail

variable {d : Document} {slots : List (Option σ)} {place line : Nat} {cs : List Change}
  {rs : List Replacement}

theorem breaks_behind (cut : Text.CutAt d.text place line) :
    line + Text.breaks (Text.dropBytes place d.text) = Text.breaks d.text := by
  have sum := Text.breaks_append cut.apart
  rw [Text.takeBytes_append_dropBytes, cut.line_eq] at sum
  exact sum.symm

theorem linesAscend_of_places (length : slots.length = d.lineCount)
    (placed : List.Forall₂ d.Places cs rs) (ascending : Replacement.Ascending d.text place rs)
    (cut : Text.CutAt d.text place line) : LinesAscend slots.length line cs := by
  induction placed generalizing place line with
  | nil =>
    have sum := breaks_behind cut
    rw [length, Document.lineCount]
    show line < _
    omega
  | @cons c r cs rs h rest ih =>
    obtain ⟨before, order, behind⟩ := ascending
    have small := Text.size_takeBytes_le r.start d.text
    have first := cut.breaks_slice h.first (by omega)
    have last := h.first.breaks_slice h.last order
    exact ⟨by omega, by omega, ih behind h.last⟩

theorem length_carried_cons {c : Change} (ascend : LinesAscend slots.length line (c :: cs)) :
    line + (carried slots line (c :: cs)).length =
      c.span.start.line + c.insertedBreaks + (carried slots c.span.stop.line cs).length := by
  obtain ⟨le, order, rest⟩ := ascend
  have size := rest.lt
  simp only [carried, List.length_append, List.length_drop, List.length_take,
    List.length_replicate]
  omega

/-- The new text never has more lines than there are slots for it. -/
theorem breaks_replaced_lt (length : slots.length = d.lineCount)
    (placed : List.Forall₂ d.Places cs rs) (ascending : Replacement.Ascending d.text place rs)
    (cut : Text.CutAt d.text place line) :
    Text.breaks (Replacement.replaced d.text place rs) < (carried slots line cs).length := by
  induction placed generalizing place line with
  | nil =>
    have sum := breaks_behind cut
    rw [Document.lineCount] at length
    simp only [Replacement.replaced, carried, List.length_drop]
    omega
  | @cons c r cs rs h rest ih =>
    have ascend := linesAscend_of_places length (.cons h rest) ascending cut
    have size := length_carried_cons ascend
    obtain ⟨before, order, behind⟩ := ascending
    have small := Text.size_takeBytes_le r.start d.text
    have first := cut.breaks_slice h.first (by omega)
    have inner := ih behind h.last
    have sum₁ := Text.breaks_append_le (Text.slice place r.start d.text)
      (r.text ++ Replacement.replaced d.text r.stop rs)
    have sum₂ := Text.breaks_append_le r.text (Replacement.replaced d.text r.stop rs)
    rw [h.text] at sum₁ sum₂
    have le := ascend.1
    simp only [Replacement.replaced, Change.insertedBreaks, h.text] at size ⊢
    omega

variable {g : Grammar σ}

theorem linked_behind (linked : ∀ i, Linked g (some g.initial) d.lines slots i)
    (cut : Text.CutAt d.text place line) {prev : Option σ} {j : Nat} (behind : 0 < j) :
    Linked g prev (Text.contents (Text.dropBytes place d.text)) (slots.drop line) j := by
  obtain ⟨k, rfl⟩ : ∃ k, j = k + 1 := ⟨j - 1, by omega⟩
  apply (linked (line + (k + 1))).transport
  · rw [List.getElem?_drop]
  · simp only [before, List.getElem?_drop]
    rfl
  · exact Text.getD_contents_congr (cut.getElem?_behind behind)

section Step

variable {c : Change} {r : Replacement}

theorem apart_of_counts (length : slots.length = d.lineCount) (h : d.Places c r)
    (placed : List.Forall₂ d.Places cs rs)
    (ascending : Replacement.Ascending d.text place (r :: rs))
    (cut : Text.CutAt d.text place line)
    (counts : Text.breaks (Replacement.replaced d.text place (r :: rs)) + 1 =
      (carried slots line (c :: cs)).length) :
    ¬ Text.Joins (Text.slice place r.start d.text)
        (r.text ++ Replacement.replaced d.text r.stop rs) ∧
      ¬ Text.Joins r.text (Replacement.replaced d.text r.stop rs) ∧
      Text.breaks (Replacement.replaced d.text r.stop rs) + 1 =
        (carried slots c.span.stop.line cs).length := by
  have ascend := linesAscend_of_places length (.cons h placed) ascending cut
  have size := length_carried_cons ascend
  obtain ⟨before_cut, order, behind⟩ := ascending
  have small := Text.size_takeBytes_le r.start d.text
  have first := cut.breaks_slice h.first (by omega)
  have inner := breaks_replaced_lt length placed behind h.last
  have sum₁ := Text.breaks_append_le (Text.slice place r.start d.text)
    (r.text ++ Replacement.replaced d.text r.stop rs)
  have sum₂ := Text.breaks_append_le r.text (Replacement.replaced d.text r.stop rs)
  -- Both sums can only lose breaks, so where the total fits neither has lost one.
  have inserted : Text.breaks r.text = c.insertedBreaks := by rw [h.text, Change.insertedBreaks]
  rw [Replacement.replaced] at counts
  refine ⟨Text.not_joins_of_breaks ?_, Text.not_joins_of_breaks ?_, ?_⟩ <;> omega

theorem getElem?_carried_before (ascend : LinesAscend slots.length line (c :: cs)) {j : Nat}
    (before : line + j < c.span.start.line) :
    (carried slots line (c :: cs))[j]? = (slots.drop line)[j]? := by
  obtain ⟨le, order, rest⟩ := ascend
  have size := rest.lt
  rw [carried, List.getElem?_append_left (by simp; omega), List.getElem?_drop, List.getElem?_drop,
    List.getElem?_take_of_lt before]

theorem getElem?_carried_behind (ascend : LinesAscend slots.length line (c :: cs)) {n k : Nat}
    (place : line + n = c.span.start.line) :
    (carried slots line (c :: cs))[n + (c.insertedBreaks + k)]? =
      (carried slots c.span.stop.line cs)[k]? := by
  obtain ⟨le, order, rest⟩ := ascend
  have size := rest.lt
  have kept : ((slots.take c.span.start.line).drop line).length = n := by
    rw [List.length_drop, List.length_take]
    omega
  rw [carried, List.getElem?_append_right (by omega), kept, Nat.add_sub_cancel_left,
    List.getElem?_append_right (by simp), List.length_replicate, Nat.add_sub_cancel_left]

theorem getElem?_replaced_before (h : d.Places c r) (le : place ≤ r.start)
    (cut : Text.CutAt d.text place line)
    (apart : ¬ Text.Joins (Text.slice place r.start d.text)
      (r.text ++ Replacement.replaced d.text r.stop rs)) {j : Nat}
    (before : line + j < c.span.start.line) :
    (Text.splitLines (Replacement.replaced d.text place (r :: rs)))[j]? =
      (Text.splitLines (Text.dropBytes place d.text))[j]? := by
  have first := cut.breaks_slice h.first le
  have length := Text.length_splitLines (Text.slice place r.start d.text)
  rw [Replacement.replaced, Text.splitLines_append apart, Text.getElem?_glue_before (by omega),
    cut.getElem?_between h.first le before]

theorem getElem?_replaced_behind (h : d.Places c r) (le : place ≤ r.start)
    (cut : Text.CutAt d.text place line)
    (apart : ¬ Text.Joins (Text.slice place r.start d.text)
      (r.text ++ Replacement.replaced d.text r.stop rs))
    (apart' : ¬ Text.Joins r.text (Replacement.replaced d.text r.stop rs)) {n k : Nat}
    (seam : line + n = c.span.start.line) (behind : 0 < k) :
    (Text.splitLines (Replacement.replaced d.text place (r :: rs)))[n + (c.insertedBreaks + k)]? =
      (Text.splitLines (Replacement.replaced d.text r.stop rs))[k]? := by
  have first := cut.breaks_slice h.first le
  have length := Text.length_splitLines (Text.slice place r.start d.text)
  have length' : (Text.splitLines r.text).length = c.insertedBreaks + 1 := by
    rw [Text.length_splitLines, h.text, Change.insertedBreaks]
  rw [Replacement.replaced, Text.splitLines_append apart,
    Text.getElem?_glue_behind (n := n) (by omega) (by omega), Text.splitLines_append apart',
    Text.getElem?_glue_behind length' behind]

end Step

/-- A line of the new text that one of the changes brings; the first change is moved by `shift`. -/
def InNewLines (shift : Int) (cs : List Change) (i : Nat) : Prop :=
  ∃ r ∈ newLines shift cs, r.1 ≤ i ∧ i < r.2

/-- Where the line counts agree, each line is a new line of a change or linked as before. The line
at which the rest of the text starts may be torn, so it counts only if it is `whole`. -/
theorem inNewLines_or_linked (length : slots.length = d.lineCount)
    (linked : ∀ i, Linked g (some g.initial) d.lines slots i)
    (placed : List.Forall₂ d.Places cs rs) (ascending : Replacement.Ascending d.text place rs)
    (cut : Text.CutAt d.text place line)
    (counts : Text.breaks (Replacement.replaced d.text place rs) + 1 =
      (carried slots line cs).length)
    (shift : Int) (base : Nat) (moved : (base : Int) = line + shift) {prev : Option σ} {j : Nat}
    (whole : 0 < j ∨
      Linked g prev (Text.contents (Text.dropBytes place d.text)) (slots.drop line) j) :
    InNewLines shift cs (base + j) ∨
      Linked g prev (Text.contents (Replacement.replaced d.text place rs))
        (carried slots line cs) j := by
  have old : ∀ {place line j : Nat} {prev : Option σ}, Text.CutAt d.text place line → (0 < j ∨
      Linked g prev (Text.contents (Text.dropBytes place d.text)) (slots.drop line) j) →
      Linked g prev (Text.contents (Text.dropBytes place d.text)) (slots.drop line) j := by
    intro place line j prev cut whole
    rcases whole with behind | linked_here
    · exact linked_behind linked cut behind
    · exact linked_here
  induction placed generalizing place line shift base j with
  | nil => exact .inr (old cut whole)
  | @cons c r cs rs h rest ih =>
    have ascend := linesAscend_of_places length (.cons h rest) ascending cut
    obtain ⟨apart, apart', inner⟩ := apart_of_counts length h rest ascending cut counts
    obtain ⟨before_cut, order, behind⟩ := ascending
    have small := Text.size_takeBytes_le r.start d.text
    have le : place ≤ r.start := by omega
    have lines := ascend.1
    have span := ascend.2.1
    obtain ⟨n, seam⟩ : ∃ n, line + n = c.span.start.line := ⟨c.span.start.line - line, by omega⟩
    by_cases front : j < n
    · -- A line before the change: nothing has happened to it or to the slot before it.
      right
      apply (old cut whole).transport (getElem?_carried_before ascend (by omega))
      · cases j with
        | zero => rfl
        | succ j =>
          simp only [before]
          rw [getElem?_carried_before ascend (by omega)]
      · exact Text.getD_contents_congr
          (getElem?_replaced_before h le cut apart (by omega))
    by_cases new : j ≤ n + c.insertedBreaks
    · left
      refine ⟨_, List.mem_cons_self, ?_, ?_⟩
      · simp only [Change.firstLine]
        omega
      · simp only [Change.firstLine]
        omega
    · -- A line behind the new ones: the rest of the changes decides.
      obtain ⟨k, rfl⟩ : ∃ k, j = n + (c.insertedBreaks + (k + 1)) :=
        ⟨j - n - c.insertedBreaks - 1, by omega⟩
      have delta : ((base + n + c.insertedBreaks : Nat) : Int) =
          c.span.stop.line + (shift + c.lineDelta) := by
        simp only [Change.lineDelta, Span.lines]
        omega
      rcases ih behind h.last inner _ _ delta (j := k + 1) (.inl (by omega)) with
        inside | linked_here
      · obtain ⟨range, member, low, high⟩ := inside
        exact .inl ⟨range, List.mem_cons_of_mem _ member, by omega, by omega⟩
      · right
        apply linked_here.transport (getElem?_carried_behind ascend seam)
        · have place : n + (c.insertedBreaks + (k + 1)) = n + (c.insertedBreaks + k) + 1 := by omega
          rw [place]
          simp only [before]
          rw [getElem?_carried_behind ascend seam]
        · exact Text.getD_contents_congr
            (getElem?_replaced_behind h le cut apart apart' seam (by omega))

end Tail

section Change

variable [DecidableEq σ] {s : LineStates σ} {d d' : Document} {changes : List Change}

theorem reparseRanges_linked {ranges : List (Nat × Nat)} (length : s.slots.length = d.lineCount)
    (known : ∀ i, (∃ r ∈ ranges, r.1 ≤ i ∧ i < r.2) ∨
      Linked s.grammar (some s.grammar.initial) d.lines s.slots i) :
    (s.reparseRanges d ranges).1.grammar = s.grammar ∧
      (s.reparseRanges d ranges).1.slots.length = d.lineCount ∧
      ∀ i, Linked s.grammar (some s.grammar.initial) d.lines
        (s.reparseRanges d ranges).1.slots i := by
  induction ranges generalizing s with
  | nil =>
    refine ⟨rfl, length, ?_⟩
    intro i
    rcases known i with ⟨r, member, -⟩ | linked
    · cases member
    · exact linked
  | cons range ranges ih =>
    obtain ⟨first, stop⟩ := range
    apply ih (s := (s.reparse d first stop).states) ((length_reparse length).trans length)
    intro i
    rcases known i with ⟨r, member, inside⟩ | linked
    · rcases List.mem_cons.mp member with rfl | member
      · exact .inr (reparse_linked length i (.inl inside))
      · exact .inl ⟨r, member, inside⟩
    · exact .inr (reparse_linked length i (.inr linked))

/-- Following an admitted batch leads from sound states of the old document to sound states of the
new one. -/
theorem Sound.change (sound : s.Sound d) (gapless : Gapless s.slots) (admits : d.Admits changes)
    (edited : d.edit changes = .ok d') :
    (s.change d' changes).1.Sound d' ∧ Gapless (s.change d' changes).1.slots ∧
      (s.change d' changes).1.grammar = s.grammar := by
  obtain ⟨rs, placed, ascending, rfl⟩ := Document.edit_of_admits admits edited
  have start := Text.cutAt_zero d.text
  have ascend := linesAscend_of_places sound.length placed ascending start
  have linked := (sound_gapless_iff sound.version sound.length).mp ⟨sound, gapless⟩
  have newer : ¬ d.version + 1 ≤ s.version := by
    have := sound.version
    omega
  have moved : (Change.lastFirst changes).foldl splice s.slots =
      carried s.slots 0 (Change.lastFirst changes).reverse := by
    have folded := foldr_splice ascend
    rwa [List.foldr_reverse, List.take_zero, List.nil_append] at folded
  simp only [LineStates.change, if_neg newer, moved]
  split
  · -- A break was put together from two parts: all states are forgotten.
    refine ⟨reset_sound _ _, ?_, rfl⟩
    exact gapless_unread _
  · rename_i fits
    have counts := (Decidable.not_not.mp fits).symm
    have known : ∀ i, (∃ r ∈ (newLines 0 (Change.lastFirst changes).reverse).reverse,
        r.1 ≤ i ∧ i < r.2) ∨ Linked s.grammar (some s.grammar.initial)
          (Text.contents (Replacement.replaced d.text 0 rs))
          (carried s.slots 0 (Change.lastFirst changes).reverse) i := by
      intro i
      have whole : Linked s.grammar (some s.grammar.initial)
          (Text.contents (Text.dropBytes 0 d.text)) (s.slots.drop 0) i := by
        rw [Text.dropBytes_zero]
        exact linked i
      rcases inNewLines_or_linked sound.length linked placed ascending start counts 0 0 rfl
        (.inr whole) with ⟨r, member, inside⟩ | linked_here
      · exact .inl ⟨r, List.mem_reverse.mpr member, by omega, by omega⟩
      · exact .inr linked_here
    obtain ⟨same, length, all⟩ := reparseRanges_linked
      (s := { s with slots := carried s.slots 0 (Change.lastFirst changes).reverse })
      (d := { d with text := Replacement.replaced d.text 0 rs, version := d.version + 1 })
      counts.symm known
    have lines := length.trans (length_lines _).symm
    refine ⟨⟨rfl, length, ?_⟩, gapless_of_linked all, same⟩
    intro i st stored
    rw [same]
    exact states_of_linked lines all i st stored

end Change

end LineStates

end EventXref
