import Mathlib.Data.List.TakeWhile
import EventXref.Proofs.Places
import EventXref.Proofs.Tokenizer

/-!
The lines that a change leaves alone. A change names the lines it touches by their numbers, and the
text is cut at bytes; where the line counts fit, the two agree on all lines before the change. They
agree on the lines behind it as well, unless the change ends behind the ending of a line: then its
text stands on the next line, which is not among the lines it names.
-/
namespace EventXref

namespace Text

theorem breaks_pos {t : List Char} {c : Char} (member : c ∈ t) (ending : isBreak c = true) :
    0 < breaks t := by
  fun_induction breaks t with
  | case1 => cases member
  | case2 t ih => exact Nat.succ_pos _
  | case3 e t _ hb ih => exact Nat.succ_pos _
  | case4 e t _ plain ih =>
    rcases List.mem_cons.mp member with rfl | behind
    · exact absurd ending plain
    · exact ih behind

theorem breaks_le_append (a b : List Char) : breaks a ≤ breaks (a ++ b) := by
  by_cases joined : Joins a b
  · have sum := breaks_append_joined joined
    have feed : '\n' ∈ b := List.mem_of_head? joined.2
    have some := breaks_pos feed rfl
    omega
  · have sum := breaks_append joined
    omega

theorem breaks_le_append_right (a b : List Char) : breaks b ≤ breaks (a ++ b) := by
  by_cases joined : Joins a b
  · have sum := breaks_append_joined joined
    have return_ : '\r' ∈ a := List.mem_of_getLast? joined.1
    have some := breaks_pos return_ rfl
    omega
  · have sum := breaks_append joined
    omega

theorem Joins.exists_pair {a b : List Char} (joined : Joins a b) :
    ∃ p q, a = p ++ ['\r'] ∧ b = '\n' :: q ∧ breaks a = breaks p + 1 ∧
      splitLines (a ++ b) = glue (splitLines p) (['\r', '\n'] :: splitLines q) := by
  obtain ⟨p, rfl⟩ := List.getLast?_eq_some_iff.mp joined.1
  obtain ⟨q, rfl⟩ := List.head?_eq_some_iff.mp joined.2
  refine ⟨p, q, rfl, rfl, breaks_append (b := ['\r']) (by simp [Joins]), ?_⟩
  rw [List.append_assoc]
  exact splitLines_append (b := '\r' :: '\n' :: q) (by simp [Joins])

theorem content_append_breaks {e : List Char} (breaks : ∀ c ∈ e, isBreak c = true)
    (l : List Char) : content (l ++ e) = content l := by
  have none : e.reverse.dropWhile isBreak = [] :=
    List.dropWhile_eq_nil_iff.mpr (by simpa using breaks)
  simp [content, trimEnd, List.dropWhile_append, none]

theorem content_append_plain {t : List Char} {c : Char} (last : t.getLast? = some c)
    (plain : isBreak c = false) (l : List Char) : content (t ++ l) = t ++ content l := by
  obtain ⟨p, rfl⟩ := List.getLast?_eq_some_iff.mp last
  simp only [content, trimEnd, List.reverse_append, List.dropWhile_append]
  split
  · rename_i empty
    have none : l.reverse.dropWhile isBreak = [] := by simpa using empty
    simp [none, plain]
  · simp

def lastLine (t : List Char) : List Char := (splitLines t).getLastD []

theorem lastLine_of_break {t : List Char} {c : Char} (last : t.getLast? = some c)
    (ending : isBreak c = true) : lastLine t = [] := by
  obtain ⟨p, rfl⟩ := List.getLast?_eq_some_iff.mp last
  by_cases joined : Joins p [c]
  · obtain ⟨q, r, -, same, -, lines⟩ := joined.exists_pair
    obtain ⟨-, rfl⟩ := List.cons.inj same
    rw [lastLine, lines]
    simp [glue, onFirst, splitLines]
  · have one : splitLines [c] = [[c], []] := by
      rw [splitLines_alone (by simp [Alone]), if_pos ending]
      rfl
    simp [lastLine, splitLines_append joined, one, glue, onFirst]

theorem getLast?_lastLine {t : List Char} {c : Char} (last : t.getLast? = some c)
    (plain : isBreak c = false) : (lastLine t).getLast? = some c := by
  obtain ⟨p, rfl⟩ := List.getLast?_eq_some_iff.mp last
  have apart : ¬ Joins p [c] := by
    rintro ⟨-, feed⟩
    cases feed
    cases plain
  have one : splitLines [c] = [[c]] := by
    rw [splitLines_alone (by simp [Alone]), if_neg (by simp [plain])]
    rfl
  simp [lastLine, splitLines_append apart, one, glue, onFirst]

theorem getElem?_glue_seam {a b : List (List Char)} {n : Nat} (length : a.length = n + 1) :
    (glue a b)[n]? = some (a.getLastD [] ++ b.headD []) := by
  have outside : a.dropLast.length = n := by simp [length]
  rw [glue, List.getElem?_append_right (by omega), outside, Nat.sub_self]
  rfl

theorem getElem?_append_seam {a b : List Char} (apart : ¬ Joins a b) :
    (splitLines (a ++ b))[breaks a]? = some (lastLine a ++ (splitLines b).headD []) := by
  rw [splitLines_append apart, getElem?_glue_seam (length_splitLines a)]
  rfl

/-- A line that ends in the first of two texts has its content from there. -/
theorem getElem?_contents_append {a : List Char} (b : List Char) {i : Nat} (ended : i < breaks a) :
    (contents (a ++ b))[i]? = (contents a)[i]? := by
  have length := length_splitLines a
  simp only [contents, List.getElem?_map]
  by_cases joined : Joins a b
  · -- The break grows by a character and is still no part of the content.
    obtain ⟨p, q, rfl, rfl, count, lines⟩ := joined.exists_pair
    have length := length_splitLines p
    have alone : splitLines (p ++ ['\r']) = glue (splitLines p) [['\r'], []] :=
      splitLines_append (by simp [Joins])
    rw [alone, lines]
    by_cases front : i < breaks p
    · rw [getElem?_glue_before (by omega), getElem?_glue_before (by omega)]
    · obtain rfl : i = breaks p := by omega
      rw [getElem?_glue_seam length, getElem?_glue_seam length]
      simp [content_append_breaks (e := ['\r']) (by simp [isBreak]),
        content_append_breaks (e := ['\r', '\n']) (by simp [isBreak])]
  · rw [splitLines_append joined, getElem?_glue_before (by omega)]

/-- A line that starts in the second of two texts stands there, counted from the end. -/
theorem getElem?_append_behind {a b : List Char} {n k : Nat}
    (counted : n + breaks b = breaks (a ++ b)) (behind : 0 < k) :
    (splitLines (a ++ b))[n + k]? = (splitLines b)[k]? := by
  by_cases joined : Joins a b
  · have sum := breaks_append_joined joined
    obtain ⟨p, q, rfl, rfl, count, lines⟩ := joined.exists_pair
    have length := length_splitLines p
    have feed : splitLines ('\n' :: q) = ['\n'] :: splitLines q :=
      splitLines_alone (by simp [Alone])
    rw [lines, feed, getElem?_glue_behind (n := n) (by omega) behind]
    obtain ⟨k, rfl⟩ : ∃ m, k = m + 1 := ⟨k - 1, by omega⟩
    rfl
  · have sum := breaks_append joined
    have length := length_splitLines a
    rw [splitLines_append joined, getElem?_glue_behind (n := n) (by omega) behind]

end Text

namespace Document

variable {d d' : Document} {c : Change} {i a b : Nat} {p : Position}

theorem edit_one (edited : d.edit [c] = .ok d') : ∃ start stop,
    d.byteOf? c.span.start = some start ∧ d.byteOf? c.span.stop = some stop ∧ start ≤ stop ∧
      d' = { d with
        text := Text.takeBytes start d.text ++ (c.text ++ Text.dropBytes stop d.text)
        version := d.version + 1 } := by
  obtain ⟨rs, text, resolved, carried, rfl⟩ := edit_eq_ok edited
  cases resolved with
  | cons resolved none =>
    cases none
    obtain ⟨found, found', order, same⟩ := resolve_eq_ok.mp resolved
    simp only [Replacement.carryOutAll?, Replacement.carryOut?, same] at carried
    split at carried
    · cases carried
      exact ⟨_, _, found, found', order, by simp⟩
    · cases carried

theorem line_lt_of_offset {ls : List (List Char)} {line column : Nat}
    (found : offset? ls ⟨line, column⟩ = some a) : line < ls.length := by
  induction ls generalizing line a with
  | nil => cases found
  | cons l ls ih =>
    cases line with
    | zero => exact Nat.succ_pos _
    | succ line =>
      obtain ⟨rest, found, -⟩ := offset?_later.mp found
      exact Nat.succ_lt_succ (ih found)

theorem line_lt_of_byteOf (found : d.byteOf? p = some a) : p.line < d.lineCount := by
  rw [← length_fullLines]
  exact line_lt_of_offset found

section LineStarts

theorem exists_lineStart (inside : i < d.lineCount) : ∃ b, d.byteOf? ⟨i, 0⟩ = some b := by
  obtain ⟨pre, ending, post, splits⟩ := exists_splits_of_lt inside
  exact ⟨_, splits.byteOf?_iff.mpr ⟨Nat.zero_le _, rfl⟩⟩

variable (start : d.byteOf? ⟨i, 0⟩ = some b)

include start

theorem lineStart_cut : Text.CutAt d.text b i := cutAt_of_byteOf start (Nat.zero_le _)

theorem size_takeBytes_lineStart : Text.size (Text.takeBytes b d.text) = b := by
  obtain ⟨pre, ending, post, splits⟩ := exists_splits_of_lt (line_lt_of_byteOf start)
  obtain ⟨-, rfl⟩ := splits.byteOf?_iff.mp start
  rw [splits.text_eq, Nat.add_zero, Text.takeBytes_size]

theorem le_lineStart (found : d.byteOf? p = some a) (order : p.line < i) : a ≤ b :=
  byteOf_mono (Position.le_iff.mpr (.inl order)) found start

theorem lineStart_le (found : d.byteOf? p = some a) (order : i ≤ p.line) : b ≤ a := by
  apply byteOf_mono _ start found
  rw [Position.le_iff]
  simp only
  omega

end LineStarts

/-- In front of every line but the first one there is a break. -/
theorem isBreak_before_lineStart (start : d.byteOf? ⟨i + 1, 0⟩ = some b) :
    ∃ e, (Text.takeBytes b d.text).getLast? = some e ∧ Text.isBreak e = true := by
  have inside := line_lt_of_byteOf start
  obtain ⟨pre, ending, post, splits⟩ := exists_splits_of_lt (Nat.lt_of_succ_lt inside)
  have lines := splits.lines
  have more : post ≠ [] := by
    rintro rfl
    rw [← length_fullLines, lines, List.length_append, splits.length] at inside
    exact Nat.lt_irrefl _ inside
  have ended : ending ≠ [] := fun none => more (splits.open_ none)
  obtain ⟨next, post, rfl⟩ := List.exists_cons_of_ne_nil more
  rw [List.append_cons] at lines
  obtain ⟨_, -, splits'⟩ := exists_splits lines
  have length : (pre ++ [d.line i ++ ending]).length = i + 1 := by simp [splits.length]
  rw [length] at splits'
  obtain ⟨-, rfl⟩ := splits'.byteOf?_iff.mp start
  obtain ⟨e, last⟩ := List.getLast?_isSome.mpr ended |> Option.isSome_iff_exists.mp
  refine ⟨e, ?_, splits.ends e (List.mem_of_getLast? last)⟩
  rw [splits'.text_eq, Nat.add_zero, Text.takeBytes_size, List.flatten_append,
    List.getLast?_append_of_ne_nil _ (by simp [ended])]
  simp [List.getLast?_append, last]

theorem line_le_breaks (found : d.byteOf? p = some a) :
    p.line ≤ Text.breaks (Text.takeBytes a d.text) := by
  obtain ⟨b, start⟩ := exists_lineStart (line_lt_of_byteOf found)
  have whole := Text.takeBytes_append_slice (lineStart_le start found (Nat.le_refl _)) d.text
  rw [← whole, ← (lineStart_cut start).line_eq]
  exact Text.breaks_le_append _ _

theorem breaks_le_line (found : d.byteOf? p = some a) (start : d.byteOf? ⟨p.line + 1, 0⟩ = some b) :
    Text.breaks (Text.takeBytes a d.text) ≤ p.line + 1 := by
  have whole := Text.takeBytes_append_slice (le_lineStart start found (Nat.lt_succ_self _)) d.text
  have count := (lineStart_cut start).line_eq
  rw [← whole] at count
  rw [← count]
  exact Text.breaks_le_append _ _

theorem isBreak_of_breaks (found : d.byteOf? p = some a)
    (start : d.byteOf? ⟨p.line + 1, 0⟩ = some b)
    (ended : Text.breaks (Text.takeBytes a d.text) = p.line + 1) :
    ∃ e, (Text.takeBytes a d.text).getLast? = some e ∧ Text.isBreak e = true := by
  have whole := Text.takeBytes_append_slice (le_lineStart start found (Nat.lt_succ_self _)) d.text
  have count := (lineStart_cut start).line_eq
  obtain ⟨e', last', ending'⟩ := isBreak_before_lineStart start
  rw [← whole] at count last'
  cases last : (Text.takeBytes a d.text).getLast? with
  | none =>
    rw [List.getLast?_eq_none_iff.mp last] at ended
    cases ended
  | some e =>
    refine ⟨e, rfl, ?_⟩
    by_contra plain
    -- Otherwise the break would stand behind the place and be one too many.
    have apart : ¬ Text.Joins (Text.takeBytes a d.text) (Text.slice a b d.text) := by
      rintro ⟨return_, -⟩
      rw [last] at return_
      cases return_
      exact plain rfl
    rw [Text.breaks_append apart] at count
    cases rest : Text.slice a b d.text with
    | nil =>
      rw [rest, List.append_nil, last] at last'
      cases last'
      exact plain ending'
    | cons x xs =>
      rw [rest, List.getLast?_append_of_ne_nil _ (by simp)] at last'
      have one := Text.breaks_pos (List.mem_of_getLast? last') ending'
      rw [rest] at count
      omega

/-- A place before the start of the next line leaves the break of its own line behind it. -/
theorem breaks_le_behind (found : d.byteOf? p = some a)
    (before : d.byteOf? p ≠ d.byteOf? ⟨p.line + 1, 0⟩) :
    Text.breaks d.text ≤ p.line + Text.breaks (Text.dropBytes a d.text) := by
  by_cases inside : p.line + 1 < d.lineCount
  · obtain ⟨b, start⟩ := exists_lineStart inside
    have cut := lineStart_cut start
    have le := le_lineStart start found (Nat.lt_succ_self _)
    have lt : a < b := by
      apply Nat.lt_of_le_of_ne le
      rintro rfl
      exact before (found.trans start.symm)
    obtain ⟨e, last, ending⟩ := isBreak_before_lineStart start
    have whole := Text.takeBytes_append_slice le d.text
    have small := Text.size_takeBytes_le a d.text
    have boundary := size_takeBytes_lineStart start
    have member : e ∈ Text.slice a b d.text := by
      rw [← whole] at last boundary
      cases rest : Text.slice a b d.text with
      | nil =>
        rw [rest, List.append_nil] at boundary
        omega
      | cons x xs =>
        rw [rest, List.getLast?_append_of_ne_nil _ (by simp)] at last
        exact List.mem_of_getLast? last
    have one := Text.breaks_pos member ending
    have sum := Text.breaks_append (cut.slice_not_joins le)
    rw [Text.slice_append_dropBytes le] at sum
    have all := LineStates.breaks_behind cut
    omega
  · rw [lineCount] at inside
    omega

/-- The new text of a change does not stay on the lines it is counted on: the change reaches up to
the start of the line behind its last one, and what it puts there is not ended by a break. -/
def Spills (d : Document) (c : Change) : Prop :=
  c.span.start.line ≤ c.span.stop.line ∧
    d.byteOf? c.span.stop = d.byteOf? ⟨c.span.stop.line + 1, 0⟩ ∧
    ∃ e ∈ c.text.getLast?, Text.isBreak e = false

instance (d : Document) (c : Change) : Decidable (d.Spills c) :=
  inferInstanceAs (Decidable (_ ∧ _ ∧ _))

/-- A change that ends on an earlier line than it starts on is empty and stands at a line start. -/
theorem breaks_behind_inverted {start stop : Nat} (found : d.byteOf? c.span.start = some start)
    (found' : d.byteOf? c.span.stop = some stop) (order : start ≤ stop)
    (inverted : c.span.stop.line < c.span.start.line) :
    Text.breaks d.text = c.span.start.line + Text.breaks (Text.dropBytes stop d.text) := by
  obtain ⟨b, lineStart⟩ := exists_lineStart (line_lt_of_byteOf found)
  have low := le_lineStart lineStart found' inverted
  have high := lineStart_le lineStart found (Nat.le_refl _)
  obtain rfl : b = stop := by omega
  exact (LineStates.breaks_behind (lineStart_cut lineStart)).symm

section Lines

variable {t u r : List Char}

theorem lines_before (old : d.text = t ++ r) (new : d'.text = t ++ u) (ended : i < Text.breaks t) :
    d'.lines[i]? = d.lines[i]? := by
  show (Text.contents d'.text)[i]? = (Text.contents d.text)[i]?
  rw [old, new, Text.getElem?_contents_append u ended, Text.getElem?_contents_append r ended]

theorem line_behind {n n' k : Nat} (old : d.text = t ++ r) (new : d'.text = u ++ r)
    (counted : n + Text.breaks r = Text.breaks d.text)
    (counted' : n' + Text.breaks r = Text.breaks d'.text) (behind : 0 < k) :
    d'.line (n' + k) = d.line (n + k) := by
  rw [old] at counted
  rw [new] at counted'
  simp only [line, fullLines, old, new, List.getD_eq_getElem?_getD,
    Text.getElem?_append_behind counted behind, Text.getElem?_append_behind counted' behind]

theorem line_seam (whole : d.text = t ++ r) (apart : ¬ Text.Joins t r) :
    d.line (Text.breaks t) =
      Text.content (Text.lastLine t ++ (Text.splitLines r).headD []) := by
  rw [line, fullLines, whole, List.getD_eq_getElem?_getD, Text.getElem?_append_seam apart,
    Option.getD_some]

end Lines

/-- What a change leaves of the text before and behind it, when the line counts fit. -/
structure Fits (d : Document) (c : Change) (d' : Document) (start stop : Nat) : Prop where
  first : d.byteOf? c.span.start = some start
  last : d.byteOf? c.span.stop = some stop
  order : start ≤ stop
  text : d'.text = Text.takeBytes start d.text ++ (c.text ++ Text.dropBytes stop d.text)
  counts : Text.breaks d'.text + c.span.lines = Text.breaks d.text + c.insertedBreaks

namespace Fits

variable {start stop : Nat} (fits : d.Fits c d' start stop)

include fits

theorem lines_before_change (before : i < c.firstLine) : d'.lines[i]? = d.lines[i]? :=
  lines_before (Text.takeBytes_append_dropBytes start d.text).symm fits.text
    (Nat.lt_of_lt_of_le before (line_le_breaks fits.first))

/-- Lines that start in the text behind the change are moved by as much as the line count grows. -/
theorem line_behind_change {j : Nat} (behind : Text.breaks d.text + c.insertedBreaks <
      j + c.span.lines + Text.breaks (Text.dropBytes stop d.text)) :
    d'.line j = d.line (j - c.lineDelta).toNat := by
  have text := fits.text
  have counts := fits.counts
  rw [← List.append_assoc] at text
  have few := Text.breaks_le_append_right (Text.takeBytes stop d.text) (Text.dropBytes stop d.text)
  have few' := Text.breaks_le_append_right (Text.takeBytes start d.text ++ c.text)
    (Text.dropBytes stop d.text)
  rw [Text.takeBytes_append_dropBytes] at few
  rw [← text] at few'
  obtain ⟨n, counted⟩ := Nat.exists_eq_add_of_le' few
  obtain ⟨n', counted'⟩ := Nat.exists_eq_add_of_le' few'
  obtain ⟨k, rfl⟩ : ∃ k, j = n' + k := ⟨j - n', by omega⟩
  have place : (((n' + k : Nat) : Int) - c.lineDelta).toNat = n + k := by
    rw [Change.lineDelta]
    omega
  rw [place]
  exact line_behind (Text.takeBytes_append_dropBytes stop d.text).symm text counted.symm
    counted'.symm (by omega)

theorem breaks_behind_change (apart : ¬ (c.span.start.line ≤ c.span.stop.line ∧
      d.byteOf? c.span.stop = d.byteOf? ⟨c.span.stop.line + 1, 0⟩)) :
    Text.breaks d.text ≤
      c.span.start.line + c.span.lines + Text.breaks (Text.dropBytes stop d.text) := by
  rw [Span.lines]
  by_cases upright : c.span.start.line ≤ c.span.stop.line
  · have behind := breaks_le_behind fits.last fun next => apart ⟨upright, next⟩
    omega
  · have behind := breaks_behind_inverted fits.first fits.last fits.order (by omega)
    omega

/-- A change up to a line start makes the counts fit only if it starts behind a break. -/
theorem seam (upright : c.span.start.line ≤ c.span.stop.line)
    (next : d.byteOf? ⟨c.span.stop.line + 1, 0⟩ = some stop) :
    (∃ e, (Text.takeBytes start d.text).getLast? = some e ∧ Text.isBreak e = true) ∧
      Text.breaks (Text.takeBytes start d.text ++ c.text) = c.endLine ∧
      ¬ Text.Joins (Text.takeBytes start d.text ++ c.text) (Text.dropBytes stop d.text) := by
  have rest := LineStates.breaks_behind (lineStart_cut next)
  obtain ⟨b, above⟩ := exists_lineStart (d := d) (i := c.span.start.line + 1)
    (Nat.lt_of_le_of_lt (Nat.succ_le_succ upright) (line_lt_of_byteOf next))
  have front := breaks_le_line fits.first above
  have sum := Text.breaks_append_le (Text.takeBytes start d.text) c.text
  have sum' := Text.breaks_append_le (Text.takeBytes start d.text ++ c.text)
    (Text.dropBytes stop d.text)
  have counts := fits.counts
  rw [fits.text, ← List.append_assoc] at counts
  simp only [Change.insertedBreaks, Span.lines] at counts
  have ended : Text.breaks (Text.takeBytes start d.text) = c.span.start.line + 1 := by omega
  refine ⟨isBreak_of_breaks fits.first above ended, ?_, Text.not_joins_of_breaks (by omega)⟩
  simp only [Change.endLine, Change.firstLine, Change.insertedBreaks]
  omega

theorem line_endLine (upright : c.span.start.line ≤ c.span.stop.line)
    (next : d.byteOf? ⟨c.span.stop.line + 1, 0⟩ = some stop) :
    d'.line c.endLine = d.line (c.span.stop.line + 1) ↔ ¬ d.Spills c := by
  obtain ⟨⟨e, last, ending⟩, count, apart⟩ := fits.seam upright next
  obtain ⟨e', last', ending'⟩ := isBreak_before_lineStart next
  have cut := lineStart_cut next
  have text := fits.text
  rw [← List.append_assoc] at text
  have new := line_seam text apart
  have old := line_seam (Text.takeBytes_append_dropBytes stop d.text).symm cut.apart
  rw [count] at new
  rw [cut.line_eq, Text.lastLine_of_break last' ending', List.nil_append] at old
  rw [new, old]
  constructor
  · rintro same ⟨-, -, x, hx, plain⟩
    have open_ : (Text.takeBytes start d.text ++ c.text).getLast? = some x := by
      rw [List.getLast?_append, Option.mem_def.mp hx]
      rfl
    have final := Text.getLast?_lastLine open_ plain
    rw [Text.content_append_plain final plain] at same
    have empty : Text.lastLine (Text.takeBytes start d.text ++ c.text) = [] := by simpa using same
    rw [empty] at final
    cases final
  · intro stays
    have closed : Text.lastLine (Text.takeBytes start d.text ++ c.text) = [] := by
      cases hx : c.text.getLast? with
      | none =>
        rw [List.getLast?_eq_none_iff.mp hx, List.append_nil]
        exact Text.lastLine_of_break last ending
      | some x =>
        apply Text.lastLine_of_break (c := x)
        · rw [List.getLast?_append, hx]
          rfl
        · by_contra plain
          exact stays ⟨upright, fits.last.trans next.symm, x, hx, by simpa using plain⟩
    rw [closed, List.nil_append]

end Fits

theorem fits_of_edit (edited : d.edit [c] = .ok d')
    (counts : (d'.lineCount : Int) = d.lineCount + c.lineDelta) :
    ∃ start stop, d.Fits c d' start stop := by
  obtain ⟨start, stop, found, found', order, rfl⟩ := edit_one edited
  refine ⟨start, stop, found, found', order, rfl, ?_⟩
  simp only [lineCount, Change.lineDelta] at counts
  simp only
  omega

/-- Where the line counts fit, all lines before a change keep their text, and so do all lines behind
it, but for the first of them if the new text of the change spills over. -/
theorem lines_outside_a_change (edited : d.edit [c] = .ok d')
    (counts : (d'.lineCount : Int) = d.lineCount + c.lineDelta) :
    (∀ i < c.firstLine, d'.line i = d.line i) ∧
      (∀ j > c.endLine, d'.line j = d.line (j - c.lineDelta).toNat) ∧
      (d'.line c.endLine = d.line (c.endLine - c.lineDelta).toNat ↔ ¬ d.Spills c) := by
  obtain ⟨start, stop, fits⟩ := fits_of_edit edited counts
  refine ⟨fun i before => ?_, ?_⟩
  · simp only [line_eq_getD, List.getD_eq_getElem?_getD, fits.lines_before_change before]
  by_cases tight : c.span.start.line ≤ c.span.stop.line ∧
      d.byteOf? c.span.stop = d.byteOf? ⟨c.span.stop.line + 1, 0⟩
  · -- The first line behind the change is where the two texts meet; all others start behind it.
    obtain ⟨upright, next⟩ := tight
    rw [fits.last] at next
    have rest := LineStates.breaks_behind (lineStart_cut next.symm)
    refine ⟨fun j behind => fits.line_behind_change ?_, ?_⟩
    · simp only [Change.endLine, Change.firstLine] at behind
      rw [Span.lines]
      omega
    · have place : ((c.endLine : Int) - c.lineDelta).toNat = c.span.stop.line + 1 := by
        simp only [Change.endLine, Change.firstLine, Change.lineDelta, Span.lines]
        omega
      rw [place]
      exact fits.line_endLine upright next.symm
  · have spare := fits.breaks_behind_change tight
    have all : ∀ j ≥ c.endLine, d'.line j = d.line (j - c.lineDelta).toNat := by
      intro j behind
      apply fits.line_behind_change
      simp only [Change.endLine, Change.firstLine] at behind
      omega
    refine ⟨fun j behind => all j (Nat.le_of_lt behind), ?_⟩
    exact iff_of_true (all _ (Nat.le_refl _)) fun spills => tight ⟨spills.1, spills.2.1⟩

open Tokenizer

/-- The second line ends in two characters. -/
def paired : Document := snapshot 1 "p\na\r\nb\nc"

/-- Stands between the two and brings its own first half for the second one. -/
def repaired : Change := ⟨.point ⟨1, 2⟩, ['x', '\r']⟩

def repairedText : Document := snapshot 2 "p\na\rx\r\nb\nc"

theorem lines_outside_a_change_paired :
    paired.edit [repaired] = .ok repairedText ∧ ¬ paired.Spills repaired ∧
      repairedText.line 0 = paired.line 0 ∧ repairedText.line 3 = paired.line 2 ∧
      ∀ j > 3, repairedText.line j = paired.line (j - 1 : Int).toNat := by
  have edited : paired.edit [repaired] = .ok repairedText := by rfl
  have stays : ¬ paired.Spills repaired := by decide
  obtain ⟨before, behind, next⟩ := lines_outside_a_change edited (by decide)
  exact ⟨edited, stays, before 0 (by decide), next.mpr stays, behind⟩

def calling : Document := snapshot 1 "a\nb\nf()"

def hidden : Document := snapshot 2 "a\n--[[b\nf()"

/-- A comment is opened behind the ending of the first line. -/
def openComment : Change := ⟨.point ⟨0, 2⟩, ['-', '-', '[', '[']⟩

/-- An insertion behind the ending of a line is counted on that line and stands on the next one,
which is not read again: a call stays outside of the comment that the insertion opens. -/
theorem insertion_behind_an_ending_is_overlooked :
    calling.edit [openComment] = .ok hidden ∧
      (hidden.lineCount : Int) = calling.lineCount + openComment.lineDelta ∧
      openComment.endLine ≤ 1 ∧ hidden.line 1 ≠ calling.line (1 - openComment.lineDelta).toNat ∧
      Misleads (readOnce dashes calling) calling [openComment] hidden := by
  refine ⟨by rfl, by decide, by decide, by decide, ?_⟩
  have kept : ((readOnce dashes calling).change hidden [openComment]).1.slots[1]? =
      some (some (.markers false)) := by decide +kernel
  have read : (((readOnce dashes calling).change hidden
      [openComment]).1.grammar.states hidden.lines)[1]? = some (.markers true) := by decide +kernel
  exact misleads_of_slot (readOnce_sound _ _).1 rfl kept read (by decide)

end Document

end EventXref
