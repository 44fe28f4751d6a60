import EventXref.Document

/-!
Lines of texts that are put together. Two texts side by side have the breaks of both, unless the
first ends in a carriage return and the second starts with a line feed; then two breaks become one.
A text that is cut inside the content of a line never has such a seam.
-/
namespace EventXref.Document

theorem offset?_first {l : List Char} {ls : List (List Char)} {column byte : Nat} :
    offset? (l :: ls) ⟨0, column⟩ = some byte ↔ column ≤ Text.size l ∧ byte = column := by
  simp only [offset?]
  split
  · rename_i reaches
    simp [reaches, eq_comm]
  · rename_i reaches
    simp [reaches]

theorem offset?_later {l : List Char} {ls : List (List Char)} {line column byte : Nat} :
    offset? (l :: ls) ⟨line + 1, column⟩ = some byte ↔
      ∃ rest, offset? ls ⟨line, column⟩ = some rest ∧ byte = Text.size l + rest := by
  simp only [offset?, Option.map_eq_some_iff]
  constructor
  · rintro ⟨rest, found, sum⟩
    exact ⟨rest, found, sum.symm⟩
  · rintro ⟨rest, found, sum⟩
    exact ⟨rest, found, sum.symm⟩

end EventXref.Document

namespace EventXref.Text

/-- The two texts make one break of a carriage return and a line feed. -/
def Joins (a b : List Char) : Prop := a.getLast? = some '\r' ∧ b.head? = some '\n'

instance (a b : List Char) : Decidable (Joins a b) := inferInstanceAs (Decidable (_ ∧ _))

theorem not_joins_nil_left (b : List Char) : ¬ Joins [] b := by simp [Joins]

theorem joins_cons {c : Char} {t b : List Char} (nonempty : t ≠ []) :
    Joins (c :: t) b ↔ Joins t b := by
  cases t with
  | nil => contradiction
  | cons e t => simp [Joins, List.getLast?_cons_cons]

theorem not_joins_tail {c : Char} {t b : List Char} (apart : ¬ Joins (c :: t) b) : ¬ Joins t b := by
  intro joined
  have nonempty : t ≠ [] := by
    rintro rfl
    exact not_joins_nil_left b joined
  exact apart ((joins_cons nonempty).mpr joined)

theorem Joins.append_left {a b c : List Char} (joined : Joins b c) : Joins (a ++ b) c := by
  obtain ⟨hb, hc⟩ := joined
  exact ⟨by simp [List.getLast?_append, hb], hc⟩

theorem Joins.append_right {a b c : List Char} (joined : Joins a b) : Joins a (b ++ c) := by
  obtain ⟨h, hb⟩ := joined
  cases b with
  | nil => cases hb
  | cons e b => exact ⟨h, hb⟩

/-- A character that is not the first half of a break made of two. -/
def Alone (c : Char) (t : List Char) : Prop := ¬ (c = '\r' ∧ t.head? = some '\n')

theorem alone_append {c : Char} {t b : List Char} (alone : Alone c t) (apart : ¬ Joins (c :: t) b) :
    Alone c (t ++ b) := by
  rintro ⟨rfl, hb⟩
  cases t with
  | nil => exact apart ⟨rfl, hb⟩
  | cons e t => exact alone ⟨rfl, hb⟩

theorem alone_of_no_feed {c : Char} {t : List Char}
    (h : ∀ r, c = '\r' → t = '\n' :: r → False) : Alone c t := by
  rintro ⟨hc, ht⟩
  cases t with
  | nil => cases ht
  | cons e t =>
    have he : e = '\n' := Option.some.inj ht
    subst he
    exact h t hc rfl

theorem breaks_pair (t : List Char) : breaks ('\r' :: '\n' :: t) = breaks t + 1 := rfl

theorem breaks_alone {c : Char} {t : List Char} (alone : Alone c t) :
    breaks (c :: t) = if isBreak c then breaks t + 1 else breaks t := by
  rw [breaks]
  rintro r rfl rfl
  exact alone ⟨rfl, rfl⟩

theorem splitLines_alone {c : Char} {t : List Char} (alone : Alone c t) :
    splitLines (c :: t) = if isBreak c then [c] :: splitLines t else consLine c (splitLines t) := by
  rw [splitLines]
  rintro r rfl rfl
  exact alone ⟨rfl, rfl⟩

theorem splitLines_ne_nil (t : List Char) : splitLines t ≠ [] := by
  intro h
  have := length_splitLines t
  simp [h] at this

theorem breaks_append {a b : List Char} (apart : ¬ Joins a b) :
    breaks (a ++ b) = breaks a + breaks b := by
  fun_induction breaks a with
  | case1 => simp
  | case2 t ih =>
    have tail := ih (not_joins_tail (not_joins_tail apart))
    simp only [List.cons_append, breaks_pair, tail]
    omega
  | case3 c t no_feed hb ih =>
    have alone := alone_append (alone_of_no_feed no_feed) apart
    rw [List.cons_append, breaks_alone alone, if_pos hb, ih (not_joins_tail apart)]
    omega
  | case4 c t no_feed hb ih =>
    have alone := alone_append (alone_of_no_feed no_feed) apart
    rw [List.cons_append, breaks_alone alone, if_neg hb, ih (not_joins_tail apart)]

theorem breaks_append_joined {a b : List Char} (joined : Joins a b) :
    breaks (a ++ b) + 1 = breaks a + breaks b := by
  obtain ⟨ha, hb⟩ := joined
  obtain ⟨a, rfl⟩ : ∃ r, a = r ++ ['\r'] := by
    obtain ⟨r, hr⟩ := List.getLast?_eq_some_iff.mp ha
    exact ⟨r, hr⟩
  obtain ⟨b, rfl⟩ := List.head?_eq_some_iff.mp hb
  have left : breaks (a ++ ['\r']) = breaks a + 1 :=
    breaks_append (b := ['\r']) (by simp [Joins])
  have middle : breaks (a ++ '\r' :: '\n' :: b) = breaks a + (breaks b + 1) :=
    breaks_append (b := '\r' :: '\n' :: b) (by simp [Joins])
  have right : breaks ('\n' :: b) = breaks b + 1 := breaks_alone (by simp [Alone])
  rw [List.append_assoc, List.singleton_append, middle, left, right]
  omega

theorem breaks_append_le (a b : List Char) : breaks (a ++ b) ≤ breaks a + breaks b := by
  by_cases joined : Joins a b
  · have := breaks_append_joined joined
    omega
  · exact Nat.le_of_eq (breaks_append joined)

/-- Texts whose breaks add up have no seam inside a break. -/
theorem not_joins_of_breaks {a b : List Char} (sum : breaks a + breaks b ≤ breaks (a ++ b)) :
    ¬ Joins a b := by
  intro joined
  have := breaks_append_joined joined
  omega

def onFirst (t : List Char) (lines : List (List Char)) : List (List Char) :=
  (t ++ lines.headD []) :: lines.tail

/-- The lines of two texts side by side: the last line of the first goes on in the second. -/
def glue (a b : List (List Char)) : List (List Char) := a.dropLast ++ onFirst (a.getLastD []) b

theorem glue_cons {l : List Char} {a b : List (List Char)} (nonempty : a ≠ []) :
    glue (l :: a) b = l :: glue a b := by
  cases a with
  | nil => contradiction
  | cons m a => simp [glue]

theorem glue_consLine (c : Char) {a : List (List Char)} (b : List (List Char))
    (nonempty : a ≠ []) : glue (consLine c a) b = consLine c (glue a b) := by
  cases a with
  | nil => contradiction
  | cons l a =>
    cases a with
    | nil => simp [glue, consLine, onFirst]
    | cons m a => simp [consLine, glue_cons]

theorem glue_empty {b : List (List Char)} (nonempty : b ≠ []) : glue [[]] b = b := by
  cases b with
  | nil => contradiction
  | cons l b => simp [glue, onFirst]

theorem splitLines_append {a b : List Char} (apart : ¬ Joins a b) :
    splitLines (a ++ b) = glue (splitLines a) (splitLines b) := by
  fun_induction splitLines a with
  | case1 => rw [List.nil_append, glue_empty (splitLines_ne_nil b)]
  | case2 t ih =>
    have tail := ih (not_joins_tail (not_joins_tail apart))
    rw [glue_cons (splitLines_ne_nil t), ← tail]
    rfl
  | case3 c t no_feed hb ih =>
    have alone := alone_append (alone_of_no_feed no_feed) apart
    rw [List.cons_append, splitLines_alone alone, if_pos hb, glue_cons (splitLines_ne_nil t),
      ih (not_joins_tail apart)]
  | case4 c t no_feed hb ih =>
    have alone := alone_append (alone_of_no_feed no_feed) apart
    rw [List.cons_append, splitLines_alone alone, if_neg hb,
      glue_consLine c _ (splitLines_ne_nil t), ih (not_joins_tail apart)]

theorem getElem?_glue_before {a b : List (List Char)} {i : Nat} (before : i + 1 < a.length) :
    (glue a b)[i]? = a[i]? := by
  have inside : i < a.dropLast.length := by
    rw [List.length_dropLast]
    omega
  rw [glue, List.getElem?_append_left inside, List.getElem?_dropLast, if_pos (by omega)]

theorem getElem?_glue_behind {a b : List (List Char)} {n k : Nat} (length : a.length = n + 1)
    (behind : 0 < k) : (glue a b)[n + k]? = b[k]? := by
  have outside : a.dropLast.length = n := by simp [length]
  obtain ⟨k, rfl⟩ : ∃ m, k = m + 1 := ⟨k - 1, by omega⟩
  rw [glue, List.getElem?_append_right (by omega), outside]
  have place : n + (k + 1) - n = k + 1 := by omega
  rw [place, onFirst, List.getElem?_cons_succ, List.getElem?_tail]

theorem content_plain {c : Char} (plain : isBreak c = false) (l : List Char) :
    content (c :: l) = c :: content l := by
  simp only [content, trimEnd, List.reverse_cons, List.dropWhile_append]
  split
  · rename_i h
    have empty : l.reverse.dropWhile isBreak = [] := by simpa using h
    simp [empty, plain]
  · simp

theorem takeBytes_cons {c : Char} {n : Nat} (fits : c.utf8Size ≤ n) (t : List Char) :
    takeBytes n (c :: t) = c :: takeBytes (n - c.utf8Size) t := by
  simp [takeBytes, fits]

theorem dropBytes_cons {c : Char} {n : Nat} (fits : c.utf8Size ≤ n) (t : List Char) :
    dropBytes n (c :: t) = dropBytes (n - c.utf8Size) t := by
  simp [dropBytes, fits]

theorem takeBytes_zero (t : List Char) : takeBytes 0 t = [] := by
  cases t with
  | nil => rfl
  | cons c t => simp [takeBytes, Nat.not_le.mpr c.utf8Size_pos]

theorem dropBytes_zero (t : List Char) : dropBytes 0 t = t := by
  have whole := takeBytes_append_dropBytes 0 t
  rwa [takeBytes_zero, List.nil_append] at whole

theorem takeBytes_append {n : Nat} {s : List Char} (inside : n ≤ size s) (t : List Char) :
    takeBytes n (s ++ t) = takeBytes n s := by
  induction s generalizing n with
  | nil =>
    have zero : n = 0 := by simpa using inside
    subst zero
    simp [takeBytes_zero]
  | cons c s ih =>
    by_cases fits : c.utf8Size ≤ n
    · have rest : n - c.utf8Size ≤ size s := by
        rw [size_cons] at inside
        omega
      rw [List.cons_append, takeBytes_cons fits, takeBytes_cons fits, ih rest]
    · simp [takeBytes, fits]

theorem dropBytes_append {n : Nat} {s : List Char} (inside : n ≤ size s) (t : List Char) :
    dropBytes n (s ++ t) = dropBytes n s ++ t := by
  have whole : takeBytes n (s ++ t) ++ dropBytes n (s ++ t) = s ++ t :=
    takeBytes_append_dropBytes n (s ++ t)
  rw [takeBytes_append inside] at whole
  apply (List.append_right_inj (takeBytes n s)).mp
  rw [whole, ← List.append_assoc, takeBytes_append_dropBytes]

theorem takeBytes_takeBytes {n m : Nat} (le : n ≤ m) (t : List Char) :
    takeBytes n (takeBytes m t) = takeBytes n t := by
  induction t generalizing n m with
  | nil => rfl
  | cons c t ih =>
    by_cases fits : c.utf8Size ≤ n
    · have wide : c.utf8Size ≤ m := Nat.le_trans fits le
      rw [takeBytes_cons wide, takeBytes_cons fits, takeBytes_cons fits, ih (by omega)]
    · by_cases wide : c.utf8Size ≤ m <;> simp [takeBytes, fits, wide]

theorem takeBytes_append_slice {n m : Nat} (le : n ≤ m) (t : List Char) :
    takeBytes n t ++ slice n m t = takeBytes m t := by
  rw [← takeBytes_takeBytes le, slice, takeBytes_append_dropBytes]

theorem slice_append_dropBytes {n m : Nat} (le : n ≤ m) (t : List Char) :
    slice n m t ++ dropBytes m t = dropBytes n t := by
  apply (List.append_right_inj (takeBytes n t)).mp
  rw [← List.append_assoc, takeBytes_append_slice le, takeBytes_append_dropBytes,
    takeBytes_append_dropBytes]

/-- A byte offset on a line at which a text may be cut without tearing a break. -/
structure CutAt (t : List Char) (byte line : Nat) : Prop where
  line_eq : breaks (takeBytes byte t) = line
  apart : ¬ Joins (takeBytes byte t) (dropBytes byte t)

theorem cutAt_of_takeBytes_nil {t : List Char} {byte : Nat} (empty : takeBytes byte t = []) :
    CutAt t byte 0 := by
  constructor
  · rw [empty]
    rfl
  · rw [empty]
    exact not_joins_nil_left _

theorem cutAt_zero (t : List Char) : CutAt t 0 0 := cutAt_of_takeBytes_nil (takeBytes_zero t)

theorem CutAt.behind_pair {t : List Char} {byte line : Nat} (cut : CutAt t byte line) :
    CutAt ('\r' :: '\n' :: t) (2 + byte) (line + 1) := by
  have taken : takeBytes (2 + byte) ('\r' :: '\n' :: t) = '\r' :: '\n' :: takeBytes byte t := by
    have size₁ : '\r'.utf8Size = 1 := rfl
    have size₂ : '\n'.utf8Size = 1 := rfl
    rw [takeBytes_cons (by omega), takeBytes_cons (by omega), size₁, size₂]
    congr 3
    omega
  have left : dropBytes (2 + byte) ('\r' :: '\n' :: t) = dropBytes byte t := by
    apply (List.append_right_inj ('\r' :: '\n' :: takeBytes byte t)).mp
    rw [← taken, takeBytes_append_dropBytes, taken]
    simp
  constructor
  · rw [taken, breaks_pair, cut.line_eq]
  · rw [taken, left]
    intro joined
    cases ht : takeBytes byte t with
    | nil => simp [ht, Joins] at joined
    | cons e r =>
      apply cut.apart
      rw [ht] at joined ⊢
      exact (joins_cons (by simp)).mp ((joins_cons (by simp)).mp joined)

theorem CutAt.behind_alone {c : Char} {t : List Char} {byte line : Nat} (alone : Alone c t)
    (cut : CutAt t byte line) :
    CutAt (c :: t) (c.utf8Size + byte) (if isBreak c then line + 1 else line) := by
  have taken : takeBytes (c.utf8Size + byte) (c :: t) = c :: takeBytes byte t := by
    rw [takeBytes_cons (by omega), Nat.add_sub_cancel_left]
  have left : dropBytes (c.utf8Size + byte) (c :: t) = dropBytes byte t := by
    rw [dropBytes_cons (by omega), Nat.add_sub_cancel_left]
  have whole := takeBytes_append_dropBytes byte t
  constructor
  · have still : Alone c (takeBytes byte t) := by
      rintro ⟨hc, hf⟩
      apply alone
      rw [← whole, List.head?_append, hf]
      exact ⟨hc, rfl⟩
    rw [taken, breaks_alone still, cut.line_eq]
  · rw [taken, left]
    cases ht : takeBytes byte t with
    | nil =>
      rw [ht, List.nil_append] at whole
      rintro ⟨hc, hf⟩
      rw [whole] at hf
      exact alone ⟨by simpa using hc, hf⟩
    | cons e r =>
      intro joined
      apply cut.apart
      rw [ht]
      exact (joins_cons (by simp)).mp joined

/-- In a first line without content only the beginning of the text can be meant. -/
theorem cutAt_of_empty_line {t l : List Char} {ls : List (List Char)} {column byte : Nat}
    (empty : content l = []) (found : Document.offset? (l :: ls) ⟨0, column⟩ = some byte)
    (within : column ≤ size (content ((l :: ls).getD 0 []))) : CutAt t byte 0 := by
  have zero : column = 0 := by simpa [empty] using within
  obtain ⟨-, rfl⟩ := Document.offset?_first.mp found
  subst zero
  exact cutAt_zero t

theorem cutAt_of_offset {t : List Char} {p : Position} {byte : Nat}
    (found : Document.offset? (splitLines t) p = some byte)
    (within : p.column ≤ size (content ((splitLines t).getD p.line []))) :
    CutAt t byte p.line := by
  obtain ⟨line, column⟩ := p
  fun_induction splitLines t generalizing line column byte with
  | case1 =>
    cases line with
    | zero => exact cutAt_of_empty_line rfl found within
    | succ line => simp [Document.offset?] at found
  | case2 t ih =>
    cases line with
    | zero => exact cutAt_of_empty_line (by decide) found within
    | succ line =>
      obtain ⟨rest, hrest, rfl⟩ := Document.offset?_later.mp found
      exact (ih line column hrest within).behind_pair
  | case3 c t no_feed hb ih =>
    cases line with
    | zero => exact cutAt_of_empty_line (by simp [content, trimEnd, hb]) found within
    | succ line =>
      obtain ⟨rest, hrest, rfl⟩ := Document.offset?_later.mp found
      have cut := (ih line column hrest within).behind_alone (alone_of_no_feed no_feed)
      simpa [hb] using cut
  | case4 c t no_feed hb ih =>
    have plain : isBreak c = false := by simpa using hb
    have alone := alone_of_no_feed no_feed
    cases hl : splitLines t with
    | nil => exact absurd hl (splitLines_ne_nil t)
    | cons l ls =>
      simp only [hl, consLine] at found within ih
      cases line with
      | zero =>
        obtain ⟨reaches, rfl⟩ := Document.offset?_first.mp found
        -- An offset inside the character cuts in front of it.
        by_cases fits : c.utf8Size ≤ byte
        · simp only [List.getD_cons_zero, content_plain plain, size_cons] at within
          rw [size_cons] at reaches
          have cut := @ih (byte - c.utf8Size) 0 (byte - c.utf8Size)
            (Document.offset?_first.mpr ⟨by omega, rfl⟩)
            (by simp only [List.getD_cons_zero]; omega)
          have place : c.utf8Size + (byte - c.utf8Size) = byte := by omega
          simpa [plain, place] using cut.behind_alone alone
        · exact cutAt_of_takeBytes_nil (by simp [takeBytes, fits])
      | succ line =>
        obtain ⟨rest, hrest, rfl⟩ := Document.offset?_later.mp found
        have cut := @ih (size l + rest) (line + 1) column
          (Document.offset?_later.mpr ⟨rest, hrest, rfl⟩) within
        simpa [plain, ← Nat.add_assoc] using cut.behind_alone alone

section Cuts

variable {t : List Char} {n m line line' : Nat}

theorem CutAt.splitLines_eq (cut : CutAt t n line) :
    splitLines t = glue (splitLines (takeBytes n t)) (splitLines (dropBytes n t)) := by
  rw [← splitLines_append cut.apart, takeBytes_append_dropBytes]

theorem CutAt.length_splitLines_takeBytes (cut : CutAt t n line) :
    (splitLines (takeBytes n t)).length = line + 1 := by
  rw [length_splitLines, cut.line_eq]

theorem CutAt.not_joins_slice (cut : CutAt t n line) (le : n ≤ m) :
    ¬ Joins (takeBytes n t) (slice n m t) := by
  intro joined
  apply cut.apart
  rw [← slice_append_dropBytes le]
  exact joined.append_right

theorem CutAt.slice_not_joins (cut : CutAt t m line) (le : n ≤ m) :
    ¬ Joins (slice n m t) (dropBytes m t) := by
  intro joined
  apply cut.apart
  rw [← takeBytes_append_slice le]
  exact joined.append_left

theorem CutAt.breaks_slice (cut : CutAt t n line) (cut' : CutAt t m line') (le : n ≤ m) :
    line + breaks (slice n m t) = line' := by
  have sum := breaks_append (cut.not_joins_slice le)
  rw [takeBytes_append_slice le, cut.line_eq, cut'.line_eq] at sum
  exact sum.symm

theorem CutAt.getElem?_behind (cut : CutAt t n line) {k : Nat} (behind : 0 < k) :
    (splitLines (dropBytes n t))[k]? = (splitLines t)[line + k]? := by
  rw [cut.splitLines_eq, getElem?_glue_behind cut.length_splitLines_takeBytes behind]

theorem CutAt.getElem?_between (cut : CutAt t n line) (cut' : CutAt t m line') (le : n ≤ m)
    {k : Nat} (before : line + k < line') :
    (splitLines (slice n m t))[k]? = (splitLines (dropBytes n t))[k]? := by
  have sum := cut.breaks_slice cut' le
  have length := length_splitLines (slice n m t)
  rw [← slice_append_dropBytes le, splitLines_append (cut'.slice_not_joins le),
    getElem?_glue_before (by omega)]

end Cuts

end EventXref.Text
