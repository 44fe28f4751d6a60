import EventXref.Text.Bytes

/-!
Lines of a text. A carriage return with a line feed is one break; a line feed, a carriage return,
a vertical tab, a form feed and the characters 0085, 2028 and 2029 are one break each. A text has
one line more than it has breaks.
-/
namespace EventXref.Text

def isBreak (c : Char) : Bool :=
  ('\n' ≤ c && c ≤ '\r') || c == '\u0085' || c == '\u2028' || c == '\u2029'

def consLine (c : Char) : List (List Char) → List (List Char)
  | [] => [[c]]
  | l :: ls => (c :: l) :: ls

/-- The lines of a text, each with its ending. -/
def splitLines : List Char → List (List Char)
  | [] => [[]]
  | '\r' :: '\n' :: t => ['\r', '\n'] :: splitLines t
  | c :: t => if isBreak c then [c] :: splitLines t else consLine c (splitLines t)

def breaks : List Char → Nat
  | [] => 0
  | '\r' :: '\n' :: t => breaks t + 1
  | c :: t => if isBreak c then breaks t + 1 else breaks t

def content (line : List Char) : List Char := trimEnd isBreak line

theorem length_consLine (c : Char) (ls : List (List Char)) (h : ls ≠ []) :
    (consLine c ls).length = ls.length := by
  cases ls with
  | nil => contradiction
  | cons l ls => rfl

theorem length_splitLines (t : List Char) : (splitLines t).length = breaks t + 1 := by
  fun_induction splitLines t with
  | case1 => rfl
  | case2 t ih => simp [breaks, ih]
  | case3 c t _ hb ih => simp [breaks, hb, ih]
  | case4 c t _ hb ih =>
    have nonempty : splitLines t ≠ [] := by intro h; simp [h] at ih
    rw [length_consLine c _ nonempty, ih]
    simp [breaks, hb]

theorem flatten_consLine (c : Char) (ls : List (List Char)) :
    (consLine c ls).flatten = c :: ls.flatten := by
  cases ls <;> rfl

theorem flatten_splitLines (t : List Char) : (splitLines t).flatten = t := by
  fun_induction splitLines t with
  | case1 => rfl
  | case2 t ih => simp [ih]
  | case3 c t _ _ ih => simp [ih]
  | case4 c t _ _ ih => rw [flatten_consLine, ih]

end EventXref.Text
