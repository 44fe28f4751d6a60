namespace EventXref

structure Position where
  line : Nat
  column : Nat
deriving DecidableEq, Repr, Inhabited

namespace Position

def order (a b : Position) : Ordering :=
  if a.line < b.line then .lt else if b.line < a.line then .gt
  else if a.column < b.column then .lt else if b.column < a.column then .gt else .eq

instance : Ord Position := ⟨order⟩

def display (p : Position) : String := toString (p.line + 1) ++ ":" ++ toString (p.column + 1)

instance : Std.TransOrd Position where
  eq_swap {a b} := by
    simp only [compare, order]
    grind [Ordering.swap_lt, Ordering.swap_eq, Ordering.swap_gt]
  isLE_trans {a b c} hab hbc := by
    simp only [compare, order] at *
    grind [Ordering.isLE]

instance : Std.LawfulEqOrd Position where
  compare_self {a} := by simp [compare, order]
  eq_of_compare {a b} h := by
    obtain ⟨l, c⟩ := a
    obtain ⟨l', c'⟩ := b
    simp only [compare, order] at h
    grind

end Position

structure Span where
  start : Position
  stop : Position
deriving DecidableEq, Repr, Inhabited

namespace Span

def point (p : Position) : Span := ⟨p, p⟩

def onLine (line start stop : Nat) : Span := ⟨⟨line, start⟩, ⟨line, stop⟩⟩

def isEmpty (s : Span) : Bool := s.start = s.stop

def lines (s : Span) : Nat := s.stop.line - s.start.line

end Span

end EventXref
