import EventXref.Machine
import EventXref.Position
import EventXref.Text.Lines

namespace EventXref

structure Change where
  span : Span
  text : List Char
deriving DecidableEq, Repr, Inhabited

namespace Change

def insertedBreaks (c : Change) : Nat := Text.breaks c.text

def lineDelta (c : Change) : Int := (c.insertedBreaks : Int) - (c.span.lines : Int)

def firstLine (c : Change) : Nat := c.span.start.line

def endLine (c : Change) : Nat := c.firstLine + c.insertedBreaks + 1

def endLine? (c : Change) (build : Build) : Option Nat := build.unsigned values64 c.endLine

/-- The growth in numbers of 64 bits. Each count is read as a number with a sign first, and one that
is too large for that becomes another number in every build. -/
def lineDelta? (c : Change) (build : Build) : Option Int :=
  build.signed values64 (Int.bmod c.insertedBreaks values64 - Int.bmod c.span.lines values64)

def insertLast (c : Change) : List Change → List Change
  | [] => [c]
  | d :: ds =>
    if compare c.span.start d.span.start = .lt then d :: insertLast c ds else c :: d :: ds

/-- The changes from the last start to the first; changes with one start keep their order. -/
def lastFirst : List Change → List Change
  | [] => []
  | c :: cs => insertLast c (lastFirst cs)

theorem insertLast_perm (c : Change) (cs : List Change) : (insertLast c cs).Perm (c :: cs) := by
  induction cs with
  | nil => exact .refl _
  | cons d ds ih =>
    simp only [insertLast]
    split
    · exact (ih.cons d).trans (.swap c d ds)
    · exact .refl _

theorem lastFirst_perm (cs : List Change) : (lastFirst cs).Perm cs := by
  induction cs with
  | nil => exact .refl _
  | cons c cs ih => exact (insertLast_perm c _).trans (ih.cons c)

end Change

end EventXref
