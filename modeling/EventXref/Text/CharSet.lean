import EventXref.Text.CaseVariant
import EventXref.Text.CharRange

/-!
Sets of characters as ascending ranges of code points. Ranges that touch are joined, so that equal
sets are written in the same way. The code points of surrogates stand for no character: no range
begins or ends with one of them.
-/
namespace EventXref

structure CharSet where
  ranges : List (Nat × Nat)
deriving DecidableEq, Repr

namespace CharSet

def last : Nat := 0x10FFFF

def empty : CharSet := ⟨[]⟩

def all : CharSet := ⟨[(0, last)]⟩

def hasCode (s : CharSet) (n : Nat) : Bool := Text.inRanges s.ranges n

def contains (s : CharSet) (c : Char) : Bool := s.hasCode c.toNat

def isEmpty (s : CharSet) : Bool := s.ranges.isEmpty

def joined : (lo hi : Nat) → List (Nat × Nat) → List (Nat × Nat)
  | lo, hi, [] => [(lo, hi)]
  | lo, hi, (a, b) :: rest =>
    if a ≤ hi + 1 then joined lo (max hi b) rest else (lo, hi) :: joined a b rest

def ofRanges (rs : List (Nat × Nat)) : CharSet :=
  match rs.mergeSort fun a b => a.1 ≤ b.1 with
  | [] => empty
  | (lo, hi) :: rest => ⟨joined lo hi rest⟩

def range (lo hi : Char) : CharSet := ⟨[(lo.toNat, hi.toNat)]⟩

def single (c : Char) : CharSet := range c c

def ofChars (cs : List Char) : CharSet := ofRanges (cs.map fun c => (c.toNat, c.toNat))

def union (a b : CharSet) : CharSet := ofRanges (a.ranges ++ b.ranges)

def unions (ss : List CharSet) : CharSet := ofRanges (ss.flatMap ranges)

def inter (a b : CharSet) : CharSet :=
  ofRanges <| a.ranges.flatMap fun (lo, hi) => b.ranges.filterMap fun (lo', hi') =>
    if max lo lo' ≤ min hi hi' then some (max lo lo', min hi hi') else none

def next (n : Nat) : Nat := if n = 0xD7FF then 0xE000 else n + 1

def previous (n : Nat) : Nat := if n = 0xE000 then 0xD7FF else n - 1

def gaps (start : Nat) : List (Nat × Nat) → List (Nat × Nat)
  | [] => if start ≤ last then [(start, last)] else []
  | (lo, hi) :: rest =>
    if start < lo then (start, previous lo) :: gaps (next hi) rest else gaps (next hi) rest

def diff (a b : CharSet) : CharSet := a.inter ⟨gaps 0 b.ranges⟩

def symmDiff (a b : CharSet) : CharSet := (a.union b).diff (a.inter b)

/-- The gaps between ranges; two ranges with nothing but surrogates between them have their inner
ends as gap. -/
def between : List (Nat × Nat) → List (Nat × Nat)
  | (_, hi) :: (lo, hi') :: rest =>
    let start := next hi
    let stop := previous lo
    (min start stop, max start stop) :: between ((lo, hi') :: rest)
  | _ => []

def compl (s : CharSet) : CharSet :=
  match s.ranges, s.ranges.getLast? with
  | (lo, _) :: _, some (_, hi) =>
    let front := if 0 < lo then [(0, previous lo)] else []
    let back := if hi < last then [(next hi, last)] else []
    ofRanges (front ++ between s.ranges ++ back)
  | _, _ => all

def only? (s : CharSet) : Option Char :=
  match s.ranges with
  | [(lo, hi)] => if lo = hi then some (Char.ofNat lo) else none
  | _ => none

def isAscii (s : CharSet) : Bool := s.ranges.all fun (_, hi) => hi < 0x80

def foldCase (s : CharSet) : CharSet :=
  let rings := Text.caseRings.filter (·.any s.hasCode)
  let added := rings.flatMap fun ring => ring.map fun n => (n, n)
  ofRanges (s.ranges ++ added)

def foldAsciiCase (s : CharSet) : CharSet :=
  let added := (List.range 26).flatMap fun i =>
    let upper := 0x41 + i
    let lower := 0x61 + i
    if s.hasCode upper || s.hasCode lower then [(upper, upper), (lower, lower)] else []
  ofRanges (s.ranges ++ added)

end CharSet

end EventXref
