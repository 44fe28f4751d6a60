import EventXref.Text.Bytes

namespace EventXref.Text

def encodingEnds : List Nat := [0x7F, 0x7FF, 0xFFFF]

def alignedCut? (lo hi unit : Nat) : Option (Nat × Nat) :=
  if lo / unit = hi / unit then none
  else if lo % unit ≠ 0 then some (lo / unit * unit + unit - 1, lo / unit * unit + unit)
  else if hi % unit ≠ unit - 1 then some (hi / unit * unit - 1, hi / unit * unit)
  else none

/-- Where a range of code points has to be cut: around surrogates, where encodings get longer, and
where bytes other than the last ones change. -/
def rangeCut? (lo hi : Nat) : Option (Nat × Nat) :=
  if lo < 0xE000 ∧ 0xD7FF < hi then some (0xD7FF, 0xE000)
  else match encodingEnds.find? fun n => lo ≤ n && n < hi with
    | some n => some (n, n + 1)
    | none => if hi ≤ 0x7F then none else [64, Nat.pow 64 2, Nat.pow 64 3].findSome? (alignedCut? lo hi)

def encodedRange (lo hi : Nat) : List (Nat × Nat) :=
  ((String.utf8EncodeChar (Char.ofNat lo)).zip (String.utf8EncodeChar (Char.ofNat hi))).map
    fun (a, b) => (a.toNat, b.toNat)

def sequencesWithin : Nat → Nat → Nat → List (List (Nat × Nat))
  | 0, _, _ => []
  | bound + 1, lo, hi =>
    if hi < lo then []
    else match rangeCut? lo hi with
      | some (last, first) => sequencesWithin bound lo last ++ sequencesWithin bound first hi
      | none => [encodedRange lo hi]

def maxCuts : Nat := 32

def byteSequences (r : Nat × Nat) : List (List (Nat × Nat)) := sequencesWithin maxCuts r.1 r.2

end EventXref.Text
