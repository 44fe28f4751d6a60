/-!
Numbers of a fixed width. A result that its type does not hold makes a checked build fail, and any
other build keeps the bits that there is room for.
-/
namespace EventXref

inductive Build where
  | checked
  | wrapping
deriving DecidableEq, Repr

def values32 : Nat := 4294967296

def values64 : Nat := 18446744073709551616

namespace Build

/-- A result as a number with a sign, of a type with so many values. -/
def signed (build : Build) (values : Nat) (x : Int) : Option Int :=
  if x.bmod values = x then some x
  else match build with
    | .checked => none
    | .wrapping => some (x.bmod values)

def unsigned (build : Build) (values n : Nat) : Option Nat :=
  if n < values then some n
  else match build with
    | .checked => none
    | .wrapping => some (n % values)

end Build

end EventXref
