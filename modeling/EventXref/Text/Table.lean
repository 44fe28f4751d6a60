import EventXref.Text.Bytes
import EventXref.Text.CharSet
import EventXref.Text.Hex

/-!
Tables of characters. An entry is a code point in hexadecimal, a range such as `41-5A`, or every
second code point of a range, as `100~12E`. Blanks and line ends stand between the entries.
-/
namespace EventXref

def CharSet.everySecond (lo hi : Nat) : List (Nat × Nat) :=
  (List.range ((hi - lo) / 2 + 1)).map fun i => (lo + 2 * i, lo + 2 * i)

def CharSet.entry (t : List Char) : List (Nat × Nat) :=
  match Text.cut? ['-'] t, Text.cut? ['~'] t with
  | some (lo, hi), _ =>
    match Text.hexNumber? lo, Text.hexNumber? hi with
    | some lo, some hi => [(lo, hi)]
    | _, _ => []
  | none, some (lo, hi) =>
    match Text.hexNumber? lo, Text.hexNumber? hi with
    | some lo, some hi => everySecond lo hi
    | _, _ => []
  | none, none => ((Text.hexNumber? t).map fun n => (n, n)).toList

def CharSet.ofTable (table : String) : CharSet :=
  let lines := Text.splitOn '\n' table.toList
  ofRanges ((lines.flatMap (Text.splitOn ' ')).flatMap entry)

namespace Text

structure NamedTable where
  names : List String
  table : String
deriving DecidableEq, Repr

namespace NamedTable

def members (t : NamedTable) : CharSet := CharSet.ofTable t.table

def find? (tables : List NamedTable) (name : String) : Option CharSet :=
  (tables.find? (·.names.contains name)).map members

end NamedTable

end Text

end EventXref
