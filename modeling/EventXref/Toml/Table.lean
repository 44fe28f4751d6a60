import EventXref.Toml.Value

/-!
Tables while a document is being read. Which keys may still be added to a table depends on how the
table came about: nothing is defined twice, and what is written as a value stays as it is.
-/
namespace EventXref.Toml

inductive Form where
  /-- On the way of a header to another table; a header may still define it. -/
  | implied
  /-- On the way of a dotted key; dotted keys may still add to it. -/
  | dotted
  | defined
deriving DecidableEq, Repr

inductive Node where
  | value (v : Value)
  | table (form : Form) (entries : List (String × Node))
  | tables (earlier : List (List (String × Node))) (last : List (String × Node))

abbrev Entries := List (String × Node)

namespace Entries

def set (key : String) (node : Node) : Entries → Entries
  | [] => [(key, node)]
  | e :: es => if e.1 = key then (key, node) :: es else e :: set key node es

def within (f : Entries → Option Entries) : List String → Entries → Option Entries
  | [], es => f es
  | key :: keys, es =>
    match es.lookup key with
    | none => (within f keys []).map fun sub => set key (.table .implied sub) es
    | some (.table form sub) => (within f keys sub).map fun sub => set key (.table form sub) es
    | some (.tables earlier last) =>
      (within f keys last).map fun last => set key (.tables earlier last) es
    | some (.value _) => none

def define (key : String) (es : Entries) : Option Entries :=
  match es.lookup key with
  | none => some (set key (.table .defined []) es)
  | some (.table .implied sub) => some (set key (.table .defined sub) es)
  | some _ => none

def begin (key : String) (es : Entries) : Option Entries :=
  match es.lookup key with
  | none => some (set key (.tables [] []) es)
  | some (.tables earlier last) => some (set key (.tables (earlier ++ [last]) []) es)
  | some _ => none

/-- Sets the value of a dotted key. A table on its way may not have a header of its own, and from
then on counts as one that dotted keys made. -/
def assign (key : String) (v : Value) : List String → Entries → Option Entries
  | [], es => if (es.lookup key).isSome then none else some (set key (.value v) es)
  | k :: ks, es =>
    match es.lookup k with
    | none => (assign key v ks []).map fun sub => set k (.table .dotted sub) es
    | some (.table form sub) =>
      if form = .defined then none
      else (assign key v ks sub).map fun sub => set k (.table .dotted sub) es
    | some (.tables earlier last) =>
      if ks = [] then none
      else (assign key v ks last).map fun last => set k (.tables earlier last) es
    | some (.value _) => none

end Entries

mutual
def Node.toValue : Node → Value
  | .value v => v
  | .table _ entries => .table (Node.toValues entries)
  | .tables earlier last => .array (Node.toTables earlier ++ [.table (Node.toValues last)])
def Node.toValues : List (String × Node) → List (String × Value)
  | [] => []
  | (key, node) :: rest => (key, node.toValue) :: Node.toValues rest
def Node.toTables : List (List (String × Node)) → List Value
  | [] => []
  | entries :: rest => .table (Node.toValues entries) :: Node.toTables rest
end

def Entries.toValue (es : Entries) : Value := .table (Node.toValues es)

end EventXref.Toml
