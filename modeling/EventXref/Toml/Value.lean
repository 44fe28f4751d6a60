namespace EventXref.Toml

inductive Value where
  | text (value : String)
  | integer (value : Int)
  | float (written : String)
  | boolean (value : Bool)
  | moment (written : String)
  | array (items : List Value)
  | table (entries : List (String × Value))

namespace Value

def get? (key : String) : Value → Option Value
  | .table entries => entries.lookup key
  | _ => none

def text? : Value → Option String
  | .text value => some value
  | _ => none

def count? : Value → Option Nat
  | .integer (.ofNat n) => if n < Nat.pow 2 64 then some n else none
  | _ => none

def listOf? {α : Type} (read : Value → Option α) : Value → Option (List α)
  | .array items => items.mapM read
  | _ => none

end Value

end EventXref.Toml
