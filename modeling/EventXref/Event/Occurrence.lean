import EventXref.Uri
import EventXref.Position

namespace EventXref

inductive EventKind where
  | trigger
  | listener
deriving DecidableEq, Repr

namespace EventKind

def opposite : EventKind → EventKind
  | .trigger => .listener
  | .listener => .trigger

def name : EventKind → String
  | .trigger => "trigger"
  | .listener => "listener"

@[simp] theorem opposite_opposite (k : EventKind) : k.opposite.opposite = k := by
  cases k <;> rfl

end EventKind

structure Location where
  uri : Uri
  position : Position
deriving DecidableEq, Repr

namespace Location

def order (a b : Location) : Ordering :=
  (compare a.uri b.uri).then (compare a.position b.position)

instance : Ord Location := ⟨order⟩

def insert (l : Location) : List Location → List Location
  | [] => [l]
  | d :: ds =>
    match compare l d with
    | .lt => l :: d :: ds
    | .eq => d :: ds
    | .gt => d :: insert l ds

end Location

structure Occurrence where
  kind : EventKind
  name : String
  location : Location
deriving DecidableEq, Repr

def Occurrence.uri (o : Occurrence) : Uri := o.location.uri

end EventXref
