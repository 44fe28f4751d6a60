import Std.Data.ExtTreeMap
import EventXref.Event.Occurrence

namespace EventXref

/-- Ascending places by event name; every name has at least one. -/
abbrev NameMap := Std.ExtTreeMap String (List Location)

structure Index where
  triggers : NameMap
  listeners : NameMap
  /-- What each document contributed; every contribution has at least one occurrence. -/
  documents : Std.ExtTreeMap Uri (List Occurrence)

namespace Index

def empty : Index := ⟨∅, ∅, ∅⟩

def side (i : Index) : EventKind → NameMap
  | .trigger => i.triggers
  | .listener => i.listeners

def update (i : Index) (kind : EventKind) (name : String) (f : List Location → List Location) :
    Index :=
  let change := fun (places : Option (List Location)) =>
    let places := f (places.getD [])
    if places.isEmpty then none else some places
  match kind with
  | .trigger => { i with triggers := i.triggers.alter name change }
  | .listener => { i with listeners := i.listeners.alter name change }

def addOccurrence (i : Index) (o : Occurrence) : Index :=
  i.update o.kind o.name (Location.insert o.location)

def dropOccurrence (i : Index) (o : Occurrence) : Index :=
  i.update o.kind o.name (·.filter (· ≠ o.location))

def remove (i : Index) (u : Uri) : Bool × Index :=
  match i.documents[u]? with
  | none => (false, i)
  | some found => (true, found.foldl dropOccurrence { i with documents := i.documents.erase u })

def add (i : Index) (u : Uri) (found : List Occurrence) : Index :=
  let i := found.foldl addOccurrence i
  if found.isEmpty then i else { i with documents := i.documents.insert u found }

def replace (i : Index) (u : Uri) (found : List Occurrence) : Index := (i.remove u).2.add u found

def ofDocuments (documents : List (Uri × List Occurrence)) : Index :=
  documents.foldl (fun i (u, found) => i.replace u found) empty

def locations (i : Index) (kind : EventKind) (name : String) : List Location :=
  ((i.side kind)[name]?).getD []

def lookup (i : Index) (kind : EventKind) (name : String) : List Location :=
  i.locations kind.opposite name

def names (i : Index) (kind : EventKind) : List String := (i.side kind).keys

def documentCount (i : Index) : Nat := i.documents.size

end Index

end EventXref
