import EventXref.Event.Extraction

/-!
Occurrences by document and version. An entry whose version is the closed one belongs to a document
that is not open: it was closed, or it was read from a file.
-/
namespace EventXref

structure CacheEntry where
  version : Int
  occurrences : List Occurrence
deriving DecidableEq, Repr

structure Cache where
  entries : Std.ExtTreeMap Uri CacheEntry

namespace Cache

def closedVersion : Int := -1

def empty : Cache := ⟨∅⟩

def get? (c : Cache) (u : Uri) : Option CacheEntry := c.entries[u]?

def live? (c : Cache) (u : Uri) : Option CacheEntry :=
  (c.get? u).filter (·.version ≠ closedVersion)

def size (c : Cache) : Nat := c.entries.size

def hit? (c : Cache) (u : Uri) (version : Int) : Option (List Occurrence) :=
  (c.get? u).bind fun e => if e.version = version then some e.occurrences else none

def store (c : Cache) (u : Uri) (e : CacheEntry) : Cache :=
  if (c.get? u).any (·.version > e.version) then c else ⟨c.entries.insert u e⟩

/-- What a lookup gives: the occurrences, whether they are new to the cache, and whether they were
extracted for it. -/
structure Answer where
  occurrences : List Occurrence
  changed : Bool
  extracted : Bool
deriving DecidableEq, Repr

def Answer.hit (occurrences : List Occurrence) : Answer := ⟨occurrences, false, false⟩

def finish (c : Cache) (u : Uri) (version : Int) (x : Extraction) : Answer × Cache :=
  (⟨x.occurrences, x.isComplete, true⟩,
    if x.isComplete then c.store u ⟨version, x.occurrences⟩ else c)

def getOrExtract {τ : Type} (c : Cache) (u : Uri) (version : Int) (extract : τ → Extraction × τ)
    (t : τ) : Answer × Cache × τ :=
  match c.hit? u version with
  | some found => (Answer.hit found, c, t)
  | none =>
    let (x, t) := extract t
    let (answer, c) := c.finish u version x
    (answer, c, t)

/-- Two lookups of a document that are begun one after the other on the same cache; the second one
finishes before the first. -/
def overlapping (c : Cache) (u : Uri) (first second : CacheEntry) : Answer × Answer × Cache :=
  let lookup := fun (now : Cache) (e : CacheEntry) =>
    match c.hit? u e.version with
    | some found => (Answer.hit found, now)
    | none => now.finish u e.version ⟨e.occurrences, true, 0⟩
  let (answer₂, now) := lookup c second
  let (answer₁, now) := lookup now first
  (answer₁, answer₂, now)

def insertClosed (c : Cache) (u : Uri) (found : List Occurrence) : Cache :=
  ⟨c.entries.insert u ⟨closedVersion, found⟩⟩

/-- Marks a document closed, so that its next version is extracted. -/
def close (c : Cache) (u : Uri) : Cache :=
  match c.get? u with
  | some e => c.insertClosed u e.occurrences
  | none => c

def remove (c : Cache) (u : Uri) : Cache := ⟨c.entries.erase u⟩

def clearClosed (c : Cache) : Cache := ⟨c.entries.filter fun _ e => e.version ≠ closedVersion⟩

def openEntries (c : Cache) : List (Uri × List Occurrence) :=
  c.clearClosed.entries.toList.map fun (u, e) => (u, e.occurrences)

end Cache

end EventXref
