import EventXref.Document
import EventXref.Machine

/-!
Applying a batch of changes. Every change is first resolved against the text before the batch, the
one that starts last first; then they are carried out in that order, so that earlier places stay
valid. A change that cannot be resolved leaves the document as it is. One that cannot be carried out
breaks off, with those before it done; and the version of a document may have no successor.
-/
namespace EventXref

inductive EditError where
  | outOfBounds (p : Position)
  | inverted (start stop : Position)
  /-- Overlapping changes: the text already cut by a later one is too short for this one. -/
  | overrun
  | overflow
deriving DecidableEq, Repr

namespace EditError

def message : EditError → String
  | .outOfBounds p => "position " ++ p.display ++ " is outside the document"
  | .inverted s e => "edit range ends before it starts: " ++ s.display ++ " > " ++ e.display
  | .overrun => "edit reaches past the end of the edited text"
  | .overflow => "the version has no successor"

end EditError

structure Replacement where
  start : Nat
  stop : Nat
  text : List Char
deriving DecidableEq, Repr

namespace Replacement

def carryOut? (r : Replacement) (t : List Char) : Option (List Char) :=
  if r.start ≤ Text.size t ∧ r.stop ≤ Text.size t then
    some (Text.takeBytes r.start t ++ r.text ++ Text.dropBytes r.stop t)
  else none

def carryOutAll : List Replacement → List Char → Except EditError Unit × List Char
  | [], t => (.ok (), t)
  | r :: rs, t =>
    match r.carryOut? t with
    | some t' => carryOutAll rs t'
    | none => (.error .overrun, t)

end Replacement

namespace Document

def resolvePosition (d : Document) (p : Position) : Except EditError Nat :=
  match d.byteOf? p with
  | some byte => .ok byte
  | none => .error (.outOfBounds p)

def resolve (d : Document) (c : Change) : Except EditError Replacement := do
  let start ← d.resolvePosition c.span.start
  let stop ← d.resolvePosition c.span.stop
  if stop < start then .error (.inverted c.span.start c.span.stop)
  else .ok ⟨start, stop, c.text⟩

def resolveAll (d : Document) : List Change → Except EditError (List Replacement)
  | [] => .ok []
  | c :: cs => do
    let r ← d.resolve c
    let rs ← d.resolveAll cs
    return r :: rs

def commit (d : Document) (build : Build) (text : List Char) : Except EditError Unit × Document :=
  match build.signed values32 (d.version + 1) with
  | some version => (.ok (), { d with text, version })
  | none => (.error .overflow, { d with text })

/-- Applies changes to a document, and gives the document as they leave it. -/
def applyChanges (d : Document) (build : Build) (changes : List Change) :
    Except EditError Unit × Document :=
  match d.resolveAll (Change.lastFirst changes) with
  | .error e => (.error e, d)
  | .ok rs =>
    match Replacement.carryOutAll rs d.text with
    | (.error e, text) => (.error e, { d with text })
    | (.ok (), text) => d.commit build text

def edit (d : Document) (changes : List Change) : Except EditError Document :=
  match d.applyChanges .checked changes with
  | (.ok (), d') => .ok d'
  | (.error e, _) => .error e

end Document

end EventXref
