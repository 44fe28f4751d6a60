import EventXref.Cancellation
import EventXref.Document
import EventXref.Event.Pattern
import EventXref.Grammar.Basic

/-!
Finding call sites. Matches of a language's pattern are only candidates: the token at the function's
name has to be exactly that name and to stand for a call, so that nothing inside of comments,
strings or longer names counts.
-/
namespace EventXref

structure Extraction where
  occurrences : List Occurrence
  isComplete : Bool
  queries : Nat
deriving DecidableEq, Repr

namespace Extraction

def nothing : Extraction := ⟨[], true, 0⟩

structure Candidate where
  function : Nat × Nat
  event : Nat × Nat
deriving DecidableEq, Repr

def candidates (p : Pattern) (text : List Char) : List Candidate :=
  (p.program.findAll text).filterMap fun m => do
    let function ← m.group? p.functionGroup
    let event ← m.group? p.eventGroup
    return ⟨function, event⟩

def callMarker : String := "function"

def quotes : List Char := ['"', '\'', '\x60']

def stripQuotes : List Char → List Char
  | [] => []
  | c :: t =>
    if t.getLast? = some c ∧ quotes.contains c then t.dropLast else c :: t

def confirm (p : Pattern) (d : Document) (c : Candidate) (info : Option ScopeInfo) :
    Option Occurrence := do
  let info ← info
  let function := Text.slice c.function.1 c.function.2 d.text
  if info.text ≠ function || !info.innermostContains callMarker then none
  let kind ← p.classify (String.ofList function)
  let name := stripQuotes (Text.slice c.event.1 c.event.2 d.text)
  return ⟨kind, String.ofList name, ⟨d.uri, d.positionOf c.function.1⟩⟩

/-- Looks at candidates in order until a request to stop is found. `scopeAt` tells what a position
shows and may change its own state. -/
def examine {τ : Type} (scopeAt : τ → Position → Option ScopeInfo × τ) (p : Pattern)
    (d : Document) : τ → Option Cancellation → List Candidate → Extraction × τ
  | t, _, [] => (nothing, t)
  | t, cancel, c :: cs =>
    if cancel.any Cancellation.isRequested then (⟨[], false, 0⟩, t)
    else
      let (info, t) := scopeAt t (d.positionOf c.function.1)
      let (rest, t) := examine scopeAt p d t (cancel.map Cancellation.next) cs
      (⟨(confirm p d c info).toList ++ rest.occurrences, rest.isComplete, rest.queries + 1⟩, t)

/-- Finds the call sites of a document. A large document is skipped unless the work can be
cancelled. -/
def extract {τ : Type} (patterns : PatternTable) (maxFileSize : Nat)
    (scopeAt : τ → Position → Option ScopeInfo × τ) (d : Document) (cancel : Option Cancellation)
    (t : τ) : Extraction × τ :=
  match patterns.get? d.language with
  | none => (nothing, t)
  | some p =>
    if cancel.isNone && Text.size d.text > maxFileSize then (nothing, t)
    else examine scopeAt p d t cancel (candidates p d.text)

end Extraction

end EventXref
