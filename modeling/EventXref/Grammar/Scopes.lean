import EventXref.Grammar.Basic

/-!
Tokens from scope operations. A parser says at which offsets of a line scopes are opened and closed;
a token reaches from one such offset to the next and has the scopes that are open in between.
-/
namespace EventXref

inductive ClearAmount where
  | top (count : Nat)
  | all
deriving DecidableEq, Repr

inductive ScopeOp where
  | push (scope : String)
  | pop (count : Nat)
  | clear (amount : ClearAmount)
  | restore
  | noop
deriving DecidableEq, Repr

/-- The open scopes, the outermost first, and those that were cleared, the last ones first. -/
structure ScopeStack where
  scopes : List String
  cleared : List (List String)
deriving DecidableEq, Repr

namespace ScopeStack

def empty : ScopeStack := ⟨[], []⟩

def apply (s : ScopeStack) : ScopeOp → Option ScopeStack
  | .push scope => some { s with scopes := s.scopes ++ [scope] }
  | .pop count => some { s with scopes := s.scopes.take (s.scopes.length - count) }
  | .clear amount =>
    let kept := match amount with
      | .top count => s.scopes.length - count
      | .all => 0
    some ⟨s.scopes.take kept, s.scopes.drop kept :: s.cleared⟩
  | .restore =>
    match s.cleared with
    | [] => none
    | scopes :: cleared => some ⟨s.scopes ++ scopes, cleared⟩
  | .noop => some s

def step (s : ScopeStack) (op : ScopeOp) : ScopeStack := (s.apply op).getD s

end ScopeStack

structure ParserState (π : Type) where
  parse : π
  scopes : ScopeStack
deriving DecidableEq, Repr

/-- A parser that goes through a text line by line and can fail on a line. Its states are kept among
states of a type that may have others. -/
structure LineParser (π σ : Type) where
  scope : String
  initial : π
  parseLine : π → List Char → Option (List (Nat × ScopeOp) × π)
  keep : ParserState π → σ
  own? : σ → Option (ParserState π)
  own?_keep : ∀ s, own? (keep s) = some s

namespace LineParser

variable {π σ : Type}

def cut (size : Nat) : List (Nat × ScopeOp) → (start : Nat) → ScopeStack → List Token × ScopeStack
  | [], start, s => (if start < size then [⟨start, size, s.scopes⟩] else [], s)
  | (offset, op) :: ops, start, s =>
    if start < offset then
      let (tokens, last) := cut size ops offset (s.step op)
      (⟨start, offset, s.scopes⟩ :: tokens, last)
    else cut size ops start (s.step op)

def start (parser : LineParser π σ) : ParserState π := ⟨parser.initial, .empty⟩

def tokenizeLine (parser : LineParser π σ) (state : σ) (line : List Char) : LineTokens σ :=
  let s := (parser.own? state).getD parser.start
  match parser.parseLine s.parse line with
  | none => ⟨[⟨0, Text.size line, s.scopes.scopes⟩], state⟩
  | some (ops, parse) =>
    let (tokens, scopes) := cut (Text.size line) ops 0 s.scopes
    ⟨tokens, parser.keep ⟨parse, scopes⟩⟩

def toGrammar (parser : LineParser π σ) : Grammar σ where
  scopeName := parser.scope
  initial := parser.keep parser.start
  tokenizeLine := parser.tokenizeLine

end LineParser

end EventXref
