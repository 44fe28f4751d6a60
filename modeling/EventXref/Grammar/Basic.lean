import EventXref.Position
import EventXref.Text.Bytes

namespace EventXref

/-- A classified stretch of one line, with its scopes from the least to the most specific. -/
structure Token where
  start : Nat
  stop : Nat
  scopes : List String
deriving DecidableEq, Repr

namespace Token

def contains (t : Token) (column : Nat) : Bool := t.start ≤ column && column < t.stop

def innermost? (t : Token) : Option String := t.scopes.getLast?

end Token

structure LineTokens (σ : Type) where
  tokens : List Token
  endState : σ

structure Grammar (σ : Type) where
  scopeName : String
  initial : σ
  tokenizeLine : σ → List Char → LineTokens σ

namespace Grammar

variable {σ : Type}

def statesFrom (g : Grammar σ) (s : σ) : List (List Char) → List σ
  | [] => []
  | l :: ls =>
    let s' := (g.tokenizeLine s l).endState
    s' :: g.statesFrom s' ls

def states (g : Grammar σ) (lines : List (List Char)) : List σ := g.statesFrom g.initial lines

def tokensFrom (g : Grammar σ) (s : σ) : List (List Char) → List (List Token)
  | [] => []
  | l :: ls =>
    let out := g.tokenizeLine s l
    out.tokens :: g.tokensFrom out.endState ls

def tokens (g : Grammar σ) (lines : List (List Char)) : List (List Token) :=
  g.tokensFrom g.initial lines

end Grammar

structure ScopeInfo where
  span : Span
  text : List Char
  scopes : List String
deriving DecidableEq, Repr

namespace ScopeInfo

def innermost? (s : ScopeInfo) : Option String := s.scopes.getLast?

def innermostContains (s : ScopeInfo) (marker : String) : Bool :=
  s.innermost?.any fun scope => Text.occursIn marker.toList scope.toList

end ScopeInfo

inductive GrammarError where
  | unknownLanguage (language : String)
  | notFound (scope : String)
  | compile (scope message : String)
  | unreadable
deriving DecidableEq, Repr

namespace GrammarError

def message : GrammarError → String
  | .unknownLanguage language => "no grammar scope registered for language: " ++ language
  | .notFound scope => "grammar not found: " ++ scope
  | .compile scope message => "failed to compile grammar " ++ scope ++ ": " ++ message
  | .unreadable => "grammar file cannot be read"

end GrammarError

structure Engine (σ : Type) where
  compile : (scope source : String) → Except GrammarError (Grammar σ)

end EventXref
