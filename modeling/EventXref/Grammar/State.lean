import EventXref.Grammar.Scopes

namespace EventXref

/-- Where a context grammar stands: whether it has read a line, and its open contexts with the
innermost first. -/
structure ContextState where
  started : Bool
  stack : List String
deriving DecidableEq, Repr

inductive GrammarState where
  | markers (inComment : Bool)
  | contexts (state : ParserState ContextState)
deriving DecidableEq, Repr

end EventXref
