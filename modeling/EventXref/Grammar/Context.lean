import EventXref.Grammar.Basic
import EventXref.Grammar.Outline
import EventXref.Grammar.State
import EventXref.Regex.Parse
import EventXref.Regex.Search
import EventXref.Text.Blank

/-!
Grammars given by contexts. A context is a list of rules; in a line the earliest match of a rule of
the innermost open context counts, at one place the rule listed first. A rule gives its match a
scope and may open a context or close the one it stands in. The open contexts reach from one line
into the next.
-/
namespace EventXref

inductive ContextMove where
  | stay
  | push (context : String)
  | pop
deriving DecidableEq, Repr

structure ContextRule where
  regex : Regex
  pattern : Program
  compiled : pattern = .ofRegex regex
  scopes : List String
  move : ContextMove

structure Context where
  scopes : List String
  rules : List ContextRule

structure ContextGrammar where
  scope : String
  contexts : List (String × Context)

namespace ContextGrammar

def outermost : String := "main"

def context? (g : ContextGrammar) (name : String) : Option Context := g.contexts.lookup name

def current (g : ContextGrammar) (stack : List String) : Context :=
  (stack.head?.bind g.context?).getD ⟨[], []⟩

/-- The match that counts next, with its rule. A match of nothing does not count. -/
def nearest : List ContextRule → Cursor → Option (ContextRule × Match)
  | [], _ => none
  | rule :: rules, p =>
    let found := (rule.pattern.find? p).filter fun m => m.start < m.stop
    match found, nearest rules p with
    | some m, some (other, n) => if m.start ≤ n.start then some (rule, m) else some (other, n)
    | some m, none => some (rule, m)
    | none, later => later

def advance (offset : Nat) (p : Cursor) : Cursor :=
  go p.before p.offset p.rest
where
  go (before : Option Char) (at_ : Nat) : List Char → Cursor
    | [] => ⟨before, [], at_⟩
    | c :: t => if offset ≤ at_ then ⟨before, c :: t, at_⟩ else go (some c) (at_ + c.utf8Size) t

def closing (scopes : List String) : List ScopeOp :=
  if scopes.isEmpty then [] else [.pop scopes.length]

/-- The operations where a match of a rule begins and where it ends, and the open contexts behind
it; nothing if the rule opens a context that there is not. The match that opens a context and the one
that closes it both stand in it. -/
def effect (g : ContextGrammar) (rule : ContextRule) (stack : List String) :
    Option (List ScopeOp × List ScopeOp × List String) :=
  let opening := rule.scopes.map ScopeOp.push
  match rule.move with
  | .stay => some (opening, closing rule.scopes, stack)
  | .push name => (g.context? name).map fun c =>
    (c.scopes.map .push ++ opening, closing rule.scopes, name :: stack)
  | .pop => some (opening, closing rule.scopes ++ closing (g.current stack).scopes, stack.tail)

/-- The operations from a place on, and the open contexts at the end of the line; nothing if the line
cannot be read. The number bounds the matches and is never reached when it is the line's length. -/
def operations (g : ContextGrammar) : Nat → List String → Cursor →
    Option (List (Nat × ScopeOp) × List String)
  | 0, stack, _ => some ([], stack)
  | fuel + 1, stack, p =>
    match nearest (g.current stack).rules p with
    | none => some ([], stack)
    | some (rule, m) => do
      let (opening, closing, stack) ← g.effect rule stack
      let (ops, last) ← g.operations fuel stack (advance m.stop p)
      return (opening.map (m.start, ·) ++ closing.map (m.stop, ·) ++ ops, last)

def parseLine (g : ContextGrammar) (s : ContextState) (line : List Char) :
    Option (List (Nat × ScopeOp) × ContextState) :=
  -- The grammar's own scope comes in with the first line.
  let first := if s.started then [] else [(0, ScopeOp.push g.scope)]
  (g.operations line.length s.stack ⟨none, line, 0⟩).map fun (ops, stack) =>
    (first ++ ops, ⟨true, stack⟩)

def parser (g : ContextGrammar) : LineParser ContextState GrammarState where
  scope := g.scope
  initial := ⟨false, [outermost]⟩
  parseLine := g.parseLine
  keep := .contexts
  own?
    | .contexts s => some s
    | .markers _ => none
  own?_keep _ := rfl

def readScopes (t : List Char) : List String :=
  ((Text.splitOn ' ' t).filter (· ≠ [])).map String.ofList

def scalar? (node : Outline) (key : String) : Option (Option (List Char)) :=
  match node.get? key with
  | none => some none
  | some value => value.text?.map some

def readMove (node : Outline) : Option ContextMove := do
  let push ← scalar? node "push"
  let pop ← scalar? node "pop"
  match push, pop with
  | some name, none => some (.push (String.ofList name))
  | none, some value => if value = "true".toList then some .pop else none
  | none, none => some .stay
  | _, _ => none

def readRule (node : Outline) : Option ContextRule := do
  let pattern ← (← node.get? "match").text?
  let regex ← Regex.parse? true Regex.Flags.plain pattern
  let scopes ← scalar? node "scope"
  return ⟨regex, .ofRegex regex, rfl, readScopes (scopes.getD []), ← readMove node⟩

def readContext : List Outline → Option Context
  | [] => some ⟨[], []⟩
  | node :: nodes => do
    let rest ← readContext nodes
    match ← scalar? node "meta_scope" with
    | some scopes => some { rest with scopes := readScopes scopes }
    | none => return { rest with rules := (← readRule node) :: rest.rules }

def readContexts : List (String × Outline) → Option (List (String × Context))
  | [] => some []
  | (name, .list nodes) :: entries => do
    return (name, ← readContext nodes) :: (← readContexts entries)
  | _ => none

def parse? (source : List Char) : Option ContextGrammar := do
  let root ← Outline.read? source
  let scope ← (← root.get? "scope").text?
  match ← root.get? "contexts" with
  | .mapping entries =>
    let contexts ← readContexts entries
    if (contexts.lookup outermost).isSome then some ⟨String.ofList scope, contexts⟩ else none
  | _ => none

def maxParts : Nat := 8

def compile (scope source : String) : Except GrammarError (Grammar GrammarState) :=
  if maxParts < (Text.splitOn '.' scope.toList).length then
    .error (.compile scope "too many parts in the scope name")
  else if source.toList.all Text.isBlank then .error (.notFound scope)
  else match parse? source.toList with
    | none => .error (.compile scope "not a grammar definition")
    | some g => if g.scope = scope then .ok g.parser.toGrammar else .error (.notFound scope)

end ContextGrammar

def contextEngine : Engine GrammarState where
  compile := ContextGrammar.compile

end EventXref
