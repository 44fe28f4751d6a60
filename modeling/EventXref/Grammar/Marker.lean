import EventXref.Grammar.Basic
import EventXref.Grammar.State
import EventXref.Text.Blank
import EventXref.Text.Letter
import EventXref.Text.Quoted

/-!
Grammars given by comment markers. They know line comments, one pair of block comment markers,
quoted strings and identifiers; an identifier with an opening parenthesis behind it is a call. A
block comment is all that reaches from one line into the next.

A source has one setting a line: `line_comment=--` or `block_comment=/* */`.
-/
namespace EventXref

structure MarkerGrammar where
  scope : String
  lineComment : Option (List Char)
  blockComment : Option (List Char × List Char)
deriving DecidableEq, Repr

namespace MarkerGrammar

inductive Kind where
  | blockComment
  | lineComment
  | string
  | blank
  | call
  | identifier
  | punctuation
deriving DecidableEq, Repr

def Kind.scope : Kind → String
  | .blockComment => "comment.block"
  | .lineComment => "comment.line"
  | .string => "string.quoted"
  | .blank => "whitespace"
  | .call => "entity.name.function.call"
  | .identifier => "variable.other"
  | .punctuation => "punctuation"

structure Step where
  kind : Kind
  text : List Char
  rest : List Char
  inComment : Bool

def commentStep (close opened body : List Char) : Step :=
  match Text.cut? close body with
  | some (before, rest) => ⟨.blockComment, opened ++ before ++ close, rest, false⟩
  | none => ⟨.blockComment, opened ++ body, [], true⟩

/-- The rest of a string up to its closing quote, and what stands behind it. A backslash takes the
meaning of a quote from the next character. -/
def splitString (quote : Char) (escaped : Bool) : List Char → List Char × List Char
  | [] => ([], [])
  | c :: t =>
    if c = quote ∧ escaped = false then ([c], t)
    else
      let (body, rest) := splitString quote (c = '\\' && !escaped) t
      (c :: body, rest)

def startsIdentifier (c : Char) : Bool := Text.isAlphabetic c || c == '_'

def continuesIdentifier (c : Char) : Bool := Text.isAlphanumeric c || c == '_'

def opensCall (t : List Char) : Bool := (t.dropWhile Text.isBlank).head? == some '('

def codeStep (c : Char) (t : List Char) : Step :=
  if c = '"' ∨ c = '\'' then
    let (body, rest) := splitString c false t
    ⟨.string, c :: body, rest, false⟩
  else if Text.isBlank c then
    ⟨.blank, c :: t.takeWhile Text.isBlank, t.dropWhile Text.isBlank, false⟩
  else if startsIdentifier c then
    let rest := t.dropWhile continuesIdentifier
    let kind := if opensCall rest then .call else .identifier
    ⟨kind, c :: t.takeWhile continuesIdentifier, rest, false⟩
  else ⟨.punctuation, [c], t, false⟩

def startsLineComment (g : MarkerGrammar) (line : List Char) : Bool :=
  g.lineComment.any fun marker => (Text.after? marker line).isSome

def step (g : MarkerGrammar) (inComment : Bool) (c : Char) (t : List Char) : Step :=
  let line := c :: t
  if inComment then
    match g.blockComment with
    | some (_, close) => commentStep close [] line
    | none => ⟨.blockComment, line, [], false⟩
  else
    let opened := g.blockComment.bind fun (opening, close) =>
      (Text.after? opening line).map fun body => commentStep close opening body
    match opened with
    | some s => s
    | none =>
      if g.startsLineComment line then ⟨.lineComment, line, [], false⟩ else codeStep c t

/-- The tokens of a line from byte `start` on, and whether a block comment is open at its end. The
number bounds the tokens and is never reached when it is the line's length. -/
def scan (g : MarkerGrammar) : Nat → Nat → Bool → List Char → List Token × Bool
  | 0, _, inComment, _ => ([], inComment)
  | _, _, inComment, [] => ([], inComment)
  | fuel + 1, start, inComment, c :: t =>
    let s := g.step inComment c t
    let stop := start + Text.size s.text
    let (tokens, open_) := g.scan fuel stop s.inComment s.rest
    (⟨start, stop, [g.scope, s.kind.scope]⟩ :: tokens, open_)

def tokenizeLine (g : MarkerGrammar) (state : GrammarState) (line : List Char) :
    LineTokens GrammarState :=
  let (tokens, inComment) := g.scan line.length 0 (state = .markers true) line
  ⟨tokens, .markers inComment⟩

def toGrammar (g : MarkerGrammar) : Grammar GrammarState where
  scopeName := g.scope
  initial := .markers false
  tokenizeLine := g.tokenizeLine

def readSetting (g : MarkerGrammar) (line : List Char) : Except String MarkerGrammar :=
  match Text.cut? ['='] line with
  | none => .error ("expected key=value, got " ++ Text.quoted (String.ofList line))
  | some (key, value) =>
    let key := String.ofList (Text.trim Text.isBlank key)
    let value := Text.trim Text.isBlank value
    if key = "line_comment" then .ok { g with lineComment := some value }
    else if key = "block_comment" then
      match Text.cut? [' '] value with
      | none => .error "block_comment needs open and close markers"
      | some (opening, close) =>
        .ok { g with blockComment := some (opening, Text.trim Text.isBlank close) }
    else .error ("unknown key " ++ Text.quoted key)

def readSettings (g : MarkerGrammar) : List (List Char) → Except String MarkerGrammar
  | [] => .ok g
  | line :: lines => do (← g.readSetting line).readSettings lines

def parse (scope source : String) : Except GrammarError MarkerGrammar :=
  let lines := (Text.splitOn '\n' source.toList).map (Text.trim Text.isBlank)
  match readSettings ⟨scope, none, none⟩ (lines.filter (· ≠ [])) with
  | .ok g => .ok g
  | .error message => .error (.compile scope message)

end MarkerGrammar

def markerEngine : Engine GrammarState where
  compile scope source := (MarkerGrammar.parse scope source).map MarkerGrammar.toGrammar

end EventXref
