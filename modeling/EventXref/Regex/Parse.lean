import EventXref.Regex.Bracket
import EventXref.Text.Letter

namespace EventXref

namespace Regex

inductive Opening where
  | capture (index : Nat)
  | plain
  | ahead (holds : Bool)
deriving DecidableEq, Repr

/-- A part of a pattern with how deep it is nested. A change of settings is a part without a
pattern. -/
structure Part where
  regex : Option Regex
  depth : Nat
deriving DecidableEq, Repr

namespace Part

def depthOf (parts : List Part) : Nat :=
  let deepest := (parts.map depth).foldl max 0
  if parts.length < 2 then deepest else deepest + 1

def sequence (parts : List Part) : Part :=
  ⟨some (concat (parts.reverse.filterMap regex)), depthOf parts⟩

def alternation (parts : List Part) : Part :=
  ⟨some (choice (parts.reverse.filterMap regex)), depthOf parts⟩

def deeper (p : Part) (f : Regex → Regex) : Part := ⟨p.regex.map f, p.depth + 1⟩

end Part

structure Frame where
  opening : Opening
  outer : Flags
  choices : List Part
  parts : List Part
deriving DecidableEq, Repr

namespace Frame

def start (opening : Opening) (outer : Flags) : Frame := ⟨opening, outer, [], []⟩

def push (f : Frame) (p : Part) : Frame := { f with parts := p :: f.parts }

def nextChoice (f : Frame) : Frame :=
  { f with choices := Part.sequence f.parts :: f.choices, parts := [] }

def body (f : Frame) : Part := Part.alternation (Part.sequence f.parts :: f.choices)

def close (f : Frame) : Part :=
  f.body.deeper fun r =>
    match f.opening with
    | .capture i => .group i r
    | .plain => r
    | .ahead holds => .ahead holds r

end Frame

structure Reader where
  flags : Flags
  captured : Nat
  names : List (List Char)
  top : Frame
  below : List Frame
deriving DecidableEq, Repr

namespace Reader

def start (flags : Flags) : Reader := ⟨flags, 0, [], Frame.start .plain flags, []⟩

def push (s : Reader) (p : Part) : Reader := { s with top := s.top.push p }

def pushSimple (s : Reader) (r : Regex) : Reader := s.push ⟨some r, 0⟩

def pushSet (s : Reader) (members : CharSet) : Reader :=
  s.pushSimple (ofSet (!s.flags.unicode) members)

def pushLiteral (s : Reader) (c : Char) : Reader :=
  s.pushSet (s.flags.fold (CharSet.single c))

def openGroup (s : Reader) (opening : Opening) (inner : Flags) : Reader :=
  { s with flags := inner, top := Frame.start opening s.flags, below := s.top :: s.below }

def openCapture (s : Reader) : Reader :=
  { s with captured := s.captured + 1 }.openGroup (.capture (s.captured + 1)) s.flags

def closeGroup (s : Reader) : Option Reader :=
  match s.below with
  | [] => none
  | f :: fs => some { s with flags := s.top.outer, top := f.push s.top.close, below := fs }

def repeatLast (s : Reader) (least : Nat) (most : Option Nat) (greedy : Bool) : Option Reader :=
  match s.top.parts with
  | ⟨some r, depth⟩ :: parts =>
    let part := ⟨some (repeats r least most (greedy != s.flags.swapGreed)), depth + 1⟩
    some { s with top := { s.top with parts := part :: parts } }
  | _ => none

def finish (s : Reader) : Option Part := if s.below.isEmpty then some s.top.body else none

end Reader

def lazyMark : List Char → Bool × List Char
  | '?' :: t => (false, t)
  | t => (true, t)

def digitsWithin (f : Flags) : Nat → List Char → List Char × List Char
  | bound + 1, c :: t =>
    if c.isDigit then
      let (digits, rest) := digitsWithin f bound (skipSpace f t)
      (c :: digits, rest)
    else ([], c :: t)
  | _, t => ([], t)

def readDecimal (f : Flags) (t : List Char) : Option (Nat × List Char) :=
  let t := t.dropWhile Text.isBlank
  let (digits, rest) := digitsWithin f t.length t
  let n := digits.foldl (fun n c => n * 10 + (c.toNat - '0'.toNat)) 0
  if digits.isEmpty || n ≥ Nat.pow 2 32 then none else some (n, rest.dropWhile Text.isBlank)

def readBounds (f : Flags) (t : List Char) : Option (Nat × Option Nat × List Char) := do
  let (least, t) ← readDecimal f (skipSpace f t)
  match t with
  | '\x7d' :: t => return (least, some least, t)
  | ',' :: t =>
    match skipSpace f t with
    | '\x7d' :: t => return (least, none, t)
    | t =>
      let (most, t) ← readDecimal f t
      match t with
      | '\x7d' :: t => if least ≤ most then return (least, some most, t) else none
      | _ => none
  | _ => none

def Flags.switch? (f : Flags) (letter : Char) (on : Bool) : Option Flags :=
  match letter with
  | 'i' => some { f with caseless := on }
  | 'm' => some { f with multiLine := on }
  | 's' => some { f with dotAll := on }
  | 'U' => some { f with swapGreed := on }
  | 'x' => some { f with extended := on }
  | 'u' => some { f with unicode := on }
  | 'R' => some { f with carriageReturn := on }
  | _ => none

/-- Letters of settings up to a colon or a closing parenthesis, which is returned with the rest. A
dash, allowed once, switches off what follows it; no letter may come twice. -/
def readFlags (f : Flags) (off dangling : Bool) (seen : List Char) :
    List Char → Option (Flags × Char × List Char)
  | [] => none
  | c :: t =>
    if c = ':' ∨ c = ')' then
      if dangling || (c = ')' && seen.isEmpty) then none else some (f, c, t)
    else if c = '-' then if off then none else readFlags f true true seen t
    else if seen.contains c then none
    else match f.switch? c (!off) with
      | none => none
      | some f => readFlags f off false (c :: seen) t

def isGroupName : List Char → Bool
  | [] => false
  | c :: t => (c == '_' || Text.isAlphabetic c) &&
      t.all fun d => ['_', '.', '[', ']'].contains d || Text.isAlphanumeric d

def openNamed (s : Reader) (t : List Char) : Option (Reader × List Char) := do
  let (name, rest) ← Text.cut? ['>'] t
  if !isGroupName name || s.names.contains name then none
  return ({ s with names := name :: s.names }.openCapture, rest)

def openParenthesis (lookahead : Bool) (s : Reader) (t : List Char) : Option (Reader × List Char) :=
  match skipSpace s.flags t with
  | '?' :: '=' :: t => if lookahead then some (s.openGroup (.ahead true) s.flags, t) else none
  | '?' :: '!' :: t => if lookahead then some (s.openGroup (.ahead false) s.flags, t) else none
  | '?' :: '<' :: '=' :: _ => none
  | '?' :: '<' :: '!' :: _ => none
  | '?' :: 'P' :: '<' :: t => openNamed s t
  | '?' :: '<' :: t => openNamed s t
  | '?' :: t => do
    let (flags, mark, rest) ← readFlags s.flags false false [] t
    if mark = ')' then
      return ({ s with flags }.push ⟨none, 0⟩, rest)
    else return (s.openGroup .plain flags, rest)
  | t => some (s.openCapture, t)

def dotSet (f : Flags) : Option CharSet :=
  if !f.unicode then none
  else if f.dotAll then some CharSet.all
  else if f.carriageReturn then some (CharSet.ofChars ['\n', '\r']).compl
  else some (CharSet.single '\n').compl

def startAnchor (f : Flags) : Anchor :=
  if !f.multiLine then .textStart else if f.carriageReturn then .returnLineStart else .lineStart

def endAnchor (f : Flags) : Anchor :=
  if !f.multiLine then .textEnd else if f.carriageReturn then .returnLineEnd else .lineEnd

def readElement (lookahead : Bool) (s : Reader) (c : Char) (t : List Char) :
    Option (Reader × List Char) :=
  match c with
  | '(' => openParenthesis lookahead s t
  | ')' => s.closeGroup.map (·, t)
  | '|' => some ({ s with top := s.top.nextChoice }, t)
  | '[' => (bracketClass s.flags t).map fun (part, rest) =>
    (s.push ⟨some (ofSet (!s.flags.unicode) part.set), part.depth⟩, rest)
  | '?' => let (greedy, rest) := lazyMark t; (s.repeatLast 0 (some 1) greedy).map (·, rest)
  | '*' => let (greedy, rest) := lazyMark t; (s.repeatLast 0 none greedy).map (·, rest)
  | '+' => let (greedy, rest) := lazyMark t; (s.repeatLast 1 none greedy).map (·, rest)
  | '\x7b' => do
    let (least, most, rest) ← readBounds s.flags t
    let (greedy, rest) := lazyMark (skipSpace s.flags rest)
    return (← s.repeatLast least most greedy, rest)
  | '\\' => (readEscape s.flags t).map fun (escaped, rest) =>
    match escaped with
    | .literal c => (s.pushLiteral c, rest)
    | .set chars => (s.pushSet chars, rest)
    | .anchor a => (s.pushSimple (.anchor a), rest)
  | '.' => (dotSet s.flags).map fun chars => (s.pushSet chars, t)
  | '^' => some (s.pushSimple (.anchor (startAnchor s.flags)), t)
  | '$' => some (s.pushSimple (.anchor (endAnchor s.flags)), t)
  | c => some (s.pushLiteral c, t)

def readElements (lookahead : Bool) : Nat → Reader → List Char → Option Reader
  | 0, s, t => if t.isEmpty then some s else none
  | fuel + 1, s, t =>
    match skipSpace s.flags t with
    | [] => some s
    | c :: t =>
      match readElement lookahead s c t with
      | some (s, rest) => readElements lookahead fuel s rest
      | none => none

def maxDepth : Nat := 250

def parse? (lookahead : Bool) (flags : Flags) (pattern : List Char) : Option Regex := do
  let reader ← readElements lookahead pattern.length (Reader.start flags) pattern
  let whole ← reader.finish
  if maxDepth < whole.depth then none
  whole.regex

end Regex

end EventXref
