import EventXref.Regex.Basic
import EventXref.Text.Property

namespace EventXref

namespace Regex

structure Flags where
  caseless : Bool
  multiLine : Bool
  dotAll : Bool
  swapGreed : Bool
  extended : Bool
  unicode : Bool
  carriageReturn : Bool
deriving DecidableEq, Repr

def Flags.plain : Flags := ⟨false, false, false, false, false, true, false⟩

def Flags.fold (f : Flags) (s : CharSet) : CharSet :=
  if f.caseless then if f.unicode then s.foldCase else s.foldAsciiCase else s

def dropSpace (inComment : Bool) : List Char → List Char
  | [] => []
  | c :: t =>
    if inComment then dropSpace (c ≠ '\n') t
    else if Text.isBlank c then dropSpace false t
    else if c = '#' then dropSpace true t
    else c :: t

def skipSpace (f : Flags) (t : List Char) : List Char := if f.extended then dropSpace false t else t

def braced (f : Flags) (inComment : Bool) : List Char → Option (List Char × List Char)
  | [] => none
  | c :: t =>
    if inComment then braced f (c ≠ '\n') t
    else if f.extended && Text.isBlank c then braced f false t
    else if f.extended && c = '#' then braced f true t
    else if c = '\x7d' then some ([], t)
    else (braced f false t).map fun (inside, rest) => (c :: inside, rest)

def isMeta (c : Char) : Bool :=
  ['\\', '.', '+', '*', '?', '(', ')', '|', '[', ']', '\x7b', '\x7d', '^', '$', '#', '&', '-',
    '~'].contains c

def escape (t : List Char) : List Char := t.flatMap fun c => if isMeta c then ['\\', c] else [c]

inductive Escaped where
  | literal (c : Char)
  | set (s : CharSet)
  | anchor (a : Anchor)
deriving DecidableEq, Repr

def charOfCode? (n : Nat) : Option Char :=
  if h : n.isValidChar then some (Char.ofNatAux n h) else none

def hexDigits? (f : Flags) : Nat → List Char → Option (List Char × List Char)
  | 0, t => some ([], t)
  | _ + 1, [] => none
  | n + 1, c :: t =>
    if (Text.hexDigit? c).isSome then
      (hexDigits? f n (skipSpace f t)).map fun (digits, rest) => (c :: digits, rest)
    else none

/-- A code point in hexadecimal: in braces, or in so many digits. Without Unicode two digits stand
for a byte, and one of eight bits is refused. -/
def hexEscape (f : Flags) (digits : Nat) (t : List Char) : Option (Escaped × List Char) :=
  match skipSpace f t with
  | '\x7b' :: t => do
    let (code, rest) ← braced f false t
    let c ← charOfCode? (← Text.hexNumber? code)
    return (.literal c, skipSpace f rest)
  | t => do
    let (code, rest) ← hexDigits? f digits t
    let c ← charOfCode? (← Text.hexNumber? code)
    if !f.unicode && digits = 2 && 0x80 ≤ c.toNat then none
    return (.literal c, rest)

def classEscape (f : Flags) (members ascii : CharSet) (negated : Bool) : Option Escaped :=
  if f.unicode then some (.set (if negated then members.compl else members))
  else if negated then none
  else some (.set ascii)

def propertyEscape (f : Flags) (negated : Bool) (t : List Char) :
    Option (Escaped × List Char) := do
  if !f.unicode then none
  let (name, rest) ← match skipSpace f t with
    | [] => none
    | '\\' :: _ => none
    | '\x7b' :: t => braced f false t
    | c :: t => some ([c], skipSpace f t)
  let (members, others) ← Text.Property.described? name
  let members := f.fold members
  return (.set (if negated != others then members.compl else members), rest)

def isBoundaryNameChar (c : Char) : Bool := c.isAlpha || c == '-'

def boundaryEscape (f : Flags) (t : List Char) : Option (Escaped × List Char) :=
  let ascii := !f.unicode
  let plain := some (Escaped.anchor (.wordBoundary ascii), t)
  match t with
  | '\x7b' :: inside =>
    match skipSpace f inside with
    | [] => none
    | c :: _ =>
      if !isBoundaryNameChar c then plain
      else (braced f false inside).bind fun (name, rest) =>
        match String.ofList name with
        | "start" => some (.anchor (.wordStart ascii), rest)
        | "end" => some (.anchor (.wordEnd ascii), rest)
        | "start-half" => some (.anchor (.wordStartHalf ascii), rest)
        | "end-half" => some (.anchor (.wordEndHalf ascii), rest)
        | _ => none
  | _ => plain

def readEscape (f : Flags) : List Char → Option (Escaped × List Char)
  | [] => none
  | c :: t =>
    let ascii := !f.unicode
    let plain := fun (e : Escaped) => some (e, t)
    let classOf := fun members asciiMembers negated =>
      (classEscape f members asciiMembers negated).map (·, t)
    if isMeta c then plain (.literal c)
    else match c with
      | 'd' => classOf Text.digitChars Text.asciiDigitChars false
      | 'D' => classOf Text.digitChars Text.asciiDigitChars true
      | 's' => classOf Text.blankChars Text.asciiBlankChars false
      | 'S' => classOf Text.blankChars Text.asciiBlankChars true
      | 'w' => classOf Text.wordChars Text.asciiWordChars false
      | 'W' => classOf Text.wordChars Text.asciiWordChars true
      | 'p' => propertyEscape f false t
      | 'P' => propertyEscape f true t
      | 'x' => hexEscape f 2 t
      | 'u' => hexEscape f 4 t
      | 'U' => hexEscape f 8 t
      | 'a' => plain (.literal '\x07')
      | 'f' => plain (.literal '\x0c')
      | 't' => plain (.literal '\t')
      | 'n' => plain (.literal '\n')
      | 'r' => plain (.literal '\r')
      | 'v' => plain (.literal '\x0b')
      | 'A' => plain (.anchor .textStart)
      | 'z' => plain (.anchor .textEnd)
      | 'b' => boundaryEscape f t
      | 'B' => plain (.anchor (.insideOrOutsideWord ascii))
      | '<' => plain (.anchor (.wordStart ascii))
      | '>' => plain (.anchor (.wordEnd ascii))
      | c => if c.toNat < 0x80 && !c.isAlphanum then plain (.literal c) else none

end Regex

end EventXref
