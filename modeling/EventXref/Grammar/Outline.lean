import EventXref.Text.Bytes

/-!
Outlines: documents whose structure is given by indentation, as grammar definitions are written. A
block is a mapping with one `key: value` a line or a list with one `- item` a line; a value is a
quoted or plain scalar, a list in brackets, or the block of the lines indented below it.
-/
namespace EventXref

inductive Outline where
  | scalar (text : List Char)
  | list (items : List Outline)
  | mapping (entries : List (String × Outline))

namespace Outline

structure Line where
  indent : Nat
  text : List Char
deriving DecidableEq, Repr

def isSpace (c : Char) : Bool := c == ' ' || c == '\t' || c == '\r'

def readLines (source : List Char) : List Line :=
  (Text.splitOn '\n' source).filterMap fun l =>
    let text := Text.trim isSpace l
    match text with
    | [] => none
    | '#' :: _ => none
    | '%' :: _ => none
    | ['-', '-', '-'] => none
    | _ => some ⟨(l.takeWhile (· == ' ')).length, text⟩

def singleQuoted : List Char → Option (List Char × List Char)
  | [] => none
  | '\'' :: '\'' :: t => (singleQuoted t).map fun (s, rest) => ('\'' :: s, rest)
  | '\'' :: t => some ([], t)
  | c :: t => (singleQuoted t).map fun (s, rest) => (c :: s, rest)

def doubleQuoted : List Char → Option (List Char × List Char)
  | [] => none
  | '"' :: t => some ([], t)
  | '\\' :: c :: t =>
    let escaped := match c with
      | '"' => some '"'
      | '\\' => some '\\'
      | '/' => some '/'
      | 'n' => some '\n'
      | 't' => some '\t'
      | 'r' => some '\r'
      | '0' => some '\x00'
      | _ => none
    match escaped, doubleQuoted t with
    | some c, some (s, rest) => some (c :: s, rest)
    | _, _ => none
  | c :: t => (doubleQuoted t).map fun (s, rest) => (c :: s, rest)

def endsValue (t : List Char) : Bool :=
  match t with
  | [] => true
  | c :: _ => isSpace c && (t.dropWhile isSpace).head?.all (· == '#')

def plainScalar : List Char → List Char
  | [] => []
  | ' ' :: '#' :: _ => []
  | c :: t => c :: plainScalar t

def indicators : List Char :=
  ['\x7b', '\x7d', ']', ',', '&', '*', '!', '|', '>', '%', '@', '\x60', '?']

def readItems (inside : List Char) : Outline :=
  let items := (Text.splitOn ',' inside).map (Text.trim isSpace)
  .list ((items.filter (· ≠ [])).map .scalar)

def readValue (t : List Char) : Option Outline :=
  let closed := fun (make : List Char → Outline) (read : Option (List Char × List Char)) =>
    read.bind fun (s, rest) => if endsValue rest then some (make s) else none
  match t with
  | [] => none
  | '\'' :: t => closed .scalar (singleQuoted t)
  | '"' :: t => closed .scalar (doubleQuoted t)
  | '[' :: t => closed readItems (Text.cut? [']'] t)
  | c :: _ =>
    if indicators.contains c then none
    else some (.scalar (Text.trimEnd isSpace (plainScalar t)))

def splitKey : List Char → Option (List Char × List Char)
  | [] => none
  | [':'] => some ([], [])
  | ':' :: c :: t =>
    if isSpace c then some ([], t.dropWhile isSpace)
    else (splitKey (c :: t)).map fun (key, rest) => (':' :: key, rest)
  | c :: t => (splitKey t).map fun (key, rest) => (c :: key, rest)

def splitBlock (indent : Nat) (ls : List Line) : List Line × List Line :=
  (ls.takeWhile (·.indent > indent), ls.dropWhile (·.indent > indent))

def item? (l : Line) : Option (List Char) :=
  match l.text with
  | ['-'] => some []
  | '-' :: ' ' :: t => some (t.dropWhile isSpace)
  | _ => none

def depth (ls : List Line) : Nat := (ls.head?.map Line.indent).getD 0

/-- Reads a block whose lines stand at `indent`; the number bounds the steps. -/
def readBlock : Nat → Nat → List Line → Option Outline
  | 0, _, _ => none
  | _, _, [] => none
  | fuel + 1, indent, l :: ls =>
    if l.indent ≠ indent then none
    else
      let (inner, rest) := splitBlock indent ls
      match item? l with
      | some first =>
        let offset := l.text.length - first.length
        let body := if first.isEmpty then inner else ⟨indent + offset, first⟩ :: inner
        match readBlock fuel (depth body) body with
        | none => none
        | some node =>
          if rest.isEmpty then some (.list [node])
          else match readBlock fuel indent rest with
            | some (.list nodes) => some (.list (node :: nodes))
            | _ => none
      | none =>
        match splitKey l.text with
        | none => if inner.isEmpty && rest.isEmpty then readValue l.text else none
        | some (key, value) =>
          let node :=
            if value.isEmpty || value.head? = some '#' then readBlock fuel (depth inner) inner
            else if inner.isEmpty then readValue value else none
          match node with
          | none => none
          | some node =>
            let key := String.ofList (Text.trimEnd isSpace key)
            if rest.isEmpty then some (.mapping [(key, node)])
            else match readBlock fuel indent rest with
              | some (.mapping entries) =>
                if (entries.lookup key).isSome then none
                else some (.mapping ((key, node) :: entries))
              | _ => none

def read? (source : List Char) : Option Outline :=
  let ls := readLines source
  readBlock (2 * source.length + 1) (depth ls) ls

def get? (key : String) : Outline → Option Outline
  | .mapping entries => entries.lookup key
  | _ => none

def text? : Outline → Option (List Char)
  | .scalar t => some t
  | _ => none

end Outline

end EventXref
