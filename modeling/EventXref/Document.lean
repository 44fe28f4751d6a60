import EventXref.Change
import EventXref.Uri

namespace EventXref

structure Document where
  uri : Uri
  language : String
  version : Int
  text : List Char
deriving DecidableEq, Repr

namespace Document

def fullLines (d : Document) : List (List Char) := Text.splitLines d.text

def lines (d : Document) : List (List Char) := d.fullLines.map Text.content

def lineCount (d : Document) : Nat := Text.breaks d.text + 1

def line (d : Document) (i : Nat) : List Char := Text.content (d.fullLines.getD i [])

theorem length_fullLines (d : Document) : d.fullLines.length = d.lineCount :=
  Text.length_splitLines d.text

theorem line_eq_getD (d : Document) (i : Nat) : d.line i = d.lines.getD i [] := by
  simp only [line, lines, List.getD_eq_getElem?_getD, List.getElem?_map]
  cases d.fullLines[i]? <;> rfl

def locate : List (List Char) → Nat → Position
  | [], byte => ⟨0, byte⟩
  -- No break ends the last line, so it takes every offset that is left.
  | [_], byte => ⟨0, byte⟩
  | l :: ls, byte =>
    if byte < Text.size l then ⟨0, byte⟩
    else
      let p := locate ls (byte - Text.size l)
      ⟨p.line + 1, p.column⟩

def positionOf (d : Document) (byte : Nat) : Position :=
  locate d.fullLines (min byte (Text.size d.text))

def offset? : List (List Char) → Position → Option Nat
  | [], _ => none
  | l :: _, ⟨0, column⟩ => if column ≤ Text.size l then some column else none
  | l :: ls, ⟨line + 1, column⟩ => (offset? ls ⟨line, column⟩).map (Text.size l + ·)

/-- The byte offset of a position. A column may reach the end of the line's ending. -/
def byteOf? (d : Document) (p : Position) : Option Nat := offset? d.fullLines p

/-- The nearest position inside the lines' contents: first the line is lowered, then the column. -/
def clamp (d : Document) (p : Position) : Position :=
  let line := min p.line (d.lineCount - 1)
  ⟨line, min p.column (Text.size (d.line line))⟩

def path (d : Document) : Path := d.uri.path

end Document

end EventXref
