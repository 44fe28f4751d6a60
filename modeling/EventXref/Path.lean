import EventXref.Text.Bytes
import EventXref.Text.Utf8

/-!
File paths: bytes with `/` between names, which need not spell a text. Repeated and trailing slashes
and inner `.` names mean nothing when paths are compared; `..` stays a name of its own.
-/
namespace EventXref

structure Path where
  bytes : List UInt8
deriving DecidableEq, Repr

namespace Path

def ofString (s : String) : Path := ⟨Text.toBytes s.toList⟩

def text (p : Path) : String := String.ofList (Text.ofBytes p.bytes)

inductive Component where
  | root
  | current
  | parent
  | name (bytes : List UInt8)
deriving DecidableEq, Repr

def slash : UInt8 := 0x2F

def dot : UInt8 := 0x2E

def readComponents (first : Bool) : List (List UInt8) → List Component
  | [] => []
  | part :: parts =>
    let rest := readComponents false parts
    if part = [] then readComponents first parts
    else if part = [dot] then if first then .current :: rest else rest
    else if part = [dot, dot] then .parent :: rest
    else .name part :: rest

def isAbsolute (p : Path) : Bool := p.bytes.head? = some slash

def components (p : Path) : List Component :=
  let parts := Text.splitOn slash p.bytes
  if p.isAbsolute then .root :: readComponents false parts else readComponents true parts

def names (cs : List Component) : List String :=
  cs.filterMap fun
    | .name bytes => (Text.decode? bytes).map String.ofList
    | _ => none

def behind? : (leading all : List Component) → Option (List Component)
  | [], rest => some rest
  | _ :: _, [] => none
  | r :: rs, c :: cs => if r = c then behind? rs cs else none

def below? (root p : Path) : Option (List Component) := behind? root.components p.components

def join (p q : Path) : Path :=
  if q.isAbsolute then q
  else if p.bytes.isEmpty || p.bytes.getLast? = some slash then ⟨p.bytes ++ q.bytes⟩
  else ⟨p.bytes ++ slash :: q.bytes⟩

def fileName? (p : Path) : Option (List UInt8) :=
  match p.components.getLast? with
  | some (.name bytes) => some bytes
  | _ => none

def endsInParent (p : Path) : Bool := (Text.splitOn slash p.bytes).getLast? = some [dot, dot]

/-- What stands behind the last dot of the file name, unless the name starts with that dot. It has
to spell a text. -/
def extension? (p : Path) : Option String := do
  let name ← p.fileName?
  let reversed := name.reverse
  let ext := reversed.takeWhile (· ≠ dot)
  let stem := (reversed.dropWhile (· ≠ dot)).drop 1
  if stem.isEmpty then none else (Text.decode? ext.reverse).map String.ofList

def isGrouping (name : String) : Bool :=
  name.toList.length ≥ 2 && name.toList.head? = some '[' && name.toList.getLast? = some ']'

/-- The path below a resources folder without its leading grouping folders, unless it has nothing
else; a path outside the folder is shown as it is. -/
def display (root p : Path) : String :=
  match below? root p with
  | none => p.text
  | some rest =>
    let all := names rest
    let kept := all.dropWhile isGrouping
    "/".intercalate (if kept.isEmpty then all else kept)

end Path

end EventXref
