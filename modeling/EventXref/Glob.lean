import EventXref.Config.Basic
import EventXref.Glob.Part
import EventXref.Path
import EventXref.Regex.Search

namespace EventXref

namespace Glob

def byteChars (c : Char) : List Char :=
  (String.utf8EncodeChar c).map fun b => Char.ofNat b.toNat

/-- The bytes of a range of characters: those of each end, and those from the last byte of the first
to the first byte of the last. -/
def rangeSet (r : Char × Char) : CharSet :=
  let ends := CharSet.ofChars (byteChars r.1 ++ byteChars r.2)
  if r.1 = r.2 then ends
  else match (byteChars r.1).getLast?, (byteChars r.2).head? with
    | some a, some b => ends.union (CharSet.range a b)
    | _, _ => ends

def anyBytes : Regex := .rep (.set true CharSet.all) 0 none true

def slash : Regex := .literal ['/']

mutual
def Part.toRegex : Part → Regex
  | .literal c => .literal (byteChars c)
  | .any => .set true CharSet.all
  | .anything => anyBytes
  | .folders => .alt (.rep slash 0 (some 1) true) (.seq anyBytes slash)
  | .descendants => .seq slash anyBytes
  | .between => .alt slash (.seq slash (.seq anyBytes slash))
  | .oneOf negated ranges =>
    let members := CharSet.unions (ranges.map rangeSet)
    .set true (if negated then members.compl else members)
  | .choice branches =>
    match choices branches with
    | [] => .empty
    | r :: rs => rs.foldl Regex.alt r
def sequence : List Part → Regex
  | [] => .empty
  | p :: ps =>
    match p.toRegex, sequence ps with
    | .empty, rest => rest
    | r, .empty => r
    | r, rest => .seq r rest
def choices : List (List Part) → List Regex
  | [] => []
  | b :: bs =>
    match sequence b with
    | .empty => choices bs
    | r => r :: choices bs
end

def toRegex (parts : List Part) : Regex :=
  match parts with
  | [.folders] => anyBytes
  | _ => sequence parts

def Part.literal? : Part → Option Char
  | .literal c => some c
  | _ => none

def literals? (parts : List Part) : Option (List Char) := parts.mapM Part.literal?

def asksForName : List Part → Bool
  | .folders :: p :: ps => (literals? (p :: ps)).any fun cs => !cs.contains '/'
  | _ => false

def asksForExtension (parts : List Part) : Bool :=
  let inAnyFolder := match parts with
    | .folders :: ps => ps
    | ps => ps
  match inAnyFolder with
  | .anything :: .literal '.' :: ps =>
    (literals? ps).any fun cs => !cs.contains '.' && !cs.contains '/'
  | _ => false

def isBeginning (parts : List Part) : Bool :=
  match parts.reverse with
  | .anything :: ps => !ps.isEmpty && (literals? ps).isSome
  | .descendants :: ps => (literals? ps).isSome
  | ps => !ps.isEmpty && (literals? ps).isSome

def isEnd (parts : List Part) : Bool :=
  let rest := match parts with
    | .folders :: .anything :: ps => ps
    | .folders :: ps => ps
    | .anything :: ps => ps
    | ps => ps
  !rest.isEmpty && (literals? rest).isSome

def endsInExtension (parts : List Part) : Bool :=
  let final := (parts.reverse.map Part.literal?).takeWhile fun c => c.isSome && c != some '.'
  (parts.reverse.drop final.length).head?.any (fun p => p.literal? = some '.') &&
    !final.contains (some '/')

def asksForLast (parts : List Part) : Bool :=
  asksForName parts || asksForExtension parts ||
    (!isBeginning parts && !isEnd parts && endsInExtension parts)

end Glob

structure Glob where
  program : Program
  needsName : Bool
deriving DecidableEq, Repr

namespace Glob

def ofParts (parts : List Part) : Glob where
  program := Program.ofRegex (.seq (toRegex parts) (.anchor .textEnd))
  needsName := asksForLast parts

def isMatch (g : Glob) (path : Path) : Bool :=
  !(g.needsName && path.endsInParent) &&
    g.program.matchesStart (path.bytes.map fun b => Char.ofNat b.toNat)

end Glob

structure PathFilter where
  globs : List Glob
deriving DecidableEq, Repr

namespace PathFilter

def readAll : List String → Except ConfigError (List (List Glob.Part))
  | [] => .ok []
  | glob :: globs =>
    match Glob.read? glob with
    | none => .error (.invalidGlob glob)
    | some parts => do return parts :: (← readAll globs)

/-- Compiles globs together; if one is nested too deeply, all of them are named. -/
def compile (globs : List String) : Except ConfigError PathFilter := do
  let all ← readAll globs
  if all.any Glob.isTooDeep then .error (.invalidGlob (", ".intercalate globs))
  else .ok ⟨all.map Glob.ofParts⟩

def contains (s : PathFilter) (path : Path) : Bool := s.globs.any (·.isMatch path)

end PathFilter

end EventXref
