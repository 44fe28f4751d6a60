/-!
What globs are made of, and how they are read. `?` is one byte and `*` any bytes, slashes included.
`**` between slashes or at an end stands for whole folders, brackets for one byte out of several,
and braces for one of some globs.
-/
namespace EventXref

namespace Glob

inductive Part where
  | literal (c : Char)
  | any
  | anything
  | folders
  | descendants
  | between
  | oneOf (negated : Bool) (ranges : List (Char × Char))
  | choice (branches : List (List Part))

/-- A glob while it is being read: the parts of the current branch, the latest first, and for every
open brace the branches before and the parts around it. -/
structure Reading where
  branch : List Part
  opened : List (List (List Part) × List Part)

namespace Reading

def add (r : Reading) (part : Part) : Reading := { r with branch := part :: r.branch }

def isInside (r : Reading) : Bool := !r.opened.isEmpty

def openBrace (r : Reading) : Reading := ⟨[], ([], r.branch) :: r.opened⟩

def comma (r : Reading) : Reading :=
  match r.opened with
  | [] => r.add (.literal ',')
  | (branches, around) :: opened => ⟨[], (branches ++ [r.branch.reverse], around) :: opened⟩

def closeBrace? (r : Reading) : Option Reading :=
  match r.opened with
  | [] => none
  | (branches, around) :: opened =>
    some ⟨.choice (branches ++ [r.branch.reverse]) :: around, opened⟩

/-- Puts a part for folders in the place of the slash in front of it; one for leading or trailing
folders swallows it. -/
def replaceSlash (r : Reading) (part : Part) : Reading :=
  match r.branch with
  | .folders :: _ => r
  | .descendants :: _ => r
  | _ :: branch => { r with branch := part :: branch }
  | [] => { r with branch := [part] }

def stars (r : Reading) (before : Option Char) (t : List Char) : Reading × List Char :=
  let plain := ((r.add .anything).add .anything, t)
  if r.branch.isEmpty then
    match t with
    | [] => (r.add .folders, [])
    | '/' :: rest => (r.add .folders, rest)
    | _ => plain
  else if before = some '/' ∨ (r.isInside ∧ (before = some ',' ∨ before = some '\x7b')) then
    match t with
    | [] => (r.replaceSlash .descendants, [])
    | '/' :: rest => (r.replaceSlash .between, rest)
    | c :: _ =>
      if r.isInside ∧ (c = ',' ∨ c = '\x7d') then (r.replaceSlash .descendants, t) else plain
  else plain

end Reading

def classRanges (first inRange : Bool) (ranges : List (Char × Char)) :
    List Char → Option (List (Char × Char) × List Char)
  | [] => none
  | c :: t =>
    if c = ']' ∧ first = false then some (if inRange then ('-', '-') :: ranges else ranges, t)
    else if inRange then
      match ranges with
      | (lo, _) :: ranges =>
        if c.toNat < lo.toNat then none else classRanges false false ((lo, c) :: ranges) t
      | [] => none
    else if c = '-' ∧ first = false then classRanges false true ranges t
    else classRanges false false ((c, c) :: ranges) t

def class? (t : List Char) : Option (Part × List Char) :=
  let negated := t.head? = some '!' ∨ t.head? = some '^'
  (classRanges true false [] (if negated then t.tail else t)).map fun (ranges, rest) =>
    (.oneOf negated ranges, rest)

def parts? : Nat → Option Char → Reading → List Char → Option (List Part)
  | 0, _, _, _ => none
  | _, _, r, [] => if r.isInside then none else some r.branch.reverse
  | fuel + 1, before, r, c :: t =>
    match c with
    | '?' => parts? fuel (some c) (r.add .any) t
    | '*' =>
      match t with
      | '*' :: t =>
        let (r', rest) := r.stars before t
        -- A slash that belongs to the stars is the character before what follows.
        parts? fuel (some (if rest.length < t.length then '/' else '*')) r' rest
      | _ => parts? fuel (some c) (r.add .anything) t
    | '[' => (class? t).bind fun (part, rest) => parts? fuel (some ']') (r.add part) rest
    | '\x7b' => parts? fuel (some c) r.openBrace t
    | '\x7d' => r.closeBrace?.bind fun r => parts? fuel (some c) r t
    | ',' => parts? fuel (some c) r.comma t
    | '\\' =>
      match t with
      | [] => none
      | c :: t => parts? fuel (some c) (r.add (.literal c)) t
    | _ => parts? fuel (some c) (r.add (.literal c)) t

def depthOfRow (depths : List Nat) : Nat :=
  let deepest := depths.foldl max 0
  if depths.length < 2 then deepest else deepest + 1

def depthOfClass : List (Char × Char) → Nat
  | [(lo, hi)] => if lo.utf8Size + hi.utf8Size = 2 then 1 else 2
  | _ => 2

mutual
def Part.depths : Part → List Nat
  | .literal c => List.replicate c.utf8Size 0
  | .any => [0]
  | .anything => [1]
  | .folders => [4]
  | .descendants => [0, 1]
  | .between => [4]
  | .oneOf _ ranges => [depthOfClass ranges]
  | .choice branches =>
    match branchDepths branches with
    | [] => []
    | depths => [depthOfRow depths + 1]
def depthsOf : List Part → List Nat
  | [] => []
  | p :: ps => p.depths ++ depthsOf ps
def branchDepths : List (List Part) → List Nat
  | [] => []
  | b :: bs =>
    match depthsOf b with
    | [] => branchDepths bs
    | depths => depthOfRow depths :: branchDepths bs
end

def maxDepth : Nat := 250

def isTooDeep (parts : List Part) : Bool := maxDepth < depthOfRow (0 :: 0 :: depthsOf parts)

def read? (glob : String) : Option (List Part) :=
  parts? (glob.toList.length + 1) none ⟨[], []⟩ glob.toList

end Glob

end EventXref
