import EventXref.Regex.Escape

namespace EventXref

namespace Regex

inductive SetOperation where
  | inter
  | diff
  | symmDiff
deriving DecidableEq, Repr

def SetOperation.combine : SetOperation → CharSet → CharSet → CharSet
  | .inter => CharSet.inter
  | .diff => CharSet.diff
  | .symmDiff => CharSet.symmDiff

structure SetPart where
  set : CharSet
  depth : Nat
deriving DecidableEq, Repr

namespace SetPart

def simple (s : CharSet) : SetPart := ⟨s, 0⟩

def union (parts : List SetPart) : SetPart :=
  let deepest := (parts.map depth).foldl max 0
  ⟨CharSet.unions (parts.map set), if parts.length < 2 then deepest else deepest + 1⟩

end SetPart

structure Bracket where
  negated : Bool
  pending : Option (SetOperation × SetPart)
  members : List SetPart
deriving DecidableEq, Repr

namespace Bracket

def add (b : Bracket) (s : SetPart) : Bracket := { b with members := s :: b.members }

def value (b : Bracket) (f : Flags) : SetPart :=
  let last := SetPart.union b.members
  match b.pending with
  | none => last
  | some (operation, before) =>
    ⟨operation.combine (f.fold before.set) (f.fold last.set), max before.depth last.depth + 1⟩

def operate (b : Bracket) (f : Flags) (operation : SetOperation) : Bracket :=
  { b with pending := some (operation, b.value f), members := [] }

def close (b : Bracket) (f : Flags) : Option SetPart :=
  let whole := b.value f
  let set := f.fold whole.set
  if !b.negated then some ⟨set, whole.depth + 1⟩
  else if f.unicode then some ⟨set.compl, whole.depth + 1⟩
  else none

end Bracket

def namedSets : List (String × CharSet) :=
  [("alnum", CharSet.ofTable "30-39 41-5A 61-7A"), ("alpha", CharSet.ofTable "41-5A 61-7A"),
   ("ascii", CharSet.ofTable "0-7F"), ("blank", CharSet.ofTable "9 20"),
   ("cntrl", CharSet.ofTable "0-1F 7F"), ("digit", Text.asciiDigitChars),
   ("graph", CharSet.ofTable "21-7E"), ("lower", CharSet.ofTable "61-7A"),
   ("print", CharSet.ofTable "20-7E"), ("punct", CharSet.ofTable "21-2F 3A-40 5B-60 7B-7E"),
   ("space", Text.asciiBlankChars), ("upper", CharSet.ofTable "41-5A"),
   ("word", Text.asciiWordChars), ("xdigit", CharSet.ofTable "30-39 41-46 61-66")]

def setName? (t : List Char) : Option (String × Bool × List Char) :=
  match t with
  | ':' :: t =>
    let negated := t.head? = some '^'
    match Text.cut? [':'] (if negated then t.drop 1 else t) with
    | some (name, ']' :: rest) => some (String.ofList name, negated, rest)
    | _ => none
  | _ => none

/-- A named set behind an opening bracket. Without Unicode there is no complement, but the set has
been recognised. -/
def namedSet? (f : Flags) (t : List Char) : Option (Option CharSet × List Char) := do
  let (name, negated, rest) ← setName? t
  let set := f.fold (← namedSets.lookup name)
  if !negated then return (some set, rest)
  else if f.unicode then return (some set.compl, rest)
  else return (none, rest)

def bracketAtom (f : Flags) : List Char → Option (Escaped × List Char)
  | [] => none
  | '\\' :: t => readEscape f t
  | c :: t => some (.literal c, t)

def mayBeMember (f : Flags) (c : Char) : Bool := f.unicode || c.toNat < 0x80

def atomSet? (f : Flags) : Escaped → Option CharSet
  | .literal c => if mayBeMember f c then some (CharSet.single c) else none
  | .set s => some s
  | .anchor _ => none

def rangeSet? (f : Flags) : Escaped → Escaped → Option CharSet
  | .literal lo, .literal hi =>
    if lo.toNat ≤ hi.toNat && mayBeMember f lo && mayBeMember f hi then some (CharSet.range lo hi)
    else none
  | _, _ => none

/-- The next character of an extended pattern that a dash is followed by: behind blanks, and behind
the sign of one comment and further blanks. If there is none, it is the next one at all. -/
def nextSolid (inComment : Bool) : List Char → Option Char
  | [] => none
  | c :: t =>
    if Text.isBlank c then nextSolid inComment t
    else if c = '#' && !inComment then nextSolid true t
    else some c

def peekSpace (f : Flags) (t : List Char) : Option Char :=
  if f.extended then nextSolid false t <|> t.head? else t.head?

def leadingDashes (f : Flags) : Nat → Bracket → List Char → Bracket × List Char
  | fuel + 1, b, '-' :: t =>
    leadingDashes f fuel (b.add (.simple (CharSet.single '-'))) (skipSpace f t)
  | _, b, t => (b, t)

def openBracket (f : Flags) (t : List Char) : Bracket × List Char :=
  let t := skipSpace f t
  let negated := t.head? = some '^'
  let t := if negated then skipSpace f (t.drop 1) else t
  let (b, t) := leadingDashes f t.length ⟨negated, none, []⟩ t
  match b.members, t with
  | [], ']' :: t => (b.add (.simple (CharSet.single ']')), skipSpace f t)
  | _, t => (b, t)

/-- Reads a class behind its beginning; `outer` are the classes around it, the innermost first, and
the number bounds the parts. -/
def readBracket (f : Flags) : Nat → List Bracket → Bracket → List Char →
    Option (SetPart × List Char)
  | 0, _, _, _ => none
  | fuel + 1, outer, b, t =>
    match skipSpace f t with
    | [] => none
    | ']' :: t =>
      match b.close f, outer with
      | none, _ => none
      | some whole, [] => some (whole, t)
      | some whole, around :: outer => readBracket f fuel outer (around.add whole) t
    | '[' :: t =>
      match namedSet? f t with
      | some (some s, rest) => readBracket f fuel outer (b.add (.simple s)) rest
      | some (none, _) => none
      | none =>
        let (inner, rest) := openBracket f t
        readBracket f fuel (b :: outer) inner rest
    | '&' :: '&' :: t => readBracket f fuel outer (b.operate f .inter) t
    | '-' :: '-' :: t => readBracket f fuel outer (b.operate f .diff) t
    | '~' :: '~' :: t => readBracket f fuel outer (b.operate f .symmDiff) t
    | t => do
      let (first, rest) ← bracketAtom f t
      let rest := skipSpace f rest
      match rest with
      | '-' :: t =>
        if [some ']', some '-'].contains (peekSpace f t) then
          readBracket f fuel outer (b.add (.simple (← atomSet? f first))) rest
        else
          let (second, rest) ← bracketAtom f (skipSpace f t)
          readBracket f fuel outer (b.add (.simple (← rangeSet? f first second))) rest
      | _ => readBracket f fuel outer (b.add (.simple (← atomSet? f first))) rest

def bracketClass (f : Flags) (t : List Char) : Option (SetPart × List Char) :=
  let (b, rest) := openBracket f t
  readBracket f (t.length + 1) [] b rest

end Regex

end EventXref
