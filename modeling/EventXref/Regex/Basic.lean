import EventXref.Text.Word

/-!
Patterns. The functions that build them keep them in a normal form: sequences and choices are flat,
neighbouring literals are one, a choice of single characters is a set, and what all alternatives
begin with stands in front of the choice. This form decides in which order ways to match are tried.
-/
namespace EventXref

inductive Anchor where
  | textStart
  | textEnd
  | lineStart
  | lineEnd
  | returnLineStart
  | returnLineEnd
  | wordBoundary (ascii : Bool)
  | insideOrOutsideWord (ascii : Bool)
  | wordStart (ascii : Bool)
  | wordEnd (ascii : Bool)
  | wordStartHalf (ascii : Bool)
  | wordEndHalf (ascii : Bool)
deriving DecidableEq, Repr

inductive Regex where
  | empty
  | literal (cs : List Char)
  /-- A character of a set. A set of which only characters of seven bits count is another one. -/
  | set (ascii : Bool) (s : CharSet)
  | anchor (a : Anchor)
  | seq (a b : Regex)
  | alt (a b : Regex)
  | rep (r : Regex) (least : Nat) (most : Option Nat) (greedy : Bool)
  | group (index : Nat) (r : Regex)
  | ahead (holds : Bool) (r : Regex)
deriving DecidableEq, Repr

/-- A place in a text: the character before it, the characters after it, and its byte offset. -/
structure Cursor where
  before : Option Char
  rest : List Char
  offset : Nat
deriving DecidableEq, Repr

namespace Cursor

def past (p : Cursor) (c : Char) (rest : List Char) : Cursor :=
  ⟨some c, rest, p.offset + c.utf8Size⟩

end Cursor

namespace Anchor

def isWordChar (ascii : Bool) (c : Char) : Bool :=
  if ascii then Text.asciiWordChars.contains c else Text.wordChars.contains c

def holds (a : Anchor) (p : Cursor) : Bool :=
  let after := p.rest.head?
  let wordBefore := fun ascii => p.before.any (isWordChar ascii)
  let wordAfter := fun ascii => after.any (isWordChar ascii)
  match a with
  | .textStart => p.before.isNone
  | .textEnd => after.isNone
  | .lineStart => p.before.isNone || p.before == some '\n'
  | .lineEnd => after.isNone || after == some '\n'
  | .returnLineStart =>
    p.before.isNone || p.before == some '\n' || (p.before == some '\r' && after != some '\n')
  | .returnLineEnd =>
    after.isNone || after == some '\r' || (after == some '\n' && p.before != some '\r')
  | .wordBoundary ascii => wordBefore ascii != wordAfter ascii
  | .insideOrOutsideWord ascii => wordBefore ascii == wordAfter ascii
  | .wordStart ascii => !wordBefore ascii && wordAfter ascii
  | .wordEnd ascii => wordBefore ascii && !wordAfter ascii
  | .wordStartHalf ascii => !wordBefore ascii
  | .wordEndHalf ascii => !wordAfter ascii

end Anchor

namespace Regex

def groups : Regex → Nat
  | .empty | .literal _ | .set _ _ | .anchor _ => 0
  | .seq a b | .alt a b => max a.groups b.groups
  | .rep r _ _ _ | .ahead _ r => r.groups
  | .group i r => max i r.groups

def size : Regex → Nat
  | .empty | .literal _ | .set _ _ | .anchor _ => 1
  | .seq a b | .alt a b => a.size + b.size + 1
  | .rep r _ _ _ | .ahead _ r | .group _ r => r.size + 1

def aheads : Regex → Nat
  | .empty | .literal _ | .set _ _ | .anchor _ => 0
  | .seq a b | .alt a b => max a.aheads b.aheads
  | .rep r _ _ _ | .group _ r => r.aheads
  | .ahead _ r => r.aheads + 1

def least? : Regex → Option Nat
  | .empty | .anchor _ | .ahead _ _ => some 0
  | .literal cs => some cs.length
  | .set _ s => if s.isEmpty then none else some 1
  | .seq a b =>
    match a.least?, b.least? with
    | some m, some n => some (m + n)
    | _, _ => none
  | .alt a b =>
    match a.least?, b.least? with
    | some m, some n => some (min m n)
    | _, _ => none
  | .rep r least _ _ => r.least?.map (· * least)
  | .group _ r => r.least?

def takesSome (r : Regex) : Bool := r.least?.any (0 < ·)

def takesNone : Regex → Bool
  | .empty | .anchor _ | .ahead _ _ => true
  | .literal cs => cs.isEmpty
  | .set _ _ => false
  | .seq a b | .alt a b => a.takesNone && b.takesNone
  | .rep r _ most _ => most.isSome && r.takesNone
  | .group _ r => r.takesNone

def parts : Regex → List Regex
  | .empty => []
  | .seq a b => a :: b.parts
  | r => [r]

def alternatives : Regex → List Regex
  | .alt a b => a :: b.alternatives
  | r => [r]

def joinLiterals : List Regex → List Regex
  | [] => []
  | .literal a :: rs =>
    match joinLiterals rs with
    | .literal b :: rest => .literal (a ++ b) :: rest
    | rest => .literal a :: rest
  | r :: rs => r :: joinLiterals rs

def row : List Regex → Regex
  | [] => .empty
  | [r] => r
  | r :: rs => .seq r (row rs)

def concat (rs : List Regex) : Regex := row (joinLiterals (rs.flatMap parts))

def never : Regex := .set true CharSet.empty

def ofSet (ascii : Bool) (s : CharSet) : Regex :=
  match s.only? with
  | some c => .literal [c]
  | none => if s.isEmpty then never else .set ascii s

def char? : Regex → Option Char
  | .literal [c] => some c
  | _ => none

def set? : Regex → Option CharSet
  | .set _ s => some s
  | _ => none

def commonStart : List Regex → List Regex → List Regex
  | a :: as, b :: bs => if a = b then a :: commonStart as bs else []
  | _, _ => []

def sharedParts : List Regex → List Regex
  | [] => []
  | [.seq a b] => a :: b.parts
  | .seq a b :: rs => commonStart (a :: b.parts) (sharedParts rs)
  | _ => []

def anyOf : List Regex → Regex
  | [] => never
  | [r] => r
  | r :: rs => .alt r (anyOf rs)

def choiceWithin : Nat → List Regex → Regex
  | 0, rs => anyOf rs
  | bound + 1, rs =>
    let rs := rs.flatMap alternatives
    if rs.length ≤ 1 then anyOf rs
    else match rs.mapM char?, rs.mapM set? with
      | some cs, _ => ofSet false (CharSet.ofChars cs)
      | none, some sets => ofSet false (CharSet.unions sets)
      | none, none =>
        match sharedParts rs with
        | [] => anyOf rs
        | shared =>
          -- Behind what all of them share, the alternatives may be characters or share more.
          let rest := rs.map fun r => concat (r.parts.drop shared.length)
          concat (shared ++ [choiceWithin bound rest])

def choice (rs : List Regex) : Regex := choiceWithin ((rs.map size).foldr (· + ·) 0) rs

/-- A repetition. What takes no character is not repeated more than once, one of no rounds at all is
nothing, with its groups, and one of a single round is the pattern itself. -/
def repeats (r : Regex) (least : Nat) (most : Option Nat) (greedy : Bool) : Regex :=
  let least := if r.takesNone then min least 1 else least
  let most := if r.takesNone then some (min (most.getD 1) 1) else most
  if most = some 0 then .empty
  else if least = 1 ∧ most = some 1 then r
  else .rep r least most greedy

end Regex

end EventXref
