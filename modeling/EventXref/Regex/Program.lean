import EventXref.Regex.Basic

namespace EventXref

inductive Step where
  | char (c : Char) (next : Nat)
  | oneOf (s : CharSet) (next : Nat)
  | check (a : Anchor) (next : Nat)
  | mark (slot next : Nat)
  | fork (first second : Nat)
  | ahead (holds : Bool) (inner next : Nat)
  | done
deriving DecidableEq, Repr

structure Program where
  steps : Array Step
  start : Nat
  groups : Nat
  aheads : Nat
  first : Option CharSet
deriving DecidableEq, Repr

namespace Program

def openSlot (group : Nat) : Nat := 2 * group

def closeSlot (group : Nat) : Nat := 2 * group + 1

/-- Adds steps that lead to the step `next`; gives the number of the first one. -/
abbrev Emit := (next : Nat) → Array Step → Nat × Array Step

def emitStep (step : Nat → Step) : Emit := fun next steps => (steps.size, steps.push (step next))

def emitLiteral (cs : List Char) : Emit := fun next steps =>
  cs.reverse.foldl (fun (next, steps) c => emitStep (.char c) next steps) (next, steps)

def branch (greedy : Bool) (round exit : Nat) : Step :=
  if greedy then .fork round exit else .fork exit round

def emitCopies (one : Emit) : Nat → Emit
  | 0, next, steps => (next, steps)
  | n + 1, next, steps =>
    let (entry, steps) := one next steps
    emitCopies one n entry steps

def emitOptional (one : Emit) (greedy : Bool) (exit : Nat) : Nat → Emit
  | 0, next, steps => (next, steps)
  | n + 1, next, steps =>
    let (entry, steps) := one next steps
    emitOptional one greedy exit n steps.size (steps.push (branch greedy entry exit))

def emitSome (one : Emit) (greedy : Bool) : Emit := fun next steps =>
  -- The fork has its place before its ways are known, so that the rounds can lead back to it.
  let again := steps.size
  let (entry, steps) := one again (steps.push .done)
  (entry, steps.setIfInBounds again (branch greedy entry next))

def emitLoop (one : Emit) (greedy : Bool) : Emit := fun next steps =>
  let again := steps.size
  let (entry, steps) := one again (steps.push .done)
  (again, steps.setIfInBounds again (branch greedy entry next))

def emitAny (one : Emit) (greedy : Bool) : Emit := fun next steps =>
  -- With one fork only, a round that takes nothing would come back to a step that is closed.
  let (entry, steps) := emitSome one greedy next steps
  (steps.size, steps.push (branch greedy entry next))

def emitRounds (one : Emit) (takesSome : Bool) (least : Nat) (most : Option Nat) (greedy : Bool) :
    Emit := fun next steps =>
  match most, least with
  | some most, least =>
    let (entry, steps) := emitOptional one greedy next (most - least) next steps
    emitCopies one least entry steps
  | none, 0 => (if takesSome then emitLoop one greedy else emitAny one greedy) next steps
  | none, n + 1 =>
    let (entry, steps) := emitSome one greedy next steps
    emitCopies one n entry steps

def final : Nat := 0

def emit : Regex → Emit
  | .empty, next, steps => (next, steps)
  | .literal cs, next, steps => emitLiteral cs next steps
  | .set _ s, next, steps => emitStep (.oneOf s) next steps
  | .anchor a, next, steps => emitStep (.check a) next steps
  | .seq a b, next, steps =>
    let (entry, steps) := emit b next steps
    emit a entry steps
  | .alt a b, next, steps =>
    let (first, steps) := emit a next steps
    let (second, steps) := emit b next steps
    (steps.size, steps.push (.fork first second))
  | .rep r least most greedy, next, steps =>
    emitRounds (emit r) r.takesSome least most greedy next steps
  | .group i r, next, steps =>
    let (close, steps) := emitStep (.mark (closeSlot i)) next steps
    let (entry, steps) := emit r close steps
    emitStep (.mark (openSlot i)) entry steps
  | .ahead holds r, next, steps =>
    let (inner, steps) := emit r final steps
    emitStep (.ahead holds inner) next steps

/-- The ranges of characters that can be taken first by threads from some steps on; none if the end
can be reached without any. The number bounds the steps. -/
def firstRanges (steps : Array Step) :
    Nat → List Nat → Array Bool → List (Nat × Nat) → Option (List (Nat × Nat))
  | _, [], _, found => some found
  | 0, _, _, _ => none
  | bound + 1, i :: todo, seen, found =>
    if seen.getD i true then firstRanges steps bound todo seen found
    else
      let seen := seen.setIfInBounds i true
      match steps[i]? with
      | some (.char c _) => firstRanges steps bound todo seen ((c.toNat, c.toNat) :: found)
      | some (.oneOf s _) => firstRanges steps bound todo seen (s.ranges ++ found)
      -- These take nothing, and what they rule out may stay among the first characters.
      | some (.check _ next) | some (.mark _ next) | some (.ahead _ _ next) =>
        firstRanges steps bound (next :: todo) seen found
      | some (.fork a b) => firstRanges steps bound (a :: b :: todo) seen found
      | some .done | none => none

def firstChars (steps : Array Step) (start : Nat) : Option CharSet :=
  (firstRanges steps (2 * steps.size + 2) [start] (Array.replicate steps.size false) []).map
    CharSet.ofRanges

def ofRegex (r : Regex) : Program :=
  let (start, steps) := emit r final #[.done]
  ⟨steps, start, r.groups, r.aheads, firstChars steps start⟩

end Program

end EventXref
