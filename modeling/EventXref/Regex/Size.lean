import Std.Data.HashMap
import EventXref.Regex.Basic
import EventXref.Text.ByteSequence

/-!
How much room a pattern takes as an automaton over bytes. It is built once to read forwards, with
states for its groups, and once to read backwards; neither may take more than a fixed number of
bytes. Every state takes a fixed part, and its ways to other states come on top.

The numbers are those of the `regex` package, which compiles the patterns: the bytes that its states
take on a machine with words of 64 bits, the slots in which it looks for states that do the same, and
the limit that it has unless it is given another one.
-/
namespace EventXref

namespace Regex

structure Tally where
  states : Nat
  ways : Nat
deriving DecidableEq, Repr

namespace Tally

def start : Tally := ⟨0, 0⟩

def add (t : Tally) (states ways : Nat) : Tally := ⟨t.states + states, t.ways + ways⟩

def stateSize : Nat := 32

def readingSize : Nat := 8

def forkSize : Nat := 4

def bytes (t : Tally) : Nat := t.states * stateSize + t.ways

def limit : Nat := 10 * Nat.pow 2 20

def isOver (t : Tally) : Bool := limit < t.bytes

def times (grow : Tally → Tally) : Nat → Tally → Tally
  | 0, t => t
  | n + 1, t => if t.isOver then t else times grow n (grow t)

end Tally

abbrev Way := Nat × Nat × Nat

def mixHash (h : UInt64) (n : Nat) : UInt64 := (h ^^^ n.toUInt64) * 1099511628211

def startHash : UInt64 := 14695981039346656037

/-- Numbers of states by what they do. There are so many slots; a state is forgotten when another
one takes its slot. -/
structure Slots (α : Type) where
  count : UInt64
  taken : Std.HashMap UInt64 (α × Nat)

namespace Slots

variable {α : Type} [DecidableEq α]

def empty (count : UInt64) : Slots α := ⟨count, ∅⟩

def get? (s : Slots α) (hash : UInt64) (key : α) : Option Nat :=
  match s.taken[hash % s.count]? with
  | some (found, state) => if found = key then some state else none
  | none => none

def put (s : Slots α) (hash : UInt64) (key : α) (state : Nat) : Slots α :=
  { s with taken := s.taken.insert (hash % s.count) (key, state) }

end Slots

/-- A set that is being built to be read forwards. Sequences come in order; the states on the way of
the last one are still open, the deepest first, each with the bytes of its last way. -/
structure SetBuild where
  tally : Tally
  slots : Slots (List Way)
  opened : List (List Way × Option (Nat × Nat))

namespace SetBuild

def hashOf (ways : List Way) : UInt64 :=
  ways.foldl (fun h (lo, hi, next) => mixHash (mixHash (mixHash h lo) hi) next) startHash

def close (b : SetBuild) (ways : List Way) : Nat × SetBuild :=
  let hash := hashOf ways
  match b.slots.get? hash ways with
  | some state => (state, b)
  | none =>
    let state := b.tally.states
    let tally := b.tally.add 1 (Tally.readingSize * ways.length)
    (state, { b with tally, slots := b.slots.put hash ways state })

def waysTo (level : List Way × Option (Nat × Nat)) (next : Nat) : List Way :=
  match level.2 with
  | some (lo, hi) => level.1 ++ [(lo, hi, next)]
  | none => level.1

def closeBelow (depth : Nat) : (opened : List (List Way × Option (Nat × Nat))) →
    (next : Nat) → SetBuild → SetBuild
  | [], _, b => { b with opened := [] }
  | level :: outer, next, b =>
    if outer.length ≤ depth then { b with opened := (waysTo level next, none) :: outer }
    else
      let (state, b) := b.close (waysTo level next)
      closeBelow depth outer state b

def common : List (Nat × Nat) → List (Option (Nat × Nat)) → Nat
  | r :: rs, o :: os => if o = some r then common rs os + 1 else 0
  | _, _ => 0

def addSequence (target : Nat) (b : SetBuild) (ranges : List (Nat × Nat)) : SetBuild :=
  -- Sequences come in order: what this one does not share with the last will not grow any more.
  let depth := common ranges (b.opened.reverse.map Prod.snd)
  let b := closeBelow depth b.opened target b
  match b.opened, ranges.drop depth with
  | (ways, _) :: outer, r :: rs =>
    let below := rs.reverse.map fun r => ([], some r)
    { b with opened := below ++ (ways, some r) :: outer }
  | _, _ => b

end SetBuild

def growForwards (sequences : List (List (Nat × Nat))) (t : Tally) : Tally :=
  let target := t.states
  let b : SetBuild := ⟨t.add 1 0, Slots.empty 10000, [([], none)]⟩
  let b := sequences.foldl (SetBuild.addSequence target) b
  let b := SetBuild.closeBelow 0 b.opened target b
  match b.opened with
  | (ways, _) :: _ => (b.close ways).2.tally
  | [] => b.tally

/-- A set that is being built to be read backwards: a state for every byte range, shared between
sequences that begin alike. -/
structure BackwardBuild where
  tally : Tally
  slots : Slots Way

namespace BackwardBuild

def addRange (b : BackwardBuild) (next : Nat) (r : Nat × Nat) : BackwardBuild × Nat :=
  let key : Way := (next, r.1, r.2)
  let hash := mixHash (mixHash (mixHash startHash next) r.1) r.2
  match b.slots.get? hash key with
  | some state => (b, state)
  | none =>
    let state := b.tally.states
    (⟨b.tally.add 1 0, b.slots.put hash key state⟩, state)

def addSequence (target : Nat) (b : BackwardBuild) (ranges : List (Nat × Nat)) : BackwardBuild :=
  let (b, _) := ranges.foldl (fun (b, next) r => b.addRange next r) (b, target)
  { b with tally := b.tally.add 0 Tally.forkSize }

end BackwardBuild

def growBackwards (sequences : List (List (Nat × Nat))) (t : Tally) : Tally :=
  let target := t.states + 1
  let b : BackwardBuild := ⟨t.add 2 0, Slots.empty 1000⟩
  (sequences.foldl (BackwardBuild.addSequence target) b).tally

def growSet (forwards isAscii : Bool) (sequences : List (List (Nat × Nat))) (t : Tally) : Tally :=
  if isAscii then t.add 2 (Tally.readingSize * sequences.length)
  else if forwards then growForwards sequences t
  else growBackwards sequences t

def segments : List (List UInt8) → List (List (List UInt8))
  | [] => [[]]
  | [] :: rest => [] :: segments rest
  | word :: rest =>
    match segments rest with
    | first :: more => (word :: first) :: more
    | [] => [[word]]

def mergeEmpty (words : List (List UInt8)) : List (List UInt8) :=
  let rest := words.dropWhile List.isEmpty
  if rest.length < words.length then [] :: rest else rest

/-- The room of the tree of some words: a state for every place where words part, and one for every
group of words that go on from there between two words that end. The number bounds the depth. -/
def growTree : Nat → List (List UInt8) → Tally → Tally
  | 0, _, t => t
  | bound + 1, words, t =>
    if words.all List.isEmpty then t
    else
      let groups := segments (mergeEmpty words)
      let t := groups.foldl (fun t group =>
        let firsts := (group.filterMap List.head?).eraseDups
        let t := firsts.foldl (fun t byte =>
          growTree bound ((group.filter (·.head? = some byte)).map List.tail) t) t
        match firsts.length with
        | 0 => t
        -- A single way is part of its state.
        | 1 => t.add 1 Tally.forkSize
        | n => t.add 1 (Tally.forkSize + Tally.readingSize * n)) t
      t.add 1 (Tally.forkSize * (groups.length - 1))

def growWords (forwards : Bool) (words : List (List Char)) (t : Tally) : Tally :=
  let bytes := words.map fun w => w.flatMap String.utf8EncodeChar
  let bytes := if forwards then bytes else bytes.map List.reverse
  growTree ((bytes.map List.length).foldl max 0 + 1) bytes (t.add 1 0)

structure Growth where
  literal? : Option (List Char)
  grow : Tally → Tally

def growChoice (forwards : Bool) : List Growth → Tally → Tally
  | [], t => t
  | [g], t => g.grow t
  | g :: h :: gs, t =>
    match (g :: h :: gs).mapM Growth.literal? with
    | some words => growWords forwards words t
    | none =>
      let t := (h.grow (g.grow t)).add 2 (2 * Tally.forkSize)
      gs.foldl (fun t g => (g.grow t).add 0 Tally.forkSize) t

def growRounds (one : Tally → Tally) (takesSome : Bool) (least : Nat) (most : Option Nat)
    (t : Tally) : Tally :=
  let fork := 2 * Tally.forkSize
  match least, most with
  | 0, some 1 => (one (t.add 1 fork)).add 1 0
  | 0, none => if takesSome then one (t.add 1 fork) else (one t).add 3 (2 * fork)
  | least, none => (Tally.times one least t).add 1 fork
  | least, some most =>
    let t := if least = 0 then t.add 1 0 else Tally.times one least t
    if least = most then t else Tally.times (fun t => one (t.add 1 fork)) (most - least) (t.add 1 0)

def chars? : Regex → Option (List Char)
  | .literal cs => some cs
  | _ => none

def growths (forwards : Bool) : Regex → List Growth
  | .empty => [⟨none, fun t => t.add 1 0⟩]
  | .literal cs => [⟨some cs, fun t => t.add (Text.size cs) 0⟩]
  | .set _ s =>
    let sequences := s.ranges.flatMap Text.byteSequences
    [⟨none, growSet forwards s.isAscii sequences⟩]
  | .anchor _ => [⟨none, fun t => t.add 1 0⟩]
  | .seq a b =>
    let first := growChoice forwards (a.growths forwards)
    let second := growChoice forwards (b.growths forwards)
    [⟨none, fun t => if forwards then second (first t) else first (second t)⟩]
  | .alt a b => ⟨a.chars?, growChoice forwards (a.growths forwards)⟩ :: b.growths forwards
  | .rep r least most _ =>
    [⟨none, growRounds (growChoice forwards (r.growths forwards)) r.takesSome least most⟩]
  | .group _ r =>
    let inner := growChoice forwards (r.growths forwards)
    [⟨none, fun t => if forwards then (inner (t.add 1 0)).add 1 0 else inner t⟩]
  | .ahead _ r => [⟨none, growChoice forwards (r.growths forwards)⟩]

def startsText : Regex → Bool
  | .anchor a => a = .textStart
  | .seq a b => a.startsText || (a.takesNone && b.startsText)
  | .alt a b => a.startsText && b.startsText
  | .rep r least _ _ => 0 < least && r.startsText
  | .group _ r => r.startsText
  | _ => false

def endsText : Regex → Bool
  | .anchor a => a = .textEnd
  | .seq a b => b.endsText || (b.takesNone && a.endsText)
  | .alt a b => a.endsText && b.endsText
  | .rep r least _ _ => 0 < least && r.endsText
  | .group _ r => r.endsText
  | _ => false

def growStart (anchored : Bool) : Tally :=
  if anchored then ⟨1, 0⟩ else ⟨3, Tally.readingSize + 2 * Tally.forkSize⟩

def forwardTally (r : Regex) : Tally :=
  (growChoice true (r.growths true) ((growStart r.startsText).add 1 0)).add 2 0

def backwardTally (r : Regex) : Tally :=
  (growChoice false (r.growths false) (growStart r.endsText)).add 1 0

def fits (r : Regex) : Bool := !r.forwardTally.isOver && !r.backwardTally.isOver

end Regex

end EventXref
