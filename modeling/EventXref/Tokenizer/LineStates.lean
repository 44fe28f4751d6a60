import EventXref.Document
import EventXref.Grammar.Basic

/-!
The states in which the lines of one document end, as far as they are known. A change moves the
states of the lines it leaves alone and forgets those of the lines it adds; then lines are read
again until one ends in the state that is stored for it.
-/
namespace EventXref

structure LineStates (σ : Type) where
  grammar : Grammar σ
  version : Int
  /-- One slot a line: the state at its end, if the line has been read. -/
  slots : List (Option σ)
  generation : Nat

namespace LineStates

variable {σ : Type}

def fresh (g : Grammar σ) (d : Document) : LineStates σ :=
  ⟨g, d.version, List.replicate d.lineCount none, 0⟩

def reset (s : LineStates σ) (d : Document) : LineStates σ :=
  ⟨s.grammar, d.version, List.replicate d.lineCount none, s.generation + 1⟩

def sync (s : LineStates σ) (d : Document) : LineStates σ :=
  if s.version = d.version ∧ s.slots.length = d.lineCount then s else s.reset d

def readCount (s : LineStates σ) : Nat := s.slots.countP Option.isSome

def stateBefore (s : LineStates σ) : Nat → σ
  | 0 => s.grammar.initial
  | n + 1 => (s.slots.getD n none).getD s.grammar.initial

def backfill (slots : List (Option σ)) (line : Nat) : Nat :=
  ((slots.take line).reverse.dropWhile Option.isNone).length

structure Sweep (σ : Type) where
  slots : List (Option σ)
  changed : Bool
  count : Nat

/-- Reads `due` lines from state `s` on, and goes on while the last line read ended in another
state than before and the next one has been read before. -/
def sweep [DecidableEq σ] (g : Grammar σ) :
    (s : σ) → (due : Nat) → (unsettled : Bool) → List (List Char) → List (Option σ) → Sweep σ
  | s, due, unsettled, line :: lines, slot :: slots =>
    -- A line that was never read ends the run as well: its state is missing, not wrong.
    if due > 0 ∨ (unsettled = true ∧ slot.isSome = true) then
      let s' := (g.tokenizeLine s line).endState
      let differs := decide (slot ≠ some s')
      let rest := sweep g s' (due - 1) differs lines slots
      ⟨some s' :: rest.slots, differs || rest.changed, rest.count + 1⟩
    else ⟨slot :: slots, false, 0⟩
  | _, _, _, _, slots => ⟨slots, false, 0⟩

structure Reparse (σ : Type) where
  states : LineStates σ
  changed : Bool
  visited : List Nat

/-- Reads the lines from `first` up to and without `stop`, with those before that were never read,
and goes on as long as states change. -/
def reparse [DecidableEq σ] (s : LineStates σ) (d : Document) (first stop : Nat) : Reparse σ :=
  let start := backfill s.slots first
  let due := min stop s.slots.length - start
  let swept := sweep s.grammar (s.stateBefore start) due false (d.lines.drop start)
    (s.slots.drop start)
  { states :=
      { s with
        slots := s.slots.take start ++ swept.slots
        generation := s.generation + 1 }
    changed := swept.changed
    visited := List.range' start swept.count }

def reparseAll [DecidableEq σ] (s : LineStates σ) (d : Document) : Reparse σ :=
  s.reparse d 0 s.slots.length

/-- Replaces the slots of the lines that a change covers. The state of the last of them moves to the
last new line, so that a change that opens and closes nothing settles at once. -/
def splice (slots : List (Option σ)) (c : Change) : List (Option σ) :=
  match slots with
  | [] => []
  | _ =>
    let last := slots.length - 1
    let start := min c.span.start.line last
    let stop := max start (min c.span.stop.line last)
    slots.take start ++ List.replicate c.insertedBreaks none ++ [slots.getD stop none] ++
      slots.drop (stop + 1)

def newLines (shift : Int) : List Change → List (Nat × Nat)
  | [] => []
  | c :: cs =>
    let start := ((c.firstLine : Int) + shift).toNat
    (start, start + c.insertedBreaks + 1) :: newLines (shift + c.lineDelta) cs

def newLines? (build : Build) (shift : Int) : List Change → Option (List (Nat × Nat))
  | [] => some []
  | c :: cs => do
    let stop ← c.endLine? build
    let start := min ((c.firstLine : Int) + shift).toNat (values64 - 1)
    -- An end that has gone round stands before the first line, and then there are no new lines.
    let moved ← build.unsigned values64 (start + (stop - c.firstLine))
    let delta ← c.lineDelta? build
    let shift ← build.signed values64 (shift + delta)
    let ranges ← newLines? build shift cs
    return (start, moved) :: ranges

def reparseRanges [DecidableEq σ] (s : LineStates σ) (d : Document) :
    List (Nat × Nat) → LineStates σ × List Nat
  | [] => (s, [])
  | (first, stop) :: ranges =>
    let r := s.reparse d first stop
    let (s, visited) := r.states.reparseRanges d ranges
    (s, r.visited ++ visited)

/-- Follows a batch of changes whose result is `d`, and tells which lines were read. A version that
is not newer is ignored; a line count that does not fit forgets everything. -/
def change [DecidableEq σ] (s : LineStates σ) (d : Document) (changes : List Change) :
    LineStates σ × List Nat :=
  if d.version ≤ s.version then (s, [])
  else
    let sorted := Change.lastFirst changes
    let slots := sorted.foldl splice s.slots
    if slots.length ≠ d.lineCount then ({ s with slots }.reset d, [])
    else
      -- The ranges are lines of the new text, so reading one of them does not move the others.
      let ranges := newLines 0 sorted.reverse
      let (s, visited) := { s with slots }.reparseRanges d ranges.reverse
      ({ s with version := d.version }, visited)

/-- The same in numbers of 64 bits. Where one does not fit no line is read, and the slots have been
moved but the version has not been taken over. -/
def changeIn [DecidableEq σ] (build : Build) (s : LineStates σ) (d : Document)
    (changes : List Change) : Option (List Nat) × LineStates σ :=
  if d.version ≤ s.version then (some [], s)
  else
    let sorted := Change.lastFirst changes
    let slots := sorted.foldl splice s.slots
    if slots.length ≠ d.lineCount then (some [], { s with slots }.reset d)
    else match newLines? build 0 sorted.reverse with
      | none => (none, { s with slots })
      | some ranges =>
        let (s, visited) := { s with slots }.reparseRanges d ranges.reverse
        (some visited, { s with version := d.version })

def tokensAt [DecidableEq σ] (s : LineStates σ) (d : Document) (line : Nat) :
    List Token × LineStates σ × List Nat :=
  -- Tokens are made from the state before the line, so the slot of the line is not enough.
  let known := fun i => (s.slots.getD i none).isSome
  let ready := known line && (line == 0 || known (line - 1))
  let r : Reparse σ := if ready then ⟨s, false, []⟩ else s.reparse d line (line + 1)
  let out := s.grammar.tokenizeLine (r.states.stateBefore line) (d.line line)
  (out.tokens, r.states, r.visited ++ [line])

def pick (tokens : List Token) (column : Nat) : Option Token :=
  (tokens.find? (·.contains column)).or tokens.getLast?

def describe (d : Document) (p : Position) (tokens : List Token) : Option ScopeInfo :=
  (pick tokens p.column).map fun t =>
    { span := Span.onLine p.line t.start t.stop
      text := (Text.slice? t.start t.stop (d.line p.line)).getD []
      scopes := t.scopes }

end LineStates

end EventXref
