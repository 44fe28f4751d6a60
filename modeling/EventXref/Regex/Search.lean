import EventXref.Regex.Program

/-!
Searching a text. Threads go through a program side by side, one character at a time, in order of
preference; a step that one thread has reached at a place is closed to the others there, so that the
effort grows with the text and the program only. The leftmost match comes first; the search goes on
behind it. An empty match right behind the match before it does not count.
-/
namespace EventXref

/-- A match: first and last offset, and the places noted in slots, the latest first. -/
structure Match where
  start : Nat
  stop : Nat
  marks : List (Nat × Nat)
deriving DecidableEq, Repr

namespace Match

def group? (m : Match) (i : Nat) : Option (Nat × Nat) :=
  if i = 0 then some (m.start, m.stop)
  else match m.marks.lookup (Program.openSlot i), m.marks.lookup (Program.closeSlot i) with
    | some first, some last => some (first, last)
    | _, _ => none

end Match

namespace Program

structure Thread where
  step : Nat
  start : Nat
  marks : List (Nat × Nat)
deriving DecidableEq, Repr

/-- For each step the last turn in which it was reached; every place of a search has its turn. -/
structure Visits where
  last : Array Nat
  turn : Nat
deriving DecidableEq, Repr

namespace Visits

def none (p : Program) : Visits := ⟨Array.replicate p.steps.size 0, 1⟩

def isReached (v : Visits) (step : Nat) : Bool := v.last.getD step 0 == v.turn

def reach (v : Visits) (step : Nat) : Visits := { v with last := v.last.setIfInBounds step v.turn }

def nextTurn (v : Visits) : Visits := { v with turn := v.turn + 1 }

end Visits

abbrev Waiting := List Thread

/-- Follows threads, given in order of preference, up to steps that take a character or end the
match. `ahead` tells whether steps lead to the end from a place. The number bounds the steps. -/
def follow (p : Program) (ahead : Nat → Cursor → Bool) (place : Cursor) :
    Nat → List Thread → Waiting → Visits → Waiting × Visits
  | _, [], waiting, v => (waiting, v)
  | 0, _, waiting, v => (waiting, v)
  | bound + 1, t :: ts, waiting, v =>
    if v.isReached t.step then follow p ahead place bound ts waiting v
    else
      let v := v.reach t.step
      match p.steps[t.step]? with
      | none => follow p ahead place bound ts waiting v
      | some (.char _ _) | some (.oneOf _ _) | some .done =>
        follow p ahead place bound ts (t :: waiting) v
      | some (.check a next) =>
        let ts := if a.holds place then { t with step := next } :: ts else ts
        follow p ahead place bound ts waiting v
      | some (.mark slot next) =>
        let t := { t with step := next, marks := (slot, place.offset) :: t.marks }
        follow p ahead place bound (t :: ts) waiting v
      | some (.fork first second) =>
        let ts := { t with step := first } :: { t with step := second } :: ts
        follow p ahead place bound ts waiting v
      | some (.ahead holds inner next) =>
        let ts := if ahead inner place == holds then { t with step := next } :: ts else ts
        follow p ahead place bound ts waiting v

def stepBound (p : Program) : Nat := 2 * p.steps.size + 2

def taken? (p : Program) (t : Thread) (c : Char) : Option Thread :=
  match p.steps[t.step]? with
  | some (.char d next) => if c = d then some { t with step := next } else none
  | some (.oneOf s next) => if s.contains c then some { t with step := next } else none
  | _ => none

def isDone (p : Program) (t : Thread) : Bool := p.steps[t.step]? == some .done

def take (p : Program) (ahead : Nat → Cursor → Bool) (c : Char) (place : Cursor) :
    List Thread → Waiting → Visits → Waiting × Visits
  | [], waiting, v => (waiting, v)
  | t :: ts, waiting, v =>
    match p.taken? t c with
    | none => take p ahead c place ts waiting v
    | some t =>
      let (waiting, v) := follow p ahead place p.stepBound [t] waiting v
      take p ahead c place ts waiting v

def settle (p : Program) : List Thread → List Thread × Option Thread
  | [] => ([], none)
  | t :: ts =>
    if p.isDone t then ([], some t)
    else
      let (live, done) := p.settle ts
      (t :: live, done)

def mayStart (p : Program) (rest : List Char) : Bool :=
  match p.first, rest with
  | none, _ => true
  | some _, [] => false
  | some s, c :: _ => s.contains c

abbrev Found := Option (Match × Cursor)

/-- Goes through a text. New threads start at every place until there is a match; an anchored search
starts them at the first place only, which is before this function. -/
def scan (p : Program) (ahead : Nat → Cursor → Bool) (anchored : Bool) (before : Option Char)
    (offset : Nat) : List Char → Waiting → Found → Visits → Found × Visits
  | rest, waiting, found, v =>
    let place : Cursor := ⟨before, rest, offset⟩
    let (waiting, v) :=
      if !anchored && found.isNone && p.mayStart rest then
        follow p ahead place p.stepBound [⟨p.start, offset, []⟩] waiting v
      else (waiting, v)
    -- Threads in front of the one that is done are preferred to it and go on; the others end.
    let (live, done) := p.settle waiting.reverse
    let found := match done with
      | some t => some (⟨t.start, offset, t.marks⟩, place)
      | none => found
    match rest with
    | [] => (found, v.nextTurn)
    | c :: rest =>
      if live.isEmpty && (anchored || found.isSome) then (found, v.nextTurn)
      else
        let next := place.past c rest
        let (waiting, v) := take p ahead c next live [] v.nextTurn
        scan p ahead anchored next.before next.offset rest waiting found v

def leads (p : Program) : Nat → Nat → Cursor → Bool
  | 0, _, _ => false
  | depth + 1, step, place =>
    let (waiting, v) :=
      follow p (leads p depth) place p.stepBound [⟨step, place.offset, []⟩] [] (Visits.none p)
    (scan p (leads p depth) true place.before place.offset place.rest waiting none v).1.isSome

def search (p : Program) (place : Cursor) (v : Visits) : Found × Visits :=
  scan p (leads p p.aheads) false place.before place.offset place.rest [] none v

def find? (p : Program) (place : Cursor) : Option Match :=
  (p.search place (Visits.none p)).1.map Prod.fst

def findNext (p : Program) (last : Option Nat) (place : Cursor) (v : Visits) : Found × Visits :=
  match p.search place v with
  | (some (m, behind), v) =>
    if m.start = m.stop && last = some m.stop then
      -- From the next character on no match can lie at `last` again.
      match place.rest with
      | [] => (none, v)
      | c :: rest => p.search (place.past c rest) v
    else (some (m, behind), v)
  | (none, v) => (none, v)

def matchesFrom (p : Program) :
    Nat → Option Nat → Cursor → Visits → List Match → List Match
  | 0, _, _, _, ms => ms.reverse
  | bound + 1, last, place, v, ms =>
    match p.findNext last place v with
    | (none, _) => ms.reverse
    | (some (m, behind), v) => p.matchesFrom bound (some m.stop) behind v (m :: ms)

def findAll (p : Program) (text : List Char) : List Match :=
  p.matchesFrom (text.length + 2) none ⟨none, text, 0⟩ (Visits.none p) []

def matchesStart (p : Program) (text : List Char) : Bool :=
  leads p (p.aheads + 1) p.start ⟨none, text, 0⟩

end Program

end EventXref
