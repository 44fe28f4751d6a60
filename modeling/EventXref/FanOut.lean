/-!
Tasks that are begun together and take turns. A turn ends a task with an item, leaves other tasks in
its place, or fails; the first failure ends the work. What each turn goes to is up to a schedule, but
every item comes to stand where its task stood.
-/
namespace EventXref

inductive Slot (κ α : Type) where
  | done (item : α)
  | left (task : κ)

namespace FanOut

variable {κ α ε S : Type}

def tasks : List (Slot κ α) → List κ
  | [] => []
  | .done _ :: slots => tasks slots
  | .left t :: slots => t :: tasks slots

def items : List (Slot κ α) → List α
  | [] => []
  | .done a :: slots => a :: items slots
  | .left _ :: slots => items slots

def pick : Nat → List (Slot κ α) → Option (List (Slot κ α) × κ × List (Slot κ α))
  | _, [] => none
  | 0, .left t :: slots => some ([], t, slots)
  | n + 1, .left t :: slots =>
    (pick n slots).map fun (before, u, behind) => (.left t :: before, u, behind)
  | n, .done a :: slots =>
    (pick n slots).map fun (before, u, behind) => (.done a :: before, u, behind)

/-- Runs tasks for at most so many turns. The schedule sees how many turns were taken and what is
left to do. -/
def run (advance : κ → S → Except ε (List (Slot κ α)) × S) :
    (turns : Nat) → (schedule : Nat → List κ → Nat) → List (Slot κ α) → S → Except ε (List α) × S
  | 0, _, slots, s => (.ok (items slots), s)
  | turns + 1, schedule, slots, s =>
    match pick (schedule 0 (tasks slots) % (tasks slots).length) slots with
    | none => (.ok (items slots), s)
    | some (before, t, behind) =>
      match advance t s with
      | (.error x, s) => (.error x, s)
      | (.ok new, s) =>
        run advance turns (fun n left => schedule (n + 1) left) (before ++ (new ++ behind)) s

end FanOut

structure Job (ε α : Type) where
  round : Nat
  result : Except ε (List α)

namespace Job

variable {ε α : Type}

def earliest : List (Job ε α) → Nat
  | [] => 0
  | j :: js => if js.all (j.round ≤ ·.round) then 0 else earliest js + 1

/-- More jobs than this are not looked at round after round, but waited for in order. -/
def maxInTurn : Nat := 30

def finish (j : Job ε α) (_ : Unit) : Except ε (List (Slot (Job ε α) (List α))) × Unit :=
  (j.result.map fun found => [.done found], ())

def fanOut (js : List (Job ε α)) : Except ε (List α) :=
  let schedule := fun _ left => if js.length ≤ maxInTurn then earliest left else 0
  (FanOut.run finish js.length schedule (js.map .left) ()).1.map List.flatten

end Job

end EventXref
