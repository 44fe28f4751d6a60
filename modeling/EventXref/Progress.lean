namespace EventXref

inductive ProgressEvent where
  | opened (id : Nat) (title : String)
  | report (id : Nat) (message : String)
  | closed (id : Nat)
  | note (text : String)
deriving DecidableEq, Repr

def ProgressEvent.line : ProgressEvent → String
  | .opened id title => "begin " ++ toString id ++ " " ++ title
  | .report id message => "report " ++ toString id ++ " " ++ message
  | .closed id => "end " ++ toString id
  | .note text => text

structure Progress where
  begun : Nat
  shown : List Nat
  log : List ProgressEvent
deriving DecidableEq, Repr

namespace Progress

def empty : Progress := ⟨0, [], []⟩

def start (p : Progress) (title : String) : Progress :=
  let id := p.begun + 1
  ⟨id, p.shown ++ [id], p.log ++ [.opened id title]⟩

def report (p : Progress) (id : Nat) (message : String) : Progress :=
  if p.shown.contains id then { p with log := p.log ++ [.report id message] } else p

def finish (p : Progress) (id : Nat) : Progress :=
  if p.shown.contains id then
    { p with shown := p.shown.filter (· ≠ id), log := p.log ++ [.closed id] }
  else p

def finishAll (p : Progress) : Progress := p.shown.foldl finish p

def note (p : Progress) (text : String) : Progress := { p with log := p.log ++ [.note text] }

/-- Work that ends at the very moment of its deadline is in time, unless it has to wait at that
moment or later. -/
def isLate (timeout elapsed : Nat) (lastWait : Option Nat) : Bool :=
  timeout < elapsed || lastWait.any (timeout ≤ ·)

/-- Does work that takes `elapsed` milliseconds and last has to wait after `lastWait` of them; if it
is late, an indicator is shown until it is done. -/
def during (p : Progress) (timeout elapsed : Nat) (lastWait : Option Nat) (title : String)
    (detail : Option String) (work : Progress → Progress) : Progress :=
  if isLate timeout elapsed lastWait then
    let p := p.start title
    let id := p.begun
    (work (detail.elim p (p.report id))).finish id
  else work p

end Progress

end EventXref
