namespace EventXref

structure Cancellation where
  /-- Looks that find nothing; without a number no look ever finds a request. -/
  quietLooks : Option Nat
deriving DecidableEq, Repr

namespace Cancellation

def never : Cancellation := ⟨none⟩

def already : Cancellation := ⟨some 0⟩

/-- Requested during the work between two looks, the first of which has the number `look`; no look
has the number 0. -/
def after (look : Nat) : Cancellation := if look = 0 then never else ⟨some look⟩

def isRequested (c : Cancellation) : Bool := c.quietLooks == some 0

def next (c : Cancellation) : Cancellation := ⟨c.quietLooks.map (· - 1)⟩

end Cancellation

end EventXref
