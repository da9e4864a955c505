import NfcStack.Status
/-!
# Rendezvous

A caller arms a rendezvous, issues a request, and waits. A completion is kept only while the
rendezvous is armed; the last one counts. This is no queue: what arrives outside the window is lost.
-/

namespace NfcStack

/-- How a request and the wait for its completion ended. -/
inductive Outcome (α : Type) where
  /-- The controller refused the request and nothing was awaited. -/
  | rejected (status : Status)
  | completed (value : α)
  | timedOut
  | aborted
  deriving DecidableEq, Repr

namespace Outcome

variable {α : Type}

def isCompleted : Outcome α → Bool
  | .completed _ => true
  | _ => false

def value? : Outcome α → Option α
  | .completed value => some value
  | _ => none

/-- One status for every ending: a timeout reads as `timeout` and an abort as `failed`. -/
def status : Outcome Status → Status
  | .rejected status => status
  | .completed status => status
  | .timedOut => .timeout
  | .aborted => .failed

end Outcome

structure Rendezvous (α : Type) where
  armed : Bool := false
  aborted : Bool := false
  value : Option α := none
  deriving DecidableEq, Repr, Inhabited

namespace Rendezvous

variable {α : Type}

/-- Opens a window and forgets what an earlier one left. -/
def arm (_ : Rendezvous α) : Rendezvous α :=
  { armed := true }

def disarm (_ : Rendezvous α) : Rendezvous α :=
  {}

/-- Delivers a completion; outside a window it changes nothing. -/
def notify (r : Rendezvous α) (value : α) : Rendezvous α :=
  if r.armed then { r with value := some value } else r

/-- Wakes the waiter; outside a window it changes nothing. -/
def abort (r : Rendezvous α) : Rendezvous α :=
  if r.armed then { r with aborted := true } else r

/-- How a wait ends once nothing more will arrive. A completion wins over an abort. -/
def outcome (r : Rendezvous α) : Outcome α :=
  match r.value with
  | some value => .completed value
  | none => if r.aborted then .aborted else .timedOut

/-- How a wait without a bound ends: only an abort can end it without a completion. -/
def unboundedOutcome (r : Rendezvous α) : Outcome α :=
  match r.value with
  | some value => .completed value
  | none => .aborted

end Rendezvous

end NfcStack
