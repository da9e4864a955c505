import NfcStack.Rendezvous
/-!
# Runs of a rendezvous

What callers and callbacks do to one rendezvous, step by step. The caller that armed it holds it until
it waits or lets go; nobody else can arm it in between.
-/

namespace NfcStack.Rendezvous

/-- What anyone may do at any time. -/
inductive Signal (α : Type) where
  | notify (value : α)
  | abort
  | isArmed
  | name
  deriving DecidableEq, Repr

inductive Step (α : Type) where
  | signal (signal : Signal α)
  | arm
  | drop
  | wait
  /-- Arms, makes a request during which others may signal, and waits if it was accepted. -/
  | call (issued : Status) (during : List (Signal α))
  deriving DecidableEq, Repr

inductive Reply (α : Type) where
  | done
  | verdict (yes : Bool)
  | name
  | pending
  | notArmed
  | ended (outcome : Outcome α)
  | called (outcome : Outcome α) (during : List (Reply α))
  deriving Repr

variable {α : Type}

/-- A notification tells whether it arrived inside a window. -/
def signal (r : Rendezvous α) : Signal α → Reply α × Rendezvous α
  | .notify value => (.verdict r.armed, r.notify value)
  | .abort => (.done, r.abort)
  | .isArmed => (.verdict r.armed, r)
  | .name => (.name, r)

def signals (r : Rendezvous α) : List (Signal α) → List (Reply α) × Rendezvous α
  | [] => ([], r)
  | first :: rest =>
    let (reply, r) := r.signal first
    let (replies, r) := r.signals rest
    (reply :: replies, r)

def step (r : Rendezvous α) : Step α → Reply α × Rendezvous α
  | .signal signal => r.signal signal
  | .arm => if r.armed then (.pending, r) else (.done, r.arm)
  | .drop => (.done, r.disarm)
  | .wait => if r.armed then (.ended r.outcome, r.disarm) else (.notArmed, r)
  | .call issued during =>
    if r.armed then (.pending, r)
    else
      let (replies, r) := r.arm.signals during
      let outcome := if issued.isOk then r.outcome else .rejected issued
      (.called outcome replies, r.disarm)

/-- The replies to a list of steps. -/
def run (r : Rendezvous α) : List (Step α) → List (Reply α) × Rendezvous α
  | [] => ([], r)
  | first :: rest =>
    let (reply, r) := r.step first
    let (replies, r) := r.run rest
    (reply :: replies, r)

end NfcStack.Rendezvous
