import NfcStack.Tag.Endpoint.Selection
/-!
# Watching a tag

A presence loop asks for the tag again and again until it is gone or somebody wakes the loop. It then
lets go of the tag, and reports the tag as lost if the loop was still the current one.
-/

namespace NfcStack.Endpoint

variable {σ : Type}

/-- How a presence loop ended. -/
inductive WatchEnd where
  | lost (handle : UInt8)
  | silent
  /-- It has not ended: the tag was there at every turn. -/
  | watching
  deriving DecidableEq, Repr, Inhabited

/-- The end of a loop that gave up its own place. -/
def WatchEnd.ofLost : Option UInt8 → WatchEnd
  | some handle => .lost handle
  | none => .silent

/-- A step on an endpoint that nobody can come in between of. -/
def atOnce {α : Type} (number : Nat) (f : Endpoint → α × Endpoint) : Op σ (Option α) := do
  match ← Op.read (·.endpoint? number) with
  | none => return none
  | some endpoint => do
    update number fun _ => (f endpoint).2
    return some (f endpoint).1

/-- Starts a presence loop and gives its number; there is none if a loop is current, or if none can be
brought under way. -/
def startWatch (number : Nat) (spawned : Bool) : Op σ (Option Nat) := do
  match ← atOnce number takeNumber with
  | none => return none
  | some loop => do
    if (← atOnce number (claimLoop loop)) = some true then do
      update number (setPresent true)
      if spawned then do
        update number arm
        return some loop
      else do
        update number giveUpLoop
        return none
    else return none

def stopWatch (number : Nat) : Op σ Unit := update number stopLoop

/-- Drops the endpoint. Its loop ends without a word. -/
def drop (number : Nat) : Op σ Unit := update number release

/-- The end of a loop: the tag is let go of, and reported unless the loop was stopped before. -/
def retire (number loop : Nat) : Op σ WatchEnd := do
  update number (setPresent false)
  let _ ← Tag.disconnect
  if (← atOnce number (leaveLoop loop)) = some true then do
    let endpoint ← Op.read (·.endpoint? number)
    return .ofLost (endpoint.bind lostHandle?)
  else return .silent

/-- Runs turns of a loop, each after its delay, at most so many. A loop does not ask for the tag while an
operation of its endpoint is under way; then the radio field is in use, where a check asks for nothing. -/
def watch (number loop : Nat) : Nat → Op σ WatchEnd
  | 0 => return .watching
  | turns + 1 => do
    match ← Op.read fun host => (host.endpoint? number).filter Endpoint.owned with
    | none => return .silent
    | some endpoint => do
      update number disarm
      if endpoint.missesPlace loop endpoint.watchdog.outcome.isCompleted || !endpoint.present then
        retire number loop
      else if ← Tag.checkPresence then do
        update number arm
        watch number loop turns
      else retire number loop

end NfcStack.Endpoint
