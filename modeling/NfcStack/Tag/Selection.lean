import NfcStack.System.Operation
/-!
# Selecting a tag

A target is selected for the first time, or put to sleep and selected again. Only a selection that the
controller confirmed is recorded as the connection.
-/

namespace NfcStack.Tag

variable {σ α : Type}

/-- Runs an operation on the tag in the field. Without an active stack and a tag it gives the other
result and asks nothing of the controller. -/
def whenReady (otherwise : α) (op : Op σ α) : Op σ α := do
  if ← Op.read (·.flags.tagReady) then op else return otherwise

def selectRequest (target : Connection) : Request :=
  .select target.handle target.protocol (RadioInterface.forProtocol target.protocol)

def remember (target : Connection) : Op σ Unit :=
  Op.updateSession fun session => { session with connection := some target }

/-- Selects a target for the first time. A selection that is not confirmed in time is undone. -/
def connect (target : Connection) : Op σ Status :=
  whenReady .busy <| Op.holdingField Host.waitBound do
    match ← Op.call Venue.select (selectRequest target) with
    | .completed .ok => do
      remember target
      return .ok
    | .timedOut => do
      let _ ← Op.send (.deactivate false)
      return .timeout
    | outcome => return outcome.status

/-- Selects a target that was put to sleep and waits until it is active again. -/
def reselect (target : Connection) : Op σ Bool := do
  Op.update (Venue.activated.map .arm)
  match ← Op.call Venue.select (selectRequest target) with
  | .completed .ok => do
    let activation ← Op.await Venue.activated
    if activation.isCompleted then do
      remember target
      return true
    else return false
  | .timedOut => do
    let _ ← Op.send (.deactivate false)
    Op.update (Venue.activated.map .disarm)
    return false
  | _ => do
    Op.update (Venue.activated.map .disarm)
    return false

/-- Puts the tag to sleep and selects a target again. A connection under the same protocol is left as
it is unless a restart is wanted. -/
def reconnect (target : Connection) (restart : Bool) : Op σ Bool :=
  whenReady false <| Op.holdingField Host.waitBound do
    let current ← Op.read (·.session.connection)
    if !restart && current.any (fun connection => connection.protocol == target.protocol) then
      return true
    else
      match ← Op.call Venue.deactivated (.deactivate true) with
      | .rejected _ => return false
      | _ => reselect target

/-- Lets go of the tag. Whatever the controller answers, the connection is gone and the timeouts are
the configured ones again. -/
def disconnect : Op σ Bool :=
  Op.holdingField Host.waitBound do
    let verdict ← Op.send (.deactivate false)
    Op.updateSession fun session =>
      { session with connection := none, timeouts := session.timeouts.reset }
    Op.updateFlags fun flags => { flags with reconnecting := false }
    return verdict.isOk

end NfcStack.Tag
