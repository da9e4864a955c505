import NfcStack.CardEmulation.Routing
/-!
# Bringing the stack up and down

The stack goes up when the controller confirms that it is enabled, and comes down whatever the
controller answers.
-/

namespace NfcStack.Lifecycle

variable {σ : Type}

def establish : Op σ Unit := do
  let _ ← Op.send .registerNdef
  let _ ← CardEmulation.bringUp
  let _ ← Op.send (.registerHci OffHostTransaction.applicationName)
  let duration ← Op.read (·.config.discoveryDuration)
  Op.updateFlags fun flags => { flags with discoveryDuration := duration }
  let _ ← Op.send (.setDiscoveryDuration duration)
  return ()

/-- Enables the controller. A stack that is enabled already is left as it is. -/
def bringUp : Op σ Bool := Op.reserving .lifecycle do
  if ← Op.read (·.flags.enabled) then return true
  else do
    let _ ← Op.send .adaptationOpen
    let outcome ← Op.callForever Venue.enable .enable
    let enabled ← Op.read (·.flags.enabled)
    if outcome.status.isOk && enabled then do
      establish
      return true
    else do
      if enabled then do
        let _ ← Op.send (.disable false)
      let _ ← Op.send .adaptationClose
      return false

/-- Disables the controller if it is enabled; false if it refuses. -/
def disableGracefully : Op σ Bool := do
  if ← Op.read (·.flags.enabled) then do
    match ← Op.callForever Venue.disable (.disable true) with
    | .rejected _ => return false
    | _ => return true
  else return true

/-- Takes the stack down and wakes whoever still waits. A stack that is not active is left as it
is. -/
def takeDown : Op σ Bool := do
  if ← Op.read (·.flags.active) then Op.reserving .lifecycle do
    Op.updateFlags fun flags => { flags with disabling := true }
    CardEmulation.takeDown
    if ← Op.read (·.flags.rf) then do
      let _ ← Radio.stopDiscovery
    let accepted ← disableGracefully
    -- The session is only woken, not forgotten: what it knows of a tag outlives the stack.
    Op.update fun host =>
      { host with
        flags :=
          { host.flags with
            enabled := false
            disabling := false
            discovery := false
            polling := false
            rf := false
            tagActive := false
            reconnecting := false }
        session := host.session.abort
        polling := host.polling.abort
        router := host.router.abort }
    let _ ← Op.send .adaptationClose
    return accepted
  else return true

def checkFirmware : Op σ Unit := Op.reserving .lifecycle do
  let _ ← Op.send .adaptationOpen
  let _ ← Op.send .downloadFirmware
  let _ ← Op.send .adaptationClose
  return ()

end NfcStack.Lifecycle
