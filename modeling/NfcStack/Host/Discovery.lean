import NfcStack.CardEmulation.Routing
/-!
# Discovery

Configuring polling and listening and starting or stopping discovery, and what the state of the screen
means for it.
-/

namespace NfcStack.Discovery

variable {σ : Type}

/-- Switches listening off for reader mode and on again after it, with the duration that goes with it.
Nothing is asked of the controller unless the mode changes. -/
def switchReaderMode (readerMode : Bool) : Op σ Unit := do
  if (← Op.read (·.flags.readerMode)) = readerMode then return ()
  else do
    let config ← Op.read (·.config)
    let _ ← Op.send (if readerMode then .disableListening else .enableListening)
    let duration := if readerMode then config.readerModeDuration else config.discoveryDuration
    let _ ← Op.send (.setDiscoveryDuration duration)
    Op.updateFlags fun flags => { flags with readerMode, discoveryDuration := duration }

def configurePolling (mask : TechMask) (readerMode : Bool) : Op σ Unit := do
  let _ ← Radio.stopPolling
  if mask.isEmpty then return ()
  else do
    let _ ← Radio.startPolling mask
    if ← Op.read (·.flags.polling) then switchReaderMode readerMode
    else return ()

def pollMask : Option TechMask → TechMask
  | some mask => mask ∩ TechMask.pollable
  | none => TechMask.pollable

/-- Sets up polling and routing and starts discovery. Discovery that was asked for already is left as
it is unless a restart is wanted. -/
def enable (mask : Option TechMask) (readerMode hostRouting restart : Bool) : Op σ Unit :=
    Op.reserving .lifecycle do
  let flags ← Op.read (·.flags)
  if !flags.active || (flags.discovery && !restart) then return ()
  else do
    if flags.rf then do
      let _ ← Radio.stopDiscovery
    configurePolling (pollMask mask) readerMode
    CardEmulation.setHostRouting hostRouting
    let _ ← CardEmulation.commit
    let _ ← Radio.startDiscovery
    Op.updateFlags fun flags => { flags with discovery := true, reconnecting := false }

def disable : Op σ Unit := Op.reserving .lifecycle do
  let flags ← Op.read (·.flags)
  if !flags.active || !flags.discovery then return ()
  else do
    let _ ← Radio.stopDiscovery
    if ← Op.read (·.flags.polling) then do
      let _ ← Radio.stopPolling
    Op.updateFlags fun flags => { flags with discovery := false, readerMode := false }

namespace Screen

def onUnlocked : UInt8 := 0x01

def offUnlocked : UInt8 := 0x02

def onLocked : UInt8 := 0x04

def offLocked : UInt8 := 0x08

def stateMask : UInt8 := 0x0f

/-- The bit that asks for polling while the screen is locked. -/
def pollingMask : UInt8 := 0x10

/-- Whether the host polls for tags under a mask. -/
def polls (mask : UInt8) : Bool :=
  let state := mask &&& stateMask
  if state = offLocked || state = offUnlocked then false
  else if state = onLocked then mask &&& pollingMask != 0
  else true

def parameterId : UInt8 := 0x02

def parameter (mask : UInt8) : Request :=
  .setParameter parameterId [if polls mask then 1 else 0]

end Screen

/-- Tells the controller the power sub-state; true if that was confirmed with any status. -/
def sendPowerSubState (state : UInt8) : Op σ Bool := do
  let outcome ← Op.call Venue.powerSubState (.setPowerSubState state)
  return outcome.isCompleted

/-- Tells the controller the discovery parameter; true if that was confirmed with any status. -/
def sendParameter (mask : UInt8) : Op σ Bool := do
  let outcome ← Op.call Venue.parameter (Screen.parameter mask)
  return outcome.isCompleted

/-- Tells the controller both, the second only if the first was confirmed. Leaving the unlocked screen
the parameter goes first, otherwise the sub-state. -/
def sendScreen (mask : UInt8) (leavingUnlocked : Bool) : Op σ Bool := do
  let state := mask &&& Screen.stateMask
  if leavingUnlocked then
    if ← sendParameter mask then sendPowerSubState state else return false
  else
    if ← sendPowerSubState state then sendParameter mask else return false

/-- Takes over a state of the screen. A controller that is down or of another version is told
nothing; otherwise the state is remembered only if the controller confirmed it. -/
def setScreen (mask : UInt8) : Op σ Unit := Op.reserving .lifecycle do
  let state := mask &&& Screen.stateMask
  let flags ← Op.read (·.flags)
  if flags.screen = state then return ()
  else do
    let version ← Op.version
    let told ← if !flags.active || version != Controller.version2 then pure true
      else sendScreen mask (flags.screen == Screen.onUnlocked)
    if told then Op.updateFlags fun flags => { flags with screen := state }
    else return ()

end NfcStack.Discovery
