import NfcStack.System.Operation
/-!
# Radio discovery and polling

Starting and stopping discovery and polling. A flag follows only a completion with `ok`; the four
requests share one venue, so any of their completions ends the wait.
-/

namespace NfcStack.Radio

variable {σ : Type}

/-- Records a change of the flags if the request that asked for it completed with `ok`. -/
def settle (outcome : Outcome Status) (change : Flags → Flags) : Op σ Bool :=
  match outcome with
  | .completed .ok => do
    Op.updateFlags change
    return true
  | _ => return false

def startDiscovery : Op σ Bool :=
  Op.holdingField Host.waitBound do
    let outcome ← Op.call Venue.polling .startDiscovery
    settle outcome fun flags => { flags with rf := true }

def stopDiscovery : Op σ Bool :=
  Op.holdingField Host.waitBound do
    let outcome ← Op.call Venue.polling .stopDiscovery
    settle outcome fun flags => { flags with rf := false }

def startPolling (mask : TechMask) : Op σ Bool :=
  Op.holdingField Host.waitBound do
    let outcome ← Op.call Venue.polling (.enablePolling mask)
    settle outcome fun flags => { flags with polling := true }

def stopPolling : Op σ Bool :=
  Op.holdingField Host.waitBound do
    let outcome ← Op.call Venue.polling .disablePolling
    settle outcome fun flags => { flags with polling := false }

end NfcStack.Radio
