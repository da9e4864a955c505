import NfcStack.Tag.Selection
/-!
# Presence

Whether the tag is still in the field.
-/

namespace NfcStack.Tag

variable {σ : Type}

/-- Asks the controller for the tag. A refused request tells nothing new, so what was known
stands. -/
def probe : Op σ Bool := do
  let option ← Op.read (·.config.presenceOption)
  match ← Op.call Venue.presence (.presenceCheck option) with
  | .completed status => return status.isOk
  | .rejected _ => Op.read (·.session.present)
  | _ => return false

/-- Whether the tag is present. While an exchange runs or the radio field is held the tag counts as
present and is not asked. -/
def checkPresence : Op σ Bool :=
  whenReady false do
    let host ← Op.host
    if host.session.inTransceive || host.usesField then return true
    else do
      let present ← Op.holdingField Host.waitBound probe
      Op.updateSession fun session => { session with present }
      return present

end NfcStack.Tag
