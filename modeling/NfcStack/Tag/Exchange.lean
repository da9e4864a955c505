import NfcStack.Tag.Selection
/-!
# Exchanging frames

A frame is sent to the connected tag and its answer collected. A MIFARE Classic tag answers one byte
when it refuses a frame: the frame is sent once more, and a tag that refuses it again is selected anew.
-/

namespace NfcStack.Tag

variable {σ : Type}

/-- Sends a frame and waits for the answer. The bytes are those that arrived since the buffer was emptied
for them, also when the wait ends without a completion. -/
def exchange (frame : Bytes) : Op σ (Status × Bytes) := do
  Op.update (Venue.transceive.map .arm)
  Op.elapse
  Op.updateSession fun session => { session with received := [] }
  Op.elapse
  let verdict ← Op.issue (.sendFrame frame)
  if verdict.isOk then do
    let outcome ← Op.await Venue.transceive
    let response ← Op.read (·.session.received)
    Op.updateSession fun session => { session with received := [] }
    return (outcome.status, response)
  else do
    Op.update (Venue.transceive.map .disarm)
    return (verdict, [])

/-- The first byte of an authentication with either key; such a frame is never repeated. -/
def isAuthentication (frame : Bytes) : Bool :=
  frame.head? == some 0x60 || frame.head? == some 0x61

def isRefusal (response : Bytes) : Bool :=
  match response with
  | [byte] => byte != 0
  | _ => false

/-- Looks after a MIFARE Classic tag that refused a frame: the frame is repeated unless it
authenticates, and a last refusal leads to a new selection. -/
def recover (handle : UInt8) (frame : Bytes) (first : Status × Bytes) : Op σ (Status × Bytes) := do
  if isRefusal first.2 then do
    let last ← if isAuthentication frame then pure first else exchange frame
    if isRefusal last.2 then do
      let _ ← reconnect ⟨handle, Protocol.mifare, .mifareClassic⟩ true
      return last
    else return last
  else return first

def setInTransceive (inTransceive : Bool) : Op σ Unit :=
  Op.updateSession fun session => { session with inTransceive }

/-- Exchanges a frame with the connected tag. Without a tag the buffer is given back as it was. -/
def transceive (frame buffer : Bytes) : Op σ (Status × Bytes) :=
  whenReady (.busy, buffer) do
    setInTransceive true
    let answer ← Op.holdingField Host.exchangeBound do
      let connection ← Op.read (·.session.connection)
      let first ← exchange frame
      match connection with
      | some target =>
        if target.protocol = Protocol.mifare then recover target.handle frame first
        else return first
      | none => return first
    setInTransceive false
    return answer

end NfcStack.Tag
