import NfcStack.Tag.Exchange
/-!
# Messages

Detecting, reading and writing the NDEF message of a tag, formatting it and locking it. What the last
detection found steers later reads and writes.
-/

namespace NfcStack.Tag

variable {σ : Type}

def recordCheck (check : NdefCheck) : Op σ (Option NdefCheck) := do
  Op.updateSession fun session => { session with lastCheck := some check }
  return some check

/-- Looks for a message and keeps what was found. A refused request finds nothing and keeps what was
found before. -/
def checkNdef : Op σ (Option NdefCheck) :=
  whenReady none <| Op.holdingField Host.waitBound do
    Op.updateFlags fun flags => { flags with reconnecting := false }
    match ← Op.call Venue.check .detectNdef with
    | .completed check => recordCheck check
    | .rejected _ => return none
    | _ => recordCheck .timedOut

/-- Looks for a message; gives its size and mode if there is one. -/
def checkNdefInfo : Op σ (Option NdefInfo) := do
  let check ← checkNdef
  return check.bind NdefCheck.info?

def clearMessage : Op σ Unit :=
  Op.updateSession fun session => { session with message := [] }

/-- Reads the message that the last detection found. -/
def readNdef : Op σ (Option Bytes) :=
  whenReady none <| Op.holdingField Host.waitBound do
    clearMessage
    Op.elapse
    let lastCheck ← Op.read (·.session.lastCheck)
    if lastCheck.any NdefCheck.hasMessage then
      match ← Op.call Venue.read .readNdef with
      | .completed .ok => do
        Op.elapse
        let message ← Op.read (·.session.message)
        clearMessage
        return if message.isEmpty then none else some message
      | _ => do
        clearMessage
        return none
    else return none

/-- Runs a request to the tag; true if it completed with `ok`. -/
def confirmed (venue : Venue Status) (request : Request) : Op σ Bool := do
  match ← Op.call venue request with
  | .completed status => return status.isOk
  | _ => return false

def format : Op σ Bool :=
  whenReady false <| Op.holdingField Host.waitBound (confirmed Venue.format .format)

/-- The message that consists of one empty record. -/
def emptyMessage : Bytes := [0xd0, 0x00, 0x00]

/-- Writes a message; for an empty one a single empty record is written. A tag that was last found to
be formatable is formatted first. -/
def writeNdef (message : Bytes) : Op σ Bool :=
  whenReady false <| Op.holdingField Host.waitBound do
    let lastCheck ← Op.read (·.session.lastCheck)
    let prepared ← if lastCheck = some .formatable then format else pure true
    if prepared then
      confirmed Venue.write (.writeNdef (if message.isEmpty then emptyMessage else message))
    else return false

/-- Locks the tag for good. Where the controller rejects a hard lock a soft one is tried. -/
def makeReadOnly : Op σ Bool :=
  whenReady false <| Op.holdingField Host.waitBound do
    match ← Op.call Venue.lock (.lock true) with
    | .rejected .rejected => confirmed Venue.lock (.lock false)
    | .completed status => return status.isOk
    | _ => return false

def desfireVersion : Bytes := [0x90, 0x60, 0x00, 0x00, 0x00]

/-- Whether an answer has the length and the ending of a DESFire version. -/
def isDesfireVersion (response : Bytes) : Bool :=
  response.length == 9 && response.drop 7 == [0x91, 0xaf]

def probeDesfire : Op σ Bool := do
  let (status, response) ← transceive desfireVersion []
  return status.isOk && isDesfireVersion response

/-- Whether the tag can be formatted. Only a possible DESFire has to be asked. -/
def isFormattable : Op σ Bool := do
  let session ← Op.read (·.session)
  if session.protocol = Protocol.t1t ∨ session.protocol = Protocol.t5t
      ∨ session.protocol = Protocol.mifare then return true
  else if session.protocol = Protocol.t2t then return session.signatures.type2Formattable
  else if session.protocol = Protocol.t3t then return session.signatures.felicaLite
  else if session.protocol = Protocol.isoDep then
    if session.signatures.mifareDesfire then probeDesfire else return false
  else return false

/-- Registers for the messages of tags. -/
def registerNdef : Op σ Bool := do
  let verdict ← Op.send .registerNdef
  return verdict.isOk

end NfcStack.Tag
