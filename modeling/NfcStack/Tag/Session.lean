import NfcStack.Activation.Signature
import NfcStack.Controller.Event
import NfcStack.Rendezvous
import NfcStack.Tag.Slot
import NfcStack.Tag.Timeouts
/-!
# Tag sessions

What the host knows of the tag in the field: the target it selected, the slots it has seen since the
field was empty, and the waits for the tag's completions.
-/

namespace NfcStack

structure Connection where
  handle : UInt8
  protocol : UInt8
  technology : Technology
  deriving DecidableEq, Repr, Inhabited

structure Session where
  connection : Option Connection := none
  timeouts : TimeoutTable
  slots : List Slot := []
  /-- Targets of the discovery that is being reported. -/
  notices : List DiscoveryNotice := []
  protocol : UInt8 := Protocol.unknown
  signatures : Signatures := {}
  topazCapacity : UInt32 := 0
  lastCheck : Option NdefCheck := none
  inTransceive : Bool := false
  present : Bool := true
  /-- Answer bytes that arrived since the last frame was sent. -/
  received : Bytes := []
  message : Bytes := []
  select : Rendezvous Status := {}
  activated : Rendezvous Unit := {}
  deactivated : Rendezvous Unit := {}
  transceive : Rendezvous Status := {}
  presence : Rendezvous Status := {}
  read : Rendezvous Status := {}
  write : Rendezvous Status := {}
  format : Rendezvous Status := {}
  lock : Rendezvous Status := {}
  check : Rendezvous NdefCheck := {}
  deriving DecidableEq, Repr, Inhabited

namespace Session

/-- A session in an empty field. -/
def fresh (timeouts : TagTimeouts) : Session :=
  { timeouts := TimeoutTable.ofDefaults timeouts }

def forget (session : Session) : Session :=
  { session with
    connection := none
    slots := []
    notices := []
    protocol := Protocol.unknown
    signatures := {}
    topazCapacity := 0
    lastCheck := none
    timeouts := session.timeouts.reset }

/-- Takes in an activation. Slots add up until the field is empty; a full list takes no more. -/
def admit? (session : Session) (act : Activation) : Option Session :=
  if Technology.tableSize ≤ session.slots.length then none
  else some
    { session with
      protocol := act.protocol
      topazCapacity := act.topazCapacity
      signatures := Signatures.ofActivation act
      slots := session.slots ++ Slot.ofActivation act
      present := true }

/-- Takes in a discovery notice. The last one of a discovery closes it, and hands out the first
notice whose target a reader can select. -/
def collect (session : Session) (notice : DiscoveryNotice) : Option DiscoveryNotice × Session :=
  let notices := session.notices ++ [notice]
  if notice.more then (none, { session with notices })
  else
    (notices.find? (fun found => Protocol.isSelectable found.protocol), { session with notices := [] })

def abort (session : Session) : Session :=
  { session with
    select := session.select.abort
    activated := session.activated.abort
    deactivated := session.deactivated.abort
    transceive := session.transceive.abort
    presence := session.presence.abort
    read := session.read.abort
    write := session.write.abort
    format := session.format.abort
    lock := session.lock.abort
    check := session.check.abort }

/-- Takes in answer bytes: a continued answer is only kept, any other status ends the exchange, and a
status other than `ok` drops the bytes it came with. -/
def receiveData (session : Session) (status : Status) (bytes : Bytes) : Session :=
  match status with
  | .ok =>
    { session with
      received := session.received ++ bytes
      transceive := session.transceive.notify status }
  | .continuing => { session with received := session.received ++ bytes }
  | _ => { session with transceive := session.transceive.notify status }

/-- Takes in an event addressed to the session; all others leave it unchanged. -/
def receive (session : Session) : Event → Session
  | .selected status => { session with select := session.select.notify status }
  | .data status bytes => session.receiveData status bytes
  | .presence status => { session with presence := session.presence.notify status }
  | .readDone status =>
    { session with
      message := if status.isOk then session.message else []
      read := session.read.notify status }
  | .writeDone status => { session with write := session.write.notify status }
  | .formatDone status => { session with format := session.format.notify status }
  | .lockDone status => { session with lock := session.lock.notify status }
  | .detected report =>
    { session with
      check := session.check.notify (NdefCheck.ofDetection report session.topazCapacity) }
  | .ndefData message => { session with message }
  | _ => session

end Session

end NfcStack
