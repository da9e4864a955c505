import NfcStack.Call.Answer
import NfcStack.Tag.Message
import NfcStack.Tag.Presence
/-!
# Calls on the tag session

The operations of the session as data.
-/

namespace NfcStack

inductive SessionCall where
  | connect (target : Connection)
  | reconnect (target : Connection) (restart : Bool)
  | disconnect
  | transceive (frame buffer : Bytes)
  | checkPresence
  | checkNdef
  | lastCheck
  | readNdef
  | writeNdef (message : Bytes)
  | format
  | makeReadOnly
  | isFormattable
  | registerNdef
  | setTimeout (technology : Technology) (bound : UInt64)
  | timeouts
  | resetTimeouts
  | forget
  | abort
  | discover (act : Activation)
  deriving DecidableEq, Repr

namespace SessionCall

variable {σ : Type}

/-- Sets the bound of a technology; false if it has none. -/
def setBound (technology : Technology) (bound : UInt64) : Op σ Bool := do
  let session ← Op.read (·.session)
  match session.timeouts.set? technology bound with
  | some table => do
    Op.updateSession fun session => { session with timeouts := table }
    return true
  | none => return false

/-- Takes in an activation; the new endpoint is numbered like those that listeners get. -/
def welcome (act : Activation) : Op σ (Option (Nat × Endpoint)) := do
  let host ← Op.host
  match host.session.admit? act with
  | none => return none
  | some session => do
    let endpoint := Endpoint.ofSession session act
    Op.update fun host => { host with session, endpoints := host.endpoints ++ [endpoint] }
    return some (host.endpoints.length, endpoint)

def change (f : Session → Session) : Op σ Answer := (fun _ => Answer.done) <$> Op.updateSession f

def run : SessionCall → Op σ Answer
  | .connect target => Answer.status <$> Tag.connect target
  | .reconnect target restart => Answer.verdict <$> Tag.reconnect target restart
  | .disconnect => Answer.verdict <$> Tag.disconnect
  | .transceive frame buffer =>
    (fun answer => Answer.exchanged answer.1 answer.2) <$> Tag.transceive frame buffer
  | .checkPresence => Answer.verdict <$> Tag.checkPresence
  | .checkNdef => Answer.check <$> Tag.checkNdef
  | .lastCheck => Answer.check <$> Op.read (·.session.lastCheck)
  | .readNdef => Answer.message <$> Tag.readNdef
  | .writeNdef message => Answer.verdict <$> Tag.writeNdef message
  | .format => Answer.verdict <$> Tag.format
  | .makeReadOnly => Answer.verdict <$> Tag.makeReadOnly
  | .isFormattable => Answer.verdict <$> Tag.isFormattable
  | .registerNdef => Answer.verdict <$> Tag.registerNdef
  | .setTimeout technology bound => Answer.verdict <$> setBound technology bound
  | .timeouts => Answer.timeouts <$> Op.read (·.session.timeouts)
  | .resetTimeouts => change fun session => { session with timeouts := session.timeouts.reset }
  | .forget => change Session.forget
  | .abort => change Session.abort
  | .discover act => Answer.discovered <$> welcome act

end SessionCall

end NfcStack
