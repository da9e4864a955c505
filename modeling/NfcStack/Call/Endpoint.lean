import NfcStack.Call.Answer
import NfcStack.Tag.Endpoint.Message
import NfcStack.Tag.Endpoint.Watch
/-!
# Calls on endpoints

The operations of an endpoint as data. A presence loop is started, stopped and run by itself; here a
caller only asks for one.
-/

namespace NfcStack

inductive EndpointCall where
  | connect (kind : TagKind)
  | disconnect
  | reconnect
  | transceive (frame buffer : Bytes)
  | checkPresence
  | checkNdef
  | readNdef
  | writeNdef (message : Bytes)
  | format (key : Bytes)
  | makeReadOnly
  | isFormattable
  | extras (position : Nat)
  | addNdef
  | info
  /-- Does nothing: a tag keeps what it exposes. -/
  | removeTechnology
  | startWatch
  | stopWatch
  | drop
  deriving DecidableEq, Repr

namespace EndpointCall

variable {σ : Type}

def look (number : Nat) (f : Endpoint → Answer) : Op σ Answer := do
  match ← Op.read (·.endpoint? number) with
  | some endpoint => return f endpoint
  | none => return .noEndpoint

def run (number : Nat) : EndpointCall → Op σ Answer
  | .connect kind => Answer.verdict <$> Endpoint.connect number kind
  | .disconnect => Answer.verdict <$> Endpoint.disconnect number
  | .reconnect => Answer.verdict <$> Endpoint.reconnect number
  | .transceive frame buffer =>
    (fun answer => Answer.exchanged answer.1 answer.2) <$>
      Op.reserving (.endpoint number) (Tag.transceive frame buffer)
  | .checkPresence => Answer.verdict <$> Endpoint.checkPresence number
  | .checkNdef => Answer.info <$> Op.reserving (.endpoint number) Tag.checkNdefInfo
  | .readNdef => Answer.message <$> Endpoint.readNdef number
  | .writeNdef message => Answer.verdict <$> Op.reserving (.endpoint number) (Tag.writeNdef message)
  | .format key => Answer.verdict <$> Endpoint.format number key
  | .makeReadOnly => Answer.verdict <$> Op.reserving (.endpoint number) Tag.makeReadOnly
  | .isFormattable => Answer.verdict <$> Tag.isFormattable
  | .extras position => Answer.extras <$> Endpoint.extrasAt number position
  | .addNdef => do
    Endpoint.addNdef number
    look number fun endpoint => .kinds endpoint.kinds
  | .info => look number .endpoint
  | .removeTechnology => return .done
  | .startWatch => (fun loop => Answer.verdict loop.isSome) <$> Endpoint.startWatch number true
  | .stopWatch => (fun _ => Answer.done) <$> Endpoint.stopWatch number
  | .drop => (fun _ => Answer.done) <$> Endpoint.drop number

end EndpointCall

end NfcStack
