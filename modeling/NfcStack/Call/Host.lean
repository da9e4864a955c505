import NfcStack.Call.Answer
import NfcStack.Host.Capability
import NfcStack.Host.Discovery
import NfcStack.Host.Lifecycle
/-!
# Calls on the host

The operations of the host as data, so that runs of calls can be stated.
-/

namespace NfcStack

inductive HostCall where
  | bringUp
  | takeDown
  | isActive
  | enableDiscovery (mask : Option TechMask) (readerMode hostRouting restart : Bool)
  | disableDiscovery
  | startRadio
  | stopRadio
  | isRadioOn
  | startPolling (mask : TechMask)
  | stopPolling
  | sendFrame (frame : Bytes)
  | setScreen (mask : UInt8)
  | screen
  | version
  | isoDepLimit
  | type3 (identifier : Bytes)
  | canLock (forumType : Int)
  | abort
  | checkFirmware
  | dump (descriptor : Int)
  | factoryReset
  | shutdown
  | setSecure (secure : Bool)
  | addAid (aid : Bytes) (route : UInt8) (info : AidInfo)
  | removeAid (aid : Bytes)
  | clearAids
  | commit
  | setHostRouting (enable : Bool)
  | bringUpCards
  | takeDownCards
  | tableSize
  | remaining
  | routes
  | setListener (listener : Listener)
  deriving DecidableEq, Repr

namespace HostCall

variable {σ : Type}

def withAid (bytes : Bytes) (op : Aid → Op σ Bool) : Op σ Answer :=
  match Aid.ofBytes bytes with
  | .ok aid => Answer.verdict <$> op aid
  | .error failure => return .failed failure

/-- Runs an operation that has nothing to tell. -/
def silently (op : Op σ Unit) : Op σ Answer := (fun _ => Answer.done) <$> op

/-- Runs an operation that always reports success. -/
def claiming (op : Op σ Unit) : Op σ Answer := (fun _ => Answer.verdict true) <$> op

/-- Makes a request and passes over the controller's verdict. -/
def order (request : Request) : Op σ Unit := do
  let _ ← Op.send request
  return ()

def sendFrameAlone (frame : Bytes) : Op σ Bool := Op.reserving .lifecycle do
  let verdict ← Op.send (.sendFrame frame)
  return verdict.isOk

def run : HostCall → Op σ Answer
  | .bringUp => Answer.verdict <$> Lifecycle.bringUp
  | .takeDown => Answer.verdict <$> Lifecycle.takeDown
  | .isActive => Answer.verdict <$> Op.read (·.flags.active)
  | .enableDiscovery mask readerMode hostRouting restart =>
    silently (Discovery.enable mask readerMode hostRouting restart)
  | .disableDiscovery => silently Discovery.disable
  | .startRadio => Answer.verdict <$> Radio.startDiscovery
  | .stopRadio => Answer.verdict <$> Radio.stopDiscovery
  | .isRadioOn => Answer.verdict <$> Op.read (·.flags.rf)
  | .startPolling mask => Answer.verdict <$> Radio.startPolling mask
  | .stopPolling => Answer.verdict <$> Radio.stopPolling
  | .sendFrame frame => Answer.verdict <$> sendFrameAlone frame
  | .setScreen mask => claiming (Discovery.setScreen mask)
  | .screen => (fun screen => Answer.number screen.toNat) <$> Op.read (·.flags.screen)
  | .version => (fun version => Answer.number version.toNat) <$> Op.version
  | .isoDepLimit =>
    (fun config => Answer.isoDepLimit config.isoDepLimit config.extendedLength) <$>
      Op.read (·.config)
  | .type3 identifier =>
    return .type3 (Capability.registersType3 identifier) Capability.type3TableSize
      Capability.lastError
  | .canLock forumType => return .verdict (Capability.canLock forumType)
  | .abort => silently (Op.update Host.abortAll)
  | .checkFirmware => claiming Lifecycle.checkFirmware
  | .dump descriptor => silently (order (.dump descriptor))
  | .factoryReset => silently (order .factoryReset)
  | .shutdown => silently (order .shutdown)
  | .setSecure secure => claiming (CardEmulation.setSecure secure)
  | .addAid aid route info => withAid aid fun aid => CardEmulation.addAid aid route info
  | .removeAid aid => withAid aid CardEmulation.removeAid
  | .clearAids => Answer.verdict <$> CardEmulation.clearAids
  | .commit => Answer.verdict <$> CardEmulation.commit
  | .setHostRouting enable => silently (CardEmulation.setHostRouting enable)
  | .bringUpCards => Answer.verdict <$> CardEmulation.bringUp
  | .takeDownCards => silently CardEmulation.takeDown
  | .tableSize => (fun size => Answer.number size.toNat) <$> Op.tableSize
  | .remaining => (fun room => Answer.number room.toNat) <$> CardEmulation.remaining
  | .routes => (fun config => Answer.routes config.routing) <$> Op.read (·.config)
  | .setListener listener => silently (Op.update fun host => { host with listener })

end HostCall

end NfcStack
