import NfcStack.Activation.Basic
import NfcStack.Ndef
import NfcStack.Nfcee
/-!
# Events

What the controller reports on its own account: completions of requests, changes in the field, and
data. Aborts of waits are listed beside them because they reach a waiting caller in the same way.
-/

namespace NfcStack

/-- One target of a discovery that found several. -/
structure DiscoveryNotice where
  target : UInt8
  protocol : UInt8
  /-- More notices follow for the same field. -/
  more : Bool
  deriving DecidableEq, Repr, Inhabited

inductive Event where
  | enabled (status : Status)
  | disabled
  | field (status : Status) (on : Bool)
  | transportError
  | controllerTimeout
  | parameterSet (status : Status)
  | powerSubStateSet (status : Status)
  | pollingEnabled (status : Status)
  | pollingDisabled (status : Status)
  | discoveryStarted (status : Status)
  | discoveryStopped (status : Status)
  | activated (act : Activation)
  | deactivated (sleep : Bool)
  | discovered (status : Status) (notice : DiscoveryNotice)
  | selected (status : Status)
  | data (status : Status) (bytes : Bytes)
  | presence (status : Status)
  | readDone (status : Status)
  | writeDone (status : Status)
  | formatDone (status : Status)
  | lockDone (status : Status)
  | detected (report : NdefDetection)
  | ndefRegistered (status : Status)
  | ndefData (message : Bytes)
  | nfceesRegistered (status : Status)
  | techRouted (status : Status)
  | techCleared (status : Status)
  | protocolRouted (status : Status)
  | protocolCleared (status : Status)
  | aidAdded (status : Status)
  | aidRemoved (status : Status)
  | routingCommitted
  | nfceesAnnounced (status : Status) (announced : List NfceeAnnouncement)
  | nfceeModeSet (status : Status)
  | remaining (size : UInt16)
  | cardActivated (protocol : UInt8)
  | cardDeactivated
  | cardData (status : Status) (bytes : Bytes)
  | hciReceived (pipe code : UInt8) (data : Bytes)
  | hciOther (code : UInt8)
  deriving DecidableEq, Repr, Inhabited

/-- What can reach the host while a caller waits. -/
inductive Happening where
  | event (event : Event)
  | abortAll
  | abortSession
  deriving DecidableEq, Repr, Inhabited

end NfcStack
