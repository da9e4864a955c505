import NfcStack.Aid
import NfcStack.Mask
import NfcStack.Nfcee
/-!
# Requests

What the host asks of the controller. Each request gets an immediate verdict; an accepted one may be
followed by events.
-/

namespace NfcStack

/-- One edit of the controller's routing table. -/
structure RouteEntry where
  aid : Aid
  route : NfceeHandle
  powerState : UInt8
  info : AidInfo
  deriving DecidableEq, Repr, Inhabited

/-- The kinds of requests, by which their treatment can be scripted. -/
inductive RequestKind where
  | adaptationOpen
  | adaptationClose
  | downloadFirmware
  | dump
  | factoryReset
  | shutdown
  | enable
  | disable
  | enablePolling
  | disablePolling
  | enableListening
  | disableListening
  | startDiscovery
  | stopDiscovery
  | setDiscoveryDuration
  | setPowerSubState
  | setParameter
  | select
  | deactivate
  | sendFrame
  | registerNdef
  | detectNdef
  | readNdef
  | writeNdef
  | presenceCheck
  | format
  | lock
  | registerHci
  | queryNfcees
  | registerNfcees
  | deregisterNfcees
  | setTechRouting
  | clearTechRouting
  | setProtocolRouting
  | clearProtocolRouting
  | addAid
  | removeAid
  | commitRouting
  | setNfceeMode
  | queryRemaining
  | setIsoDepListenTech
  | registerAidOnHost
  deriving DecidableEq, Repr, Inhabited

inductive Request where
  | adaptationOpen
  | adaptationClose
  | downloadFirmware
  | dump (descriptor : Int)
  | factoryReset
  | shutdown
  | enable
  | disable (graceful : Bool)
  | enablePolling (mask : TechMask)
  | disablePolling
  | enableListening
  | disableListening
  | startDiscovery
  | stopDiscovery
  | setDiscoveryDuration (milliseconds : UInt16)
  | setPowerSubState (state : UInt8)
  | setParameter (id : UInt8) (value : Bytes)
  | select (target protocol interface : UInt8)
  | deactivate (sleep : Bool)
  | sendFrame (data : Bytes)
  | registerNdef
  | detectNdef
  | readNdef
  | writeNdef (message : Bytes)
  | presenceCheck (option : UInt8)
  | format
  | lock (hard : Bool)
  | registerHci (name : String)
  | queryNfcees
  | registerNfcees
  | deregisterNfcees
  | setTechRouting (handle : NfceeHandle) (routing : PowerRouting TechMask)
  | clearTechRouting (handle : NfceeHandle) (mask : TechMask)
  | setProtocolRouting (handle : NfceeHandle) (routing : PowerRouting ProtocolMask)
  | clearProtocolRouting (handle : NfceeHandle) (mask : ProtocolMask)
  | addAid (entry : RouteEntry)
  | removeAid (aid : Bytes)
  | commitRouting
  | setNfceeMode (handle : NfceeHandle) (mode : UInt8)
  | queryRemaining
  | setIsoDepListenTech (mask : TechMask)
  | registerAidOnHost (aid : Aid)
  deriving DecidableEq, Repr, Inhabited

def Request.kind : Request → RequestKind
  | .adaptationOpen => .adaptationOpen
  | .adaptationClose => .adaptationClose
  | .downloadFirmware => .downloadFirmware
  | .dump _ => .dump
  | .factoryReset => .factoryReset
  | .shutdown => .shutdown
  | .enable => .enable
  | .disable _ => .disable
  | .enablePolling _ => .enablePolling
  | .disablePolling => .disablePolling
  | .enableListening => .enableListening
  | .disableListening => .disableListening
  | .startDiscovery => .startDiscovery
  | .stopDiscovery => .stopDiscovery
  | .setDiscoveryDuration _ => .setDiscoveryDuration
  | .setPowerSubState _ => .setPowerSubState
  | .setParameter _ _ => .setParameter
  | .select _ _ _ => .select
  | .deactivate _ => .deactivate
  | .sendFrame _ => .sendFrame
  | .registerNdef => .registerNdef
  | .detectNdef => .detectNdef
  | .readNdef => .readNdef
  | .writeNdef _ => .writeNdef
  | .presenceCheck _ => .presenceCheck
  | .format => .format
  | .lock _ => .lock
  | .registerHci _ => .registerHci
  | .queryNfcees => .queryNfcees
  | .registerNfcees => .registerNfcees
  | .deregisterNfcees => .deregisterNfcees
  | .setTechRouting _ _ => .setTechRouting
  | .clearTechRouting _ _ => .clearTechRouting
  | .setProtocolRouting _ _ => .setProtocolRouting
  | .clearProtocolRouting _ _ => .clearProtocolRouting
  | .addAid _ => .addAid
  | .removeAid _ => .removeAid
  | .commitRouting => .commitRouting
  | .setNfceeMode _ _ => .setNfceeMode
  | .queryRemaining => .queryRemaining
  | .setIsoDepListenTech _ => .setIsoDepListenTech
  | .registerAidOnHost _ => .registerAidOnHost

end NfcStack
