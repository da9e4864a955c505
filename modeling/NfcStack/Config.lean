import NfcStack.Aid
import NfcStack.Failure
import NfcStack.Mask
import NfcStack.Nfcee
import NfcStack.Technology
/-!
# Configuration

Bounds on waits, routing defaults and secure element pipes. `Config.validate` refuses values that
would make a bounded wait fail at once or leave two secure elements indistinguishable.
-/

namespace NfcStack

/-- How long an exchange with a tag of each technology may take, in milliseconds. -/
structure TagTimeouts where
  fallback : UInt64 := 1000
  iso14443A : UInt64 := 618
  iso14443B : UInt64 := 1000
  iso14443Part4 : UInt64 := 618
  felica : UInt64 := 255
  iso15693 : UInt64 := 1000
  ndef : UInt64 := 1000
  ndefFormatable : UInt64 := 1000
  mifareClassic : UInt64 := 618
  mifareUltralight : UInt64 := 618
  deriving DecidableEq, Repr, Inhabited

def TagTimeouts.forTechnology (timeouts : TagTimeouts) : Technology → UInt64
  | .iso14443A => timeouts.iso14443A
  | .iso14443B => timeouts.iso14443B
  | .iso14443Part4 => timeouts.iso14443Part4
  | .felica => timeouts.felica
  | .iso15693 => timeouts.iso15693
  | .ndef => timeouts.ndef
  | .ndefFormatable => timeouts.ndefFormatable
  | .mifareClassic => timeouts.mifareClassic
  | .mifareUltralight => timeouts.mifareUltralight
  | .kovioBarcode | .unknown => timeouts.fallback

structure RoutingConfig where
  /-- The environment that receives the empty identifier. -/
  defaultRoute : UInt8 := 0
  /-- The environment used for routes off the host. -/
  offHostRoute : UInt8 := 0
  isoDepRoute : UInt8 := 0
  matching : AidMatching := .exactOnly
  offHostPowerState : UInt8 := 1
  hostListenTech : TechMask := TechMask.a ∪ TechMask.f
  simRoutes : Bytes := []
  eseRoutes : Bytes := []
  deriving DecidableEq, Repr, Inhabited

/-- The pipes on which the two secure elements report transactions. -/
structure PipeConfig where
  ese : UInt8 := 0x16
  sim : UInt8 := 0x0a
  deriving DecidableEq, Repr, Inhabited

structure Config where
  tagTimeouts : TagTimeouts := {}
  /-- Bound of waits for discovery, message and presence completions, in milliseconds. -/
  waitTimeout : UInt64 := 1000
  routingTimeout : UInt64 := 1000
  presenceDelay : UInt64 := 125
  discoveryDuration : UInt16 := 500
  readerModeDuration : UInt16 := 200
  isoDepLimit : UInt64 := 261
  presenceOption : UInt8 := 0
  routing : RoutingConfig := {}
  pipes : PipeConfig := {}
  deriving DecidableEq, Repr, Inhabited

namespace Config

inductive Fault where
  | zeroWait
  | zeroTagTimeout
  | zeroPresenceDelay
  | sharedPipe (pipe : UInt8)
  deriving DecidableEq, Repr

def Fault.detail : Fault → String
  | .zeroWait => "wait timeouts must be non-zero"
  | .zeroTagTimeout => "default tag timeout must be non-zero"
  | .zeroPresenceDelay => "presence check delay must be non-zero"
  | .sharedPipe pipe => "ese and sim pipes must differ (both " ++ Hex.byteLiteral pipe ++ ")"

def Fault.failure (fault : Fault) : Failure :=
  .config fault.detail

def validate (config : Config) : Except Fault Unit :=
  if config.waitTimeout = 0 ∨ config.routingTimeout = 0 then .error .zeroWait
  else if config.tagTimeouts.fallback = 0 then .error .zeroTagTimeout
  else if config.presenceDelay = 0 then .error .zeroPresenceDelay
  else if config.pipes.ese = config.pipes.sim then .error (.sharedPipe config.pipes.ese)
  else .ok ()

def shortIsoDepLimit : UInt64 := 261

def extendedLength (config : Config) : Bool := shortIsoDepLimit < config.isoDepLimit

end Config

/-- The delay between presence checks: the requested one if it is positive. -/
def presenceDelay (requested : Int) (fallback : UInt64) : UInt64 :=
  if requested ≤ 0 then fallback else UInt64.ofInt requested

end NfcStack
