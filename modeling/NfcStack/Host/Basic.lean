import NfcStack.CardEmulation.Router
import NfcStack.Config
import NfcStack.Tag.Endpoint.Basic
/-!
# Host state

Everything the host side knows: flags of stack and discovery, the tag session, card emulation, and the
endpoints it handed to its listener.
-/

namespace NfcStack

structure Flags where
  enabled : Bool := false
  disabling : Bool := false
  rf : Bool := false
  discovery : Bool := false
  polling : Bool := false
  readerMode : Bool := false
  tagActive : Bool := false
  /-- The tag was put to sleep to be selected again. -/
  reconnecting : Bool := false
  /-- The screen state the controller was told last; it starts off and locked. -/
  screen : UInt8 := 0x08
  discoveryDuration : UInt16
  deriving DecidableEq, Repr, Inhabited

namespace Flags

/-- Enabled and not on the way down. -/
def active (flags : Flags) : Bool := flags.enabled && !flags.disabling

/-- Active with a tag in the field. -/
def tagReady (flags : Flags) : Bool := flags.active && flags.tagActive

end Flags

inductive Listener where
  | absent
  | silent
  | recording
  deriving DecidableEq, Repr, Inhabited

/-- What one caller at a time may use. -/
inductive Resource where
  | field
  /-- The life cycle of the stack and the mode of discovery. -/
  | lifecycle
  | endpoint (number : Nat)
  deriving DecidableEq, Repr, Inhabited

structure Host where
  config : Config
  flags : Flags
  /-- What running operations use. -/
  inUse : List Resource := []
  /-- How long the operation that uses the radio field waits at most, in milliseconds. -/
  fieldBound : UInt64 := 0
  session : Session
  router : Router := {}
  enable : Rendezvous Status := {}
  disable : Rendezvous Unit := {}
  powerSubState : Rendezvous Status := {}
  parameter : Rendezvous Status := {}
  polling : Rendezvous Status := {}
  listener : Listener := .absent
  /-- Discovered endpoints in order; one that was dropped keeps its place. -/
  endpoints : List Endpoint := []
  deriving DecidableEq, Repr, Inhabited

namespace Host

def fresh (config : Config) : Host :=
  { config
    flags := { discoveryDuration := config.discoveryDuration }
    session := Session.fresh config.tagTimeouts }

def build (config : Config) : Except Failure Host :=
  match config.validate with
  | .ok () => .ok (fresh config)
  | .error fault => .error fault.failure

def mapFlags (f : Flags → Flags) (host : Host) : Host := { host with flags := f host.flags }

def mapSession (f : Session → Session) (host : Host) : Host :=
  { host with session := f host.session }

def mapRouter (f : Router → Router) (host : Host) : Host := { host with router := f host.router }

@[simp] theorem mapFlags_flags (f : Flags → Flags) (host : Host) :
    (host.mapFlags f).flags = f host.flags := rfl

@[simp] theorem mapFlags_session (f : Flags → Flags) (host : Host) :
    (host.mapFlags f).session = host.session := rfl

@[simp] theorem mapSession_flags (f : Session → Session) (host : Host) :
    (host.mapSession f).flags = host.flags := rfl

@[simp] theorem mapSession_session (f : Session → Session) (host : Host) :
    (host.mapSession f).session = f host.session := rfl

@[simp] theorem mapRouter_flags (f : Router → Router) (host : Host) :
    (host.mapRouter f).flags = host.flags := rfl

@[simp] theorem mapRouter_session (f : Router → Router) (host : Host) :
    (host.mapRouter f).session = host.session := rfl

@[simp] theorem mapRouter_router (f : Router → Router) (host : Host) :
    (host.mapRouter f).router = f host.router := rfl

def usesField (host : Host) : Bool := host.inUse.contains .field

def waitBound (host : Host) : UInt64 := host.config.waitTimeout

def routingBound (host : Host) : UInt64 := host.config.routingTimeout

def exchangeBound (host : Host) : UInt64 :=
  host.session.timeouts.get ((host.session.connection.map (·.technology)).getD .unknown)

def endpoint? (host : Host) (index : Nat) : Option Endpoint := host.endpoints[index]?

def mapEndpoint (index : Nat) (f : Endpoint → Endpoint) (host : Host) : Host :=
  { host with endpoints := host.endpoints.modify index f }

def abortAll (host : Host) : Host :=
  { host with
    session := host.session.abort
    router := host.router.abort
    enable := host.enable.abort
    disable := host.disable.abort
    powerSubState := host.powerSubState.abort
    parameter := host.parameter.abort
    polling := host.polling.abort }

end Host

/-- The place in the host where one rendezvous is kept. -/
structure Venue (α : Type) where
  view : Host → Rendezvous α
  map : (Rendezvous α → Rendezvous α) → Host → Host

namespace Venue

def enable : Venue Status :=
  ⟨(·.enable), fun f host => { host with enable := f host.enable }⟩

def disable : Venue Unit :=
  ⟨(·.disable), fun f host => { host with disable := f host.disable }⟩

def powerSubState : Venue Status :=
  ⟨(·.powerSubState), fun f host => { host with powerSubState := f host.powerSubState }⟩

def parameter : Venue Status :=
  ⟨(·.parameter), fun f host => { host with parameter := f host.parameter }⟩

def polling : Venue Status :=
  ⟨(·.polling), fun f host => { host with polling := f host.polling }⟩

def select : Venue Status :=
  ⟨(·.session.select), fun f => Host.mapSession fun s => { s with select := f s.select }⟩

def activated : Venue Unit :=
  ⟨(·.session.activated), fun f => Host.mapSession fun s => { s with activated := f s.activated }⟩

def deactivated : Venue Unit :=
  ⟨(·.session.deactivated),
    fun f => Host.mapSession fun s => { s with deactivated := f s.deactivated }⟩

def transceive : Venue Status :=
  ⟨(·.session.transceive), fun f => Host.mapSession fun s => { s with transceive := f s.transceive }⟩

def presence : Venue Status :=
  ⟨(·.session.presence), fun f => Host.mapSession fun s => { s with presence := f s.presence }⟩

def read : Venue Status :=
  ⟨(·.session.read), fun f => Host.mapSession fun s => { s with read := f s.read }⟩

def write : Venue Status :=
  ⟨(·.session.write), fun f => Host.mapSession fun s => { s with write := f s.write }⟩

def format : Venue Status :=
  ⟨(·.session.format), fun f => Host.mapSession fun s => { s with format := f s.format }⟩

def lock : Venue Status :=
  ⟨(·.session.lock), fun f => Host.mapSession fun s => { s with lock := f s.lock }⟩

def check : Venue NdefCheck :=
  ⟨(·.session.check), fun f => Host.mapSession fun s => { s with check := f s.check }⟩

def register : Venue Status :=
  ⟨(·.router.register), fun f => Host.mapRouter fun r => { r with register := f r.register }⟩

def routing : Venue Status :=
  ⟨(·.router.routing), fun f => Host.mapRouter fun r => { r with routing := f r.routing }⟩

def aid : Venue Status :=
  ⟨(·.router.aid), fun f => Host.mapRouter fun r => { r with aid := f r.aid }⟩

def commit : Venue Unit :=
  ⟨(·.router.commit), fun f => Host.mapRouter fun r => { r with commit := f r.commit }⟩

def mode : Venue Status :=
  ⟨(·.router.mode), fun f => Host.mapRouter fun r => { r with mode := f r.mode }⟩

def remaining : Venue UInt16 :=
  ⟨(·.router.remaining), fun f => Host.mapRouter fun r => { r with remaining := f r.remaining }⟩

end Venue

end NfcStack
