import NfcStack.Controller.Basic
import NfcStack.Host.Basic
import NfcStack.OffHost
/-!
# Systems

A host, its controller, the events in flight between them, and the trace of everything that passed:
requests with their verdicts, events as they were delivered, and notifications, each with the flags of
the host at that moment.
-/

namespace NfcStack

inductive Notification where
  | fieldOn
  | fieldOff
  | cardActivated (mask : TechMask)
  | cardDeactivated (mask : TechMask)
  | cardData (mask : TechMask) (command : Bytes)
  | transaction (found : OffHostTransaction)
  | nfceesChanged
  /-- A tag with its endpoint's number, first handle, identifier and kinds. -/
  | tagDiscovered (index : Nat) (handle : UInt8) (uid : Bytes) (kinds : List TagKind)
  deriving DecidableEq, Repr

/-- Who makes a request: a caller, or the host in reaction to an event. -/
inductive Origin where
  | caller
  | reaction
  deriving DecidableEq, Repr

inductive Passage where
  | request (origin : Origin) (request : Request) (verdict : Status)
  | delivered (event : Event)
  | notified (notification : Notification)
  deriving DecidableEq, Repr

/-- What passed, and the flags of the host when it did. -/
structure Entry where
  passage : Passage
  flags : Flags
  deriving DecidableEq, Repr

/-- Who receives the controller's events. -/
inductive Receiver where
  | nobody
  | host
  /-- A tag session that runs without a host around it. -/
  | session
  deriving DecidableEq, Repr, Inhabited

/-- The last notice of a discovery that came while an operation used the radio field. Nothing else is
taken in until the field is free or the patience is at its end. -/
structure LateNotice where
  target : DiscoveryNotice
  /-- How much longer it waits, in milliseconds. -/
  patience : UInt64
  deriving DecidableEq, Repr

structure System (σ : Type) where
  host : Host
  receiver : Receiver := .nobody
  controller : σ
  /-- What the controller brought about and nobody has taken in yet, oldest first. -/
  queue : List Happening := []
  trace : List Entry := []
  late : Option LateNotice := none
  /-- Whether an operation needed what another caller uses. -/
  heldUp : Bool := false

namespace System

variable {σ : Type}

def mapHost (f : Host → Host) (s : System σ) : System σ := { s with host := f s.host }

def record (passage : Passage) (s : System σ) : System σ :=
  { s with trace := s.trace ++ [⟨passage, s.host.flags⟩] }

@[simp] theorem mapHost_host (f : Host → Host) (s : System σ) :
    (s.mapHost f).host = f s.host := rfl

@[simp] theorem mapHost_trace (f : Host → Host) (s : System σ) : (s.mapHost f).trace = s.trace := rfl

@[simp] theorem mapHost_queue (f : Host → Host) (s : System σ) : (s.mapHost f).queue = s.queue := rfl

@[simp] theorem mapHost_controller (f : Host → Host) (s : System σ) :
    (s.mapHost f).controller = s.controller := rfl

@[simp] theorem mapHost_receiver (f : Host → Host) (s : System σ) :
    (s.mapHost f).receiver = s.receiver := rfl

@[simp] theorem record_host (passage : Passage) (s : System σ) :
    (s.record passage).host = s.host := rfl

@[simp] theorem record_trace (passage : Passage) (s : System σ) :
    (s.record passage).trace = s.trace ++ [⟨passage, s.host.flags⟩] := rfl

@[simp] theorem record_queue (passage : Passage) (s : System σ) :
    (s.record passage).queue = s.queue := rfl

/-- Tells the listener, if there is one that listens. -/
def notify (notification : Notification) (s : System σ) : System σ :=
  match s.host.listener with
  | .recording => s.record (.notified notification)
  | _ => s

/-- Hands a new endpoint to the listener. Nobody keeps it if nobody listens. -/
def announce (endpoint : Endpoint) (s : System σ) : System σ :=
  match s.host.listener with
  | .recording =>
    let index := s.host.endpoints.length
    (s.mapHost fun host => { host with endpoints := host.endpoints ++ [endpoint] }).record
      (.notified (.tagDiscovered index endpoint.handle endpoint.uid endpoint.kinds))
  | _ => s

def requestsOf (trace : List Entry) : List Request :=
  trace.filterMap fun entry => match entry.passage with
    | .request _ request _ => some request
    | _ => none

def notificationsOf (trace : List Entry) : List Notification :=
  trace.filterMap fun entry => match entry.passage with
    | .notified notification => some notification
    | _ => none

end System

namespace Controller

variable {σ : Type}

/-- Makes a request. Happenings of an accepted one join the queue, unless nobody receives events; the
request to enable the controller makes the host the receiver. -/
def issue (c : Controller σ) (origin : Origin) (request : Request) (s : System σ) :
    Status × System σ :=
  let (response, controller) := c.respond request s.controller
  let receiver := if request = .enable then .host else s.receiver
  let arrivals := if response.verdict.isOk && receiver != .nobody then response.happenings else []
  (response.verdict,
    ({ s with receiver, controller, queue := s.queue ++ arrivals } : System σ).record
      (.request origin request response.verdict))

def queryNfcees (c : Controller σ) (origin : Origin) (s : System σ) :
    Except Status (List NfceeInfo) × System σ :=
  let answer := c.nfcees s.controller
  let verdict := match answer with
    | .ok _ => .ok
    | .error status => status
  (answer, s.record (.request origin .queryNfcees verdict))

end Controller

end NfcStack
