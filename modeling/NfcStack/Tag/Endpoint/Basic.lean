import NfcStack.Rendezvous
import NfcStack.Tag.Session
/-!
# Tag endpoints

The handle on one tag that the listener gets. It lists the slots known when the tag was discovered,
the first of which identifies the tag, and keeps what it learns about them. A message slot is appended
later, once.
-/

namespace NfcStack

structure Endpoint where
  slots : List Slot
  uid : Bytes
  /-- Details already worked out, by position of the slot. -/
  extras : List (Nat × Extras) := []
  connected : Option (UInt8 × Nat) := none
  /-- Whether it still has an owner. An operation that is under way goes on without one. -/
  owned : Bool := true
  present : Bool := true
  ndefAdded : Bool := false
  /-- The presence loop that is current, zero if none is. -/
  currentLoop : Nat := 0
  /-- The number of the last loop that was asked for. -/
  lastLoop : Nat := 0
  watchdog : Rendezvous Unit := {}
  deriving DecidableEq, Repr, Inhabited

namespace Endpoint

def ofSession (session : Session) (act : Activation) : Endpoint :=
  { slots := session.slots, uid := act.uid }

def kinds (endpoint : Endpoint) : List TagKind :=
  endpoint.slots.map (fun slot => slot.technology.kind)

def handle (endpoint : Endpoint) : UInt8 :=
  match endpoint.slots with
  | slot :: _ => slot.handle
  | [] => 0

def connectedTechnology? (endpoint : Endpoint) : Option Technology :=
  match endpoint.connected with
  | some (_, position) => (endpoint.slots[position]?).map (·.technology)
  | none => none

/-- The slot that a connection to a kind goes to, with its position. A message slot has no interface
of its own: where it belongs to the connected target, the connection goes to the first slot. -/
def place? (endpoint : Endpoint) (kind : TagKind) : Option (Nat × Slot) :=
  match endpoint.slots.findIdx? (fun slot => slot.technology.kind = kind) with
  | none => none
  | some found =>
    let onTarget := match endpoint.connected, endpoint.slots[found]? with
      | some (handle, _), some slot => handle == slot.handle
      | _, _ => false
    let position := if onTarget && kind = .ndef then 0 else found
    (endpoint.slots[position]?).map fun slot => (position, slot)

def knownExtras? (endpoint : Endpoint) (position : Nat) : Option Extras :=
  endpoint.extras.lookup position

def keepExtras (endpoint : Endpoint) (position : Nat) (extras : Extras) : Endpoint :=
  { endpoint with extras := endpoint.extras ++ [(position, extras)] }

def append (endpoint : Endpoint) (slot : Slot) (extras : Extras) : Endpoint :=
  { endpoint.keepExtras endpoint.slots.length extras with slots := endpoint.slots ++ [slot] }

def isWatched (endpoint : Endpoint) : Bool := endpoint.currentLoop ≠ 0

/-- Takes a number for a presence loop. Every request for a loop uses one up. -/
def takeNumber (endpoint : Endpoint) : Nat × Endpoint :=
  (endpoint.lastLoop + 1, { endpoint with lastLoop := endpoint.lastLoop + 1 })

/-- Makes a loop the current one if none is. -/
def claimLoop (number : Nat) (endpoint : Endpoint) : Bool × Endpoint :=
  if endpoint.currentLoop = 0 then (true, { endpoint with currentLoop := number })
  else (false, endpoint)

/-- A loop that could not be brought under way leaves no loop current. -/
def giveUpLoop (endpoint : Endpoint) : Endpoint := { endpoint with currentLoop := 0 }

def setPresent (present : Bool) (endpoint : Endpoint) : Endpoint := { endpoint with present }

def arm (endpoint : Endpoint) : Endpoint := { endpoint with watchdog := endpoint.watchdog.arm }

def disarm (endpoint : Endpoint) : Endpoint := { endpoint with watchdog := endpoint.watchdog.disarm }

/-- Makes no loop current and wakes the one that waits. -/
def stopLoop (endpoint : Endpoint) : Endpoint :=
  { endpoint with currentLoop := 0, watchdog := endpoint.watchdog.notify () }

/-- Whether a loop that was woken, or whose delay has run out, has no place any more. -/
def missesPlace (endpoint : Endpoint) (number : Nat) (woken : Bool) : Bool :=
  woken || endpoint.currentLoop ≠ number

/-- A loop that ends gives up its place; true if it was still the current one. -/
def leaveLoop (number : Nat) (endpoint : Endpoint) : Bool × Endpoint :=
  if endpoint.currentLoop = number then (true, { endpoint with currentLoop := 0 })
  else (false, endpoint)

/-- The handle under which the tag is reported as lost. An endpoint without slots has none. -/
def lostHandle? (endpoint : Endpoint) : Option UInt8 :=
  if endpoint.slots.isEmpty then none else some endpoint.handle

/-- The last owner lets the endpoint go. -/
def release (endpoint : Endpoint) : Endpoint := { endpoint with owned := false }

/-- The end of an endpoint that nobody keeps: no loop is current, and the one that waits is woken. -/
def destroy (endpoint : Endpoint) : Endpoint :=
  { endpoint with currentLoop := 0, watchdog := endpoint.watchdog.abort }

end Endpoint

end NfcStack
