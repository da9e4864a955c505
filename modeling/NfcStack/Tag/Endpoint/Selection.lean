import NfcStack.Tag.Presence
/-!
# Connecting an endpoint

An endpoint is known by its number, its position among the endpoints handed out so far. Nothing can be
connected under a number that stands for no endpoint.
-/

namespace NfcStack.Endpoint

variable {σ : Type}

def target (slot : Slot) : Connection := ⟨slot.handle, slot.protocol, slot.technology⟩

def update (number : Nat) (f : Endpoint → Endpoint) : Op σ Unit :=
  Op.update (Host.mapEndpoint number f)

/-- Selects the target of a slot: for the first time if nothing is connected, otherwise again. -/
def select (connected : Bool) (slot : Slot) : Op σ Bool := do
  if connected then Tag.reconnect (target slot) false
  else do
    let status ← Tag.connect (target slot)
    return status.isOk

def connect (number : Nat) (kind : TagKind) : Op σ Bool := Op.reserving (.endpoint number) do
  match ← Op.read (·.endpoint? number) with
  | none => return false
  | some endpoint =>
    match endpoint.place? kind with
    | none => return false
    | some (position, slot) => do
      if ← select endpoint.connected.isSome slot then do
        update number fun endpoint =>
          { endpoint with connected := some (slot.handle, position), present := true }
        return true
      else return false

/-- Lets go of the tag and wakes the presence loop. -/
def disconnect (number : Nat) : Op σ Bool := Op.reserving (.endpoint number) do
  update number fun endpoint => { endpoint with connected := none, present := false }
  let done ← Tag.disconnect
  update number fun endpoint => { endpoint with watchdog := endpoint.watchdog.notify () }
  return done

/-- Selects the connected slot again. Where nothing is connected there is nothing to do. -/
def reconnect (number : Nat) : Op σ Bool := do
  match ← Op.read (·.endpoint? number) with
  | none => return true
  | some endpoint =>
    match endpoint.connected with
    | none => return true
    | some (_, position) => Op.reserving (.endpoint number) do
      match endpoint.slots[position]? with
      | some slot => Tag.reconnect (target slot) false
      | none => return false

/-- Whether the tag is present, which the endpoint remembers. -/
def checkPresence (number : Nat) : Op σ Bool := Op.reserving (.endpoint number) do
  let present ← Tag.checkPresence
  update number fun endpoint => { endpoint with present }
  return present

end NfcStack.Endpoint
