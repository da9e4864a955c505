import NfcStack.Tag.Endpoint.Selection
import NfcStack.Tag.Message
/-!
# The message slot of an endpoint

The first time a message is asked for, the slots are searched for one. What is found is appended as a
slot of its own: a message slot, or a formattable slot if no slot holds a message. Further details of a
slot are worked out when they are asked for and kept.
-/

namespace NfcStack.Endpoint

variable {σ : Type}

/-- Keeps the first slot at which the tag can be formatted. -/
def firstFormattable (known : Option Slot) (slot : Slot) : Op σ (Option Slot) := do
  if known.isSome then return known
  else if ← Tag.isFormattable then return some slot
  else return none

/-- Searches slots in order for a message. Slots that cannot be selected are passed over, and a message
wins over any slot that could be formatted. -/
def search : List Slot → Option Slot → Op σ (Option (Slot × Extras))
  | [], formattable => return formattable.map fun slot => (slot.derived .ndefFormatable, .none)
  | slot :: rest, formattable => do
    if ← Tag.reconnect (target slot) false then
      match ← Tag.checkNdefInfo with
      | some info => do
        let message ← Tag.readNdef
        return some (slot.derived .ndef,
          .ndef (message.getD []) (forumType slot.protocol) info.capacity info.mode)
      | none => do
        let formattable ← firstFormattable formattable slot
        search rest formattable
    else search rest formattable

/-- Appends what the search finds. The search runs once. -/
def addNdef (number : Nat) : Op σ Unit := do
  match ← Op.read (·.endpoint? number) with
  | none => return ()
  | some endpoint =>
    if endpoint.ndefAdded then return ()
    else do
      update number fun endpoint => { endpoint with ndefAdded := true }
      Op.reserving (.endpoint number) do
        match ← search endpoint.slots none with
        | some (slot, extras) => update number fun endpoint => endpoint.append slot extras
        | none => return ()

def readNdef (number : Nat) : Op σ (Option Bytes) := do
  addNdef number
  Op.reserving (.endpoint number) Tag.readNdef

/-- Formats the tag. An empty key is refused. -/
def format (number : Nat) (key : Bytes) : Op σ Bool := do
  if key.isEmpty then return false else Op.reserving (.endpoint number) Tag.format

/-- The frame that reads page two of an Ultralight. -/
def readPageTwo : Bytes := [0x30, 0x02]

/-- Works out the details of a slot; an Ultralight is asked whether it is an Ultralight C. -/
def computeExtras (number : Nat) (slot : Slot) (besideNfcA : Bool) : Op σ Extras :=
  match slot.technology with
  | .mifareUltralight => Op.reserving (.endpoint number) do
    let (_, response) ← Tag.transceive readPageTwo []
    return .mifareUltralight (isUltralightC response)
  | _ => return slot.extras besideNfcA

def extrasAt (number position : Nat) : Op σ (Option Extras) := do
  match ← Op.read (·.endpoint? number) with
  | none => return none
  | some endpoint =>
    match endpoint.knownExtras? position with
    | some extras => return some extras
    | none =>
      match endpoint.slots[position]? with
      | none => return none
      | some slot => do
        let extras ← computeExtras number slot (Slot.anyNfcA endpoint.slots)
        update number fun endpoint => endpoint.keepExtras position extras
        return some extras

end NfcStack.Endpoint
