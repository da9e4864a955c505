import NfcStack.Activation.Basic
import NfcStack.Ndef
/-!
# Slots

One technology that a tag exposed during one activation, with the raw bytes kept for it, and the
details that can be read off those bytes.
-/

namespace NfcStack

structure Slot where
  technology : Technology
  /-- The number under which the controller knows the target. -/
  handle : UInt8
  protocol : UInt8
  poll : Bytes
  act : Bytes
  deriving DecidableEq, Repr, Inhabited

inductive Extras where
  | nfcA (sak : Option UInt8) (atqa : Bytes)
  | nfcB (appData protocolInfo : Bytes)
  | isoDepA (historical : Bytes)
  | isoDepB (higherLayer : Bytes)
  | nfcV (responseFlags dsfid : UInt8)
  | mifareUltralight (isC : Bool)
  | ndef (message : Bytes) (forumType : Int) (capacity : UInt32) (mode : NdefMode)
  | none
  deriving DecidableEq, Repr, Inhabited

namespace Slot

/-- The slots one activation produces, in listing order. -/
def ofActivation (act : Activation) : List Slot :=
  act.technologies.map fun technology =>
    { technology
      handle := act.target
      protocol := act.protocol
      poll := act.pollBytes
      act := act.actBytes technology }

/-- A further slot of the same target that has no raw bytes of its own. -/
def derived (slot : Slot) (technology : Technology) : Slot :=
  { technology, handle := slot.handle, protocol := slot.protocol, poll := [], act := [] }

/-- Reads the details that the raw bytes alone give. Whether an ISO-DEP slot belongs to NFC-A or NFC-B is
decided by the slots listed beside it. An Ultralight has to be asked and a message slot has its
details from the start, so neither gets any here. -/
def readExtras (slot : Slot) (besideNfcA : Bool) : Except Failure Extras :=
  match slot.technology with
  | .iso14443A | .mifareClassic => .ok (.nfcA slot.act.head? slot.poll)
  | .iso14443B =>
    if slot.poll.length < 7 then .ok .none
    else do
      let appData ← Bytes.sliceAt slot.poll 0 4
      let protocolInfo ← Bytes.sliceAt slot.poll 4 3
      return .nfcB appData protocolInfo
  | .iso14443Part4 => .ok (if besideNfcA then .isoDepA slot.act else .isoDepB slot.act)
  | .iso15693 =>
    match slot.poll with
    | flags :: dsfid :: _ => .ok (.nfcV flags dsfid)
    | _ => .ok .none
  | _ => .ok .none

/-- The details of a slot, as far as its raw bytes give them. -/
def extras (slot : Slot) (besideNfcA : Bool) : Extras :=
  match slot.readExtras besideNfcA with
  | .ok extras => extras
  | .error _ => .none

def anyNfcA (slots : List Slot) : Bool :=
  slots.any (fun slot => slot.technology = .iso14443A)

end Slot

/-- Reads the answer to the read of page two of an Ultralight. A blank Ultralight C has zero lock
bytes and its one-time area starts with `02 00`; a formatted one announces more room than a plain
Ultralight has. -/
def isUltralightC (response : Bytes) : Bool :=
  match response with
  | [_, _, lock0, lock1, otp0, otp1, otp2, otp3, next0, next1, _, _, _, _, _, _] =>
    (lock0 == 0 && lock1 == 0 && otp0 == 0 && otp1 == 0 && otp2 == 0 && otp3 == 0
      && next0 == 0x02 && next1 == 0x00)
      || (otp0 == 0xe1 && otp1 < 0x20 && otp2 > 0x06)
  | _ => false

end NfcStack
