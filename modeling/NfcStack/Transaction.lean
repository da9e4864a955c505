import NfcStack.LengthPrefixed
/-!
# Transaction payloads

What a secure element reports of a transaction: the tag `0x81`, a length byte and the application
identifier, then optionally the tag `0x82` and length-prefixed data.
-/

namespace NfcStack

structure Transaction where
  aid : Bytes
  data : Bytes
  deriving DecidableEq, Repr

namespace Transaction

def aidTag : UInt8 := 0x81

def dataTag : UInt8 := 0x82

/-- A payload must be longer than tag, length and one byte. -/
def minimumLength : Nat := 3

inductive Fault where
  | tooShort (length : Nat)
  | wrongTag (tag : UInt8)
  deriving DecidableEq, Repr

def Fault.detail : Fault → String
  | .tooShort length => "payload too short (" ++ toString length ++ " bytes)"
  | .wrongTag tag =>
    "expected aid tag " ++ Hex.byteLiteral aidTag ++ ", got " ++ Hex.byteLiteral tag

def Fault.failure (fault : Fault) : Failure :=
  .transaction fault.detail

/-- The data part behind the identifier. Anything but a complete, well-formed part counts as no
data. -/
def dataPart : Bytes → Bytes
  | tag :: rest => if tag == dataTag && !rest.isEmpty then LengthPrefixed.decodeOrEmpty rest else []
  | [] => []

/-- Reads a payload. Only a missing identifier is a fault: one that runs past the end keeps the bytes
that are there. -/
def decode (buffer : Bytes) : Except Fault Transaction :=
  if buffer.length ≤ minimumLength then .error (.tooShort buffer.length)
  else match buffer with
    | tag :: length :: body =>
      if tag == aidTag then
        .ok ⟨body.take length.toNat, dataPart (body.drop length.toNat)⟩
      else .error (.wrongTag tag)
    | _ => .error (.tooShort buffer.length)

end Transaction

end NfcStack
