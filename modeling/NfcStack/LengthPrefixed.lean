import NfcStack.Bytes
/-!
# Length-prefixed values

A value behind its length. A length below `0x80` is one byte; `0x81` to `0x84` announce one to four
length bytes, most significant first. A buffer is accepted only if exactly the announced number of
bytes follows.
-/

namespace NfcStack.LengthPrefixed

def shortLimit : UInt8 := 0x80

inductive Fault where
  | empty
  | unsupported (lead : UInt8)
  | truncated (lead : UInt8)
  | mismatch (declared actual : Nat)
  deriving DecidableEq, Repr

def Fault.detail : Fault → String
  | .empty => "empty buffer"
  | .unsupported lead => "unsupported length tag " ++ Hex.byteLiteral lead
  | .truncated lead => "truncated length after " ++ Hex.byteLiteral lead
  | .mismatch declared actual =>
    "declared length " ++ toString declared ++ " but " ++ toString actual ++ " bytes follow"

def Fault.failure (fault : Fault) : Failure :=
  .lengthField fault.detail

/-- How many length bytes follow the first byte. -/
def extraBytes? (lead : UInt8) : Option Nat :=
  if lead < shortLimit then some 0
  else if 0x81 ≤ lead ∧ lead ≤ 0x84 then some (lead.toNat - 0x80)
  else none

/-- The length a header announces. -/
def declared? (lead : UInt8) (rest : Bytes) (extra : Nat) : Option Nat :=
  if extra = 0 then some lead.toNat
  else match Bytes.bigEndianAt rest 0 extra with
    | .ok length => some length.toNat
    | .error _ => none

def decode : Bytes → Except Fault Bytes
  | [] => .error .empty
  | lead :: rest => match extraBytes? lead with
    | none => .error (.unsupported lead)
    | some extra => match declared? lead rest extra with
      | none => .error (.truncated lead)
      | some length =>
        let value := rest.drop extra
        if length = value.length then .ok value else .error (.mismatch length value.length)

/-- The value of a buffer, or nothing if the buffer is malformed. -/
def decodeOrEmpty (buffer : Bytes) : Bytes :=
  match decode buffer with
  | .ok value => value
  | .error _ => []

def lengthBytes (length : Nat) : Bytes :=
  [UInt8.ofNat (length / 0x1000000), UInt8.ofNat (length / 0x10000), UInt8.ofNat (length / 0x100),
    UInt8.ofNat length]

def header (length : Nat) : Bytes :=
  if length < shortLimit.toNat then [UInt8.ofNat length]
  else
    let digits := (lengthBytes length).dropWhile (· == 0)
    (shortLimit + UInt8.ofNat digits.length) :: digits

def encode (value : Bytes) : Bytes :=
  header value.length ++ value

end NfcStack.LengthPrefixed
