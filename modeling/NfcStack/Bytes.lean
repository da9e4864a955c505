import NfcStack.Failure
/-!
# Bounded reads

Reads from a buffer at a position. Each read either lies inside the buffer or fails with the length
it would have needed.
-/

namespace NfcStack.Bytes

def require (data : Bytes) (count : Nat) : Except Failure Unit :=
  if data.length < count then .error (.tooShort count data.length) else .ok ()

def byteAt (data : Bytes) (index : Nat) : Except Failure UInt8 :=
  match data[index]? with
  | some byte => .ok byte
  | none => .error (.tooShort (index + 1) data.length)

def sliceAt (data : Bytes) (index count : Nat) : Except Failure Bytes :=
  match require data (index + count) with
  | .error failure => .error failure
  | .ok () => .ok ((data.drop index).take count)

/-- The number that bytes spell with the most significant first; beyond eight bytes the oldest are
shifted out. -/
def bigEndian (bytes : Bytes) : UInt64 :=
  bytes.foldl (fun value byte => (value <<< 8) ||| byte.toUInt64) 0

def bigEndianAt (data : Bytes) (index width : Nat) : Except Failure UInt64 :=
  match sliceAt data index width with
  | .error failure => .error failure
  | .ok bytes => .ok (bigEndian bytes)

end NfcStack.Bytes
