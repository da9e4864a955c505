import NfcStack.Failure
/-!
# Application identifiers

An application identifier has at most sixteen bytes; the empty one stands for the default route.
-/

namespace NfcStack

def Aid.maximumLength : Nat := 16

structure Aid where
  bytes : Bytes
  length_le : bytes.length ≤ Aid.maximumLength
  deriving DecidableEq, Repr

namespace Aid

def empty : Aid := ⟨[], by decide⟩

instance : Inhabited Aid := ⟨empty⟩

def isEmpty (aid : Aid) : Bool := aid.bytes.isEmpty

def hex (aid : Aid) : String := Hex.encode aid.bytes

def ofBytes (bytes : Bytes) : Except Failure Aid :=
  if h : bytes.length ≤ maximumLength then .ok ⟨bytes, h⟩
  else .error (.aidTooLong maximumLength bytes.length)

end Aid

/-- How an identifier of the routing table is matched, as the controller encodes it. -/
structure AidInfo where
  code : UInt8
  deriving DecidableEq, Repr, Inhabited

namespace AidInfo

def exact : AidInfo := ⟨0x00⟩

def leading : AidInfo := ⟨0x10⟩

def text (info : AidInfo) : String := Hex.byteLiteral info.code

end AidInfo

/-- Which kinds of matching the controller's routing table offers. -/
inductive AidMatching where
  | exactOnly
  | exactOrLeading
  | leadingOnly
  | exactOrSubsetOrLeading
  deriving DecidableEq, Repr, Inhabited

end NfcStack
