import NfcStack.Activation.Code
import NfcStack.Mask
import NfcStack.Status
/-!
# Message detection

What a search for an NDEF message on a tag can find.
-/

namespace NfcStack

inductive NdefMode where
  | readOnly
  | readWrite
  | unknown
  deriving DecidableEq, Repr, Inhabited

structure NdefInfo where
  capacity : UInt32
  mode : NdefMode
  deriving DecidableEq, Repr, Inhabited

inductive NdefCheck where
  | found (info : NdefInfo) (size : UInt32)
  /-- No message, but the tag takes one once it is formatted. -/
  | formatable
  | unformatable
  | timedOut
  deriving DecidableEq, Repr, Inhabited

/-- What the controller reports at the end of a detection. -/
structure NdefDetection where
  status : Status
  protocol : UInt8
  capacity : UInt32
  size : UInt32
  flags : NdefFlags
  deriving DecidableEq, Repr, Inhabited

namespace NdefCheck

/-- Reads a detection report. A Topaz tag's capacity follows from its header and replaces the
reported one. -/
def ofDetection (report : NdefDetection) (topazCapacity : UInt32) : NdefCheck :=
  match report.status with
  | .ok =>
    .found
      { capacity := if report.protocol = Protocol.t1t then topazCapacity else report.capacity
        mode := if report.flags.readOnly then .readOnly else .readWrite }
      report.size
  | .timeout => .timedOut
  | _ => if report.flags.supported && !report.flags.unknown then .formatable else .unformatable

def info? : NdefCheck → Option NdefInfo
  | .found info _ => some info
  | _ => none

def hasMessage : NdefCheck → Bool
  | .found _ size => 0 < size
  | _ => false

end NdefCheck

/-- The tag type under which users know a protocol. -/
def forumType (protocol : UInt8) : Int :=
  if protocol = Protocol.t1t then 1
  else if protocol = Protocol.t2t then 2
  else if protocol = Protocol.t3t then 3
  else if protocol = Protocol.isoDep then 4
  else if protocol = Protocol.mifare then 101
  else -1

end NfcStack
