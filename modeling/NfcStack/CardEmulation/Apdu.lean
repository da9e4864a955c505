import NfcStack.Status
/-!
# Card emulation data

A reader's command arrives in fragments. A fragment with status `continuing` is kept, one with `ok`
closes the command, and any other status drops what was kept.
-/

namespace NfcStack

structure ApduBuffer where
  bytes : Bytes := []
  deriving DecidableEq, Repr, Inhabited

namespace ApduBuffer

/-- Takes a fragment and hands out the command it closes, if it closes one. -/
def push (buffer : ApduBuffer) (status : Status) (data : Bytes) : Option Bytes × ApduBuffer :=
  match status with
  | .ok => (some (buffer.bytes ++ data), {})
  | .continuing => (none, ⟨buffer.bytes ++ data⟩)
  | _ => (none, {})

def reset (_ : ApduBuffer) : ApduBuffer := {}

end ApduBuffer

end NfcStack
