import NfcStack.Controller.Event
import NfcStack.Controller.Request
/-!
# Controllers

A controller is whatever answers requests: it gives a verdict at once, and for an accepted request it
brings about happenings, in order. Its own state is of any type, so statements about every controller
cover every behaviour.
-/

namespace NfcStack

/-- The answer to a request. Of a refused request nothing follows. -/
structure Response where
  verdict : Status
  happenings : List Happening
  deriving DecidableEq, Repr

structure Controller (σ : Type) where
  respond : Request → σ → Response × σ
  version : σ → UInt8
  nfcees : σ → Except Status (List NfceeInfo)
  tableSize : σ → UInt16

namespace Controller

def version1 : UInt8 := 0x10

def version2 : UInt8 := 0x20

end Controller

end NfcStack
