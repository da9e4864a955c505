import NfcStack.Technology
import NfcStack.Hex
/-!
# Capabilities

What the host can do for its user whatever the controller says.
-/

namespace NfcStack.Capability

def canLock (forumType : Int) : Bool := forumType = 1 || forumType = 2

/-- The host emulates no Type 3 tag, so no identifier is taken. -/
def registersType3 (_ : Bytes) : Bool := false

/-- How many Type 3 identifiers can be registered. -/
def type3TableSize : Nat := 0

/-- The number of the last error; none is kept. -/
def lastError : Nat := 0

end NfcStack.Capability
