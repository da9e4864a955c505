import NfcStack.Config
import NfcStack.Tag.Endpoint.Basic
/-!
# Answers

What a call gives back to its caller.
-/

namespace NfcStack

inductive Answer where
  | done
  | verdict (yes : Bool)
  | number (value : Nat)
  | status (status : Status)
  | exchanged (status : Status) (response : Bytes)
  | message (bytes : Option Bytes)
  | check (check : Option NdefCheck)
  | info (info : Option NdefInfo)
  | extras (extras : Option Extras)
  | kinds (kinds : List TagKind)
  | timeouts (table : TimeoutTable)
  | discovered (found : Option (Nat × Endpoint))
  | endpoint (endpoint : Endpoint)
  /-- The longest ISO-DEP exchange, and whether it needs extended lengths. -/
  | isoDepLimit (limit : UInt64) (extended : Bool)
  /-- Whether a Type 3 identifier was taken, how many can be, and the last error. -/
  | type3 (taken : Bool) (size error : Nat)
  | routes (routing : RoutingConfig)
  /-- Whether the stack is active, and whether a tag is in the field of an active stack. -/
  | readiness (active ready : Bool)
  | failed (failure : Failure)
  | noHost
  | noEndpoint
  deriving DecidableEq, Repr, Inhabited

end NfcStack
