import NfcStack.Call.Endpoint
import NfcStack.Call.Host
import NfcStack.Call.Session
/-!
# Calls

Any call a user of the stack can make: on the host, on the tag session, or on an endpoint.
-/

namespace NfcStack

inductive Call where
  | host (call : HostCall)
  | session (call : SessionCall)
  /-- A call on the endpoint of a number, or on the newest one. -/
  | endpoint (number : Option Nat) (call : EndpointCall)
  deriving DecidableEq, Repr

namespace Call

variable {σ : Type}

def endpointNumber? (host : Host) (number : Option Nat) : Option Nat :=
  let number := number.getD (host.endpoints.length - 1)
  if (host.endpoint? number).any Endpoint.owned then some number else none

def run : Call → Op σ Answer
  | .host call => call.run
  | .session call => call.run
  | .endpoint number call => do
    match ← Op.read fun host => endpointNumber? host number with
    | some number => call.run number
    | none => return .noEndpoint

end Call

end NfcStack
