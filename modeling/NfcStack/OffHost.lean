import NfcStack.Config
import NfcStack.Status
import NfcStack.Transaction
/-!
# Transactions off the host

A secure element reports a transaction on its pipe. The pipe and the environments that are active at
that moment name the element.
-/

namespace NfcStack

/-- A transaction with the name of the secure element that made it. -/
structure OffHostTransaction where
  aid : Bytes
  data : Bytes
  element : String
  deriving DecidableEq, Repr

namespace OffHostTransaction

/-- The name under which the host registers with the host controller interface. -/
def applicationName : String := "ncibal"

def eventCode : UInt8 := 0x12

/-- The element behind the embedded element's pipe. -/
def eseName (infos : List NfceeInfo) : String :=
  if NfceeInfo.connectedId infos 0x82 = 0x84 then "DHSE1" else "eSE1"

/-- The element behind the SIM pipe. -/
def simName (infos : List NfceeInfo) : String :=
  if NfceeInfo.connectedId infos 0x81 = 0x81 then "SIM1" else "SIM2"

inductive Family where
  | ese
  | sim
  deriving DecidableEq, Repr

def family? (pipes : PipeConfig) (pipe : UInt8) : Option Family :=
  if pipe = pipes.ese then some .ese else if pipe = pipes.sim then some .sim else none

def Family.name : Family → List NfceeInfo → String
  | .ese => eseName
  | .sim => simName

/-- Reads a payload that arrived on a pipe. An unknown pipe is found out before the payload is looked
at, and a failed query of the environments counts as none being active. -/
def decode (pipes : PipeConfig) (infos : Except Status (List NfceeInfo)) (pipe : UInt8)
    (payload : Bytes) : Except Failure OffHostTransaction :=
  match family? pipes pipe with
  | none => .error (.unknownPipe pipe)
  | some family =>
    let known := match infos with
      | .ok known => known
      | .error _ => []
    match Transaction.decode payload with
    | .error fault => .error fault.failure
    | .ok transaction => .ok ⟨transaction.aid, transaction.data, family.name known⟩

end OffHostTransaction

end NfcStack
