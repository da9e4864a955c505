import NfcStack.Hex
/-!
# Failures

What a caller did wrong or what was malformed. A refusal, a timeout or a failed completion of the
controller is no failure: operations report those in their results.
-/

namespace NfcStack

inductive Failure where
  /-- A host needs a controller to talk to. -/
  | noController
  | tooShort (expected actual : Nat)
  | aidTooLong (limit actual : Nat)
  /-- A length field that does not describe what follows it. -/
  | lengthField (detail : String)
  | transaction (detail : String)
  | unknownPipe (pipe : UInt8)
  | config (detail : String)
  deriving DecidableEq, Repr

def Failure.message : Failure → String
  | .noController => "no hardware interface configured"
  | .tooShort expected actual =>
    "invalid length: expected " ++ toString expected ++ ", got " ++ toString actual
  | .aidTooLong limit actual =>
    "aid too long: max " ++ toString limit ++ " bytes, got " ++ toString actual
  | .lengthField detail => "ber-tlv error: " ++ detail
  | .transaction detail => "transaction event malformed: " ++ detail
  | .unknownPipe pipe => "unknown hci pipe " ++ Hex.byteLiteral pipe
  | .config detail => "invalid configuration: " ++ detail

end NfcStack
