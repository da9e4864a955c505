import NfcStack.Hex
/-!
# Status codes

The verdict of the controller on a request, and the result a completion reports.
-/

namespace NfcStack

inductive Status where
  | ok
  | rejected
  | failed
  | busy
  | timeout
  /-- More data follows in a later event. -/
  | continuing
  | other (code : UInt8)
  deriving DecidableEq, Repr, Inhabited

namespace Status

def isOk (status : Status) : Bool :=
  status = .ok

def text : Status → String
  | .ok => "ok"
  | .rejected => "rejected"
  | .failed => "failed"
  | .busy => "busy"
  | .timeout => "timeout"
  | .continuing => "continue"
  | .other code => "status " ++ Hex.byteLiteral code

end Status

end NfcStack
