import NfcStack.CardEmulation.Apdu
import NfcStack.Mask
import NfcStack.Nfcee
import NfcStack.Rendezvous
/-!
# Card emulation state

What the host remembers of card emulation: secure mode, the technologies it routed off the host, and
the environments that announced themselves. The routing table itself lives in the controller.
-/

namespace NfcStack

structure Router where
  secure : Bool := false
  /-- Technologies routed off the host when card emulation was brought up. -/
  offHostTech : TechMask := ∅
  announced : List NfceeAnnouncement := []
  apdu : ApduBuffer := {}
  register : Rendezvous Status := {}
  routing : Rendezvous Status := {}
  aid : Rendezvous Status := {}
  commit : Rendezvous Unit := {}
  mode : Rendezvous Status := {}
  remaining : Rendezvous UInt16 := {}
  deriving DecidableEq, Repr, Inhabited

def Router.abort (router : Router) : Router :=
  { router with
    register := router.register.abort
    routing := router.routing.abort
    aid := router.aid.abort
    commit := router.commit.abort
    mode := router.mode.abort
    remaining := router.remaining.abort }

end NfcStack
