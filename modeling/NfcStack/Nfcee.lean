import NfcStack.Hex
/-!
# Execution environments

Secure elements behind the controller are execution environments with a handle. The handle's low byte
is the environment's id; even and odd handles are two families, the embedded element and the SIM
slots.
-/

namespace NfcStack

structure NfceeHandle where
  code : UInt16
  deriving DecidableEq, Repr, Inhabited

namespace NfceeHandle

def host : NfceeHandle := ⟨0x400⟩

def ofId (id : UInt8) : NfceeHandle := ⟨0x400 ||| id.toUInt16⟩

def id (handle : NfceeHandle) : UInt8 := handle.code.toUInt8

def isOdd (handle : NfceeHandle) : Bool := handle.code &&& 1 != 0

def text (handle : NfceeHandle) : String := Hex.wordLiteral handle.code

end NfceeHandle

structure NfceeInfo where
  handle : NfceeHandle
  status : UInt8
  interfaces : Bytes
  deriving DecidableEq, Repr, Inhabited

/-- What an execution environment announces of itself: its protocols on NFC-A and NFC-B. -/
structure NfceeAnnouncement where
  handle : NfceeHandle
  protocolA : UInt8
  protocolB : UInt8
  deriving DecidableEq, Repr, Inhabited

def hostRoute : UInt8 := 0x00

def routeHandle (route : UInt8) : NfceeHandle :=
  if route = hostRoute then .host else .ofId route

namespace NfceeInfo

def activeStatus : UInt8 := 0x00

def inactiveStatus : UInt8 := 0x01

/-- The interface of an environment that is reached through the host controller interface. -/
def hostControllerAccess : UInt8 := 0x01

def isActive (info : NfceeInfo) : Bool := info.status == activeStatus

/-- Whether the family of a selector has odd handles; `none` for a selector of no family. -/
def family? (selector : UInt8) : Option Bool :=
  if selector = 0x81 ∨ selector = 0x83 ∨ selector = 0x85 then some true
  else if selector = 0x82 ∨ selector = 0x84 ∨ selector = 0x86 then some false
  else none

/-- The id of the first active environment in the selector's family, the host if there is none. -/
def connectedId (infos : List NfceeInfo) (selector : UInt8) : UInt8 :=
  match family? selector with
  | none => hostRoute
  | some odd => match infos.find? (fun info => info.isActive && info.handle.isOdd == odd) with
    | some info => info.handle.id
    | none => hostRoute

end NfceeInfo

end NfcStack
