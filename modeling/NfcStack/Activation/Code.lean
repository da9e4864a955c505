/-!
# Radio codes

The numbers under which the controller names protocols, radio modes and radio interfaces.
-/

namespace NfcStack

namespace Protocol

def unknown : UInt8 := 0x00

def t1t : UInt8 := 0x01

def t2t : UInt8 := 0x02

def t3t : UInt8 := 0x03

def isoDep : UInt8 := 0x04

def nfcDep : UInt8 := 0x05

def t5t : UInt8 := 0x06

def mifare : UInt8 := 0x80

/-- A reader can select every target but a peer device. -/
def isSelectable (protocol : UInt8) : Bool := protocol != nfcDep

end Protocol

namespace RadioInterface

/-- The interface of a secure element that talks to the field by itself. -/
def direct : UInt8 := 0x00

def frame : UInt8 := 0x01

def isoDep : UInt8 := 0x02

def nfcDep : UInt8 := 0x03

def mifare : UInt8 := 0x80

/-- The interface over which a target of a protocol is selected. -/
def forProtocol (protocol : UInt8) : UInt8 :=
  if protocol = Protocol.isoDep then isoDep
  else if protocol = Protocol.mifare then mifare
  else frame

end RadioInterface

namespace RadioMode

def pollA : UInt8 := 0x00

def pollB : UInt8 := 0x01

def pollF : UInt8 := 0x02

def listenA : UInt8 := 0x80

def listenAActive : UInt8 := 0x83

/-- NFC-A polling and listening, passive and active. -/
def isA (mode : UInt8) : Bool := mode = 0x00 || mode = 0x03 || mode = 0x80 || mode = 0x83

/-- NFC-B polling and listening, also in the older variant. -/
def isB (mode : UInt8) : Bool := mode = 0x01 || mode = 0x74 || mode = 0x81 || mode = 0xf4

def isF (mode : UInt8) : Bool := mode = 0x02 || mode = 0x05 || mode = 0x82 || mode = 0x85

def isV (mode : UInt8) : Bool := mode = 0x06 || mode = 0x86

/-- Modes in which the reader asks lie below the modes in which it answers. -/
def isPoll (mode : UInt8) : Bool := mode < listenA

end RadioMode

end NfcStack
