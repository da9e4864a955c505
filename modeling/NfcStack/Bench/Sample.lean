import NfcStack.Activation.Basic
/-!
# Sample targets

Activations of well-known products, for runs on the bench.
-/

namespace NfcStack.Sample

def nfcA (sensRes : UInt8 × UInt8) (nfcid1 : Bytes) (selRsp : UInt8) : TechParams :=
  .a sensRes nfcid1 selRsp

/-- A target polled in NFC-A over the frame interface, without further parameters. -/
def frameTarget (target protocol : UInt8) (tech : TechParams) : Activation :=
  { target
    protocol
    mode := RadioMode.pollA
    interface := RadioInterface.frame
    tech
    interfaceParams := .none
    protocolParams := .none }

/-- A target that nothing is known of. -/
def bare (target : UInt8) : Activation := frameTarget target Protocol.unknown .none

def isoDepCard (target : UInt8) : Activation :=
  { frameTarget target Protocol.isoDep
      (nfcA (0x04, 0x00) [0x04, 0x5a, 0x31, 0x22, 0x7c, 0x10, 0x80] 0x20) with
    interface := RadioInterface.isoDep
    interfaceParams := .isoDepA [0x80, 0x31, 0x80, 0x65] }

def topaz (target : UInt8) : Activation :=
  { frameTarget target Protocol.t1t (nfcA (0x0c, 0x00) [0x18, 0x2a, 0x3b, 0x4c] 0x00) with
    protocolParams := .t1t (0x11, 0x48) }

def ultralight (target : UInt8) : Activation :=
  frameTarget target Protocol.t2t
    (nfcA (0x44, 0x00) [0x04, 0x11, 0x22, 0x33, 0x44, 0x55, 0x66] 0x00)

/-- A Type 2 tag of a make that no signature knows. -/
def plainType2 (target : UInt8) : Activation :=
  frameTarget target Protocol.t2t
    (nfcA (0x44, 0x00) [0x02, 0x11, 0x22, 0x33, 0x44, 0x55, 0x66] 0x00)

def felicaId : Bytes := [0x01, 0x2e, 0x4c, 0x7a, 0x1b, 0x09, 0x33, 0x21]

/-- A FeliCa that answers with one system code. -/
def felica (target : UInt8) (systemCode : UInt16) : Activation :=
  { frameTarget target Protocol.t3t
      (.f (felicaId ++ [0x03, 0x01, 0x4b, 0x02, 0x4f, 0x49, 0x93, 0xff]) felicaId) with
    mode := RadioMode.pollF
    protocolParams := .t3t [systemCode] }

def desfire (target : UInt8) : Activation :=
  { frameTarget target Protocol.isoDep
      (nfcA (0x44, 0x03) [0x04, 0x52, 0x61, 0x0a, 0x2b, 0x3c, 0x80] 0x20) with
    interface := RadioInterface.isoDep
    interfaceParams := .isoDepA [0x80] }

def mifareClassic (target : UInt8) : Activation :=
  { frameTarget target Protocol.mifare (nfcA (0x04, 0x00) [0xde, 0xad, 0xbe, 0xef] 0x08) with
    interface := RadioInterface.mifare }

def peer (target : UInt8) : Activation :=
  { frameTarget target Protocol.nfcDep (nfcA (0x00, 0x01) [0x08, 0x01, 0x02, 0x03] 0x40) with
    interface := RadioInterface.nfcDep }

end NfcStack.Sample
