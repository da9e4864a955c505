import NfcStack.Activation.Basic
/-!
# Product signatures

Products that the parameters of an activation give away. They decide which tags may be formatted.
-/

namespace NfcStack

structure Signatures where
  felicaLite : Bool := false
  mifareUltralight : Bool := false
  infineonMyDMove : Bool := false
  kovioType2 : Bool := false
  mifareDesfire : Bool := false
  deriving DecidableEq, Repr, Inhabited

namespace Signatures

def felicaLiteCode : UInt16 := 0x88b4

def hasFelicaLite (act : Activation) : Bool :=
  if act.protocol = Protocol.t3t then
    match act.protocolParams with
    | .t3t codes => codes.contains felicaLiteCode
    | _ => false
  else false

/-- A Type 2 tag of the known formattable makes is only looked for in passive NFC-A polling, a DESFire
in three of the four NFC-A modes. -/
def ofActivation (act : Activation) : Signatures :=
  match act.tech with
  | .a sensRes nfcid1 selRsp =>
    let polled := act.mode == RadioMode.pollA
    let answered := polled || act.mode == RadioMode.listenA || act.mode == RadioMode.listenAActive
    { felicaLite := hasFelicaLite act
      mifareUltralight :=
        polled && sensRes == (0x44, 0x00) && (selRsp == 0x00 || selRsp == 0x04)
          && nfcid1.head? == some 0x04
      infineonMyDMove :=
        polled && nfcid1.head? == some 0x05
          && (match nfcid1[1]? with
            | some byte => byte &&& 0xf0 == 0x30
            | none => false)
      kovioType2 := polled && nfcid1.head? == some 0x37
      mifareDesfire := answered && sensRes == (0x44, 0x03) && selRsp == 0x20 }
  | _ => { felicaLite := hasFelicaLite act }

/-- The Type 2 makes that may be formatted. -/
def type2Formattable (signatures : Signatures) : Bool :=
  signatures.mifareUltralight || signatures.infineonMyDMove || signatures.kovioType2

end Signatures

end NfcStack
