import NfcStack.Activation.Code
import NfcStack.Bytes
import NfcStack.Technology
/-!
# Activations

What the controller reports when a target is activated, and what follows from it: the technologies it
exposes, its identifier, and the raw bytes kept for each technology. The three groups of parameters
come from different layers and need not agree with the mode or the protocol.
-/

namespace NfcStack

/-- Parameters of the radio technology, captured during discovery. -/
inductive TechParams where
  | a (sensRes : UInt8 × UInt8) (nfcid1 : Bytes) (selRsp : UInt8)
  /-- The whole answer, identifier included, and the identifier. -/
  | b (sensbRes nfcid0 : Bytes)
  | f (sensfRes nfcid2 : Bytes)
  | v (uid : Bytes) (afi dsfid : UInt8)
  | none
  deriving DecidableEq, Repr, Inhabited

inductive InterfaceParams where
  | isoDepA (historical : Bytes)
  | isoDepB (higherLayer : Bytes)
  | none
  deriving DecidableEq, Repr, Inhabited

inductive ProtocolParams where
  | t1t (header : UInt8 × UInt8)
  | t3t (systemCodes : List UInt16)
  | t5t (uid : Bytes) (afi dsfid : UInt8)
  | none
  deriving DecidableEq, Repr, Inhabited

structure Activation where
  target : UInt8
  protocol : UInt8
  mode : UInt8
  interface : UInt8
  tech : TechParams
  interfaceParams : InterfaceParams
  protocolParams : ProtocolParams
  deriving DecidableEq, Repr, Inhabited

namespace Activation

/-- The technologies a target exposes, in listing order. An ISO-DEP target lists its radio technology
before the transport on top of it. -/
def technologies (act : Activation) : List Technology :=
  if act.protocol = Protocol.t1t then [.iso14443A]
  else if act.protocol = Protocol.t2t then
    match act.tech with
    | .a _ nfcid1 selRsp =>
      if nfcid1.head? = some 0x04 && selRsp == 0 then [.mifareUltralight] else [.iso14443A]
    | _ => [.iso14443A]
  else if act.protocol = Protocol.t3t then [.felica]
  else if act.protocol = Protocol.isoDep then
    if RadioMode.isA act.mode then [.iso14443A, .iso14443Part4]
    else if RadioMode.isB act.mode then [.iso14443B, .iso14443Part4]
    else [.iso14443Part4]
  else if act.protocol = Protocol.t5t then [.iso15693]
  else if act.protocol = Protocol.mifare then [.mifareClassic]
  else [.unknown]

/-- Identifier, application family and storage format of an ISO 15693 target. The protocol's
parameters win over those of the radio technology. -/
def vicinity? (act : Activation) : Option (Bytes × UInt8 × UInt8) :=
  match act.protocolParams, act.tech with
  | .t5t uid afi dsfid, _ => some (uid, afi, dsfid)
  | _, .v uid afi dsfid => some (uid, afi, dsfid)
  | _, _ => none

/-- Application family and storage format as two bytes. -/
def vicinityBytes (act : Activation) : Bytes :=
  match act.vicinity? with
  | some (_, afi, dsfid) => [afi, dsfid]
  | none => []

/-- The target's identifier, read as its mode prescribes; that of ISO 15693 comes last byte first. -/
def uid (act : Activation) : Bytes :=
  let otherwise :=
    if RadioMode.isV act.mode then
      match act.vicinity? with
      | some (uid, _, _) => uid.reverse
      | none => []
    else []
  match act.tech with
  | .a _ nfcid1 _ => if RadioMode.isA act.mode then nfcid1 else otherwise
  | .b _ nfcid0 => if RadioMode.isB act.mode then nfcid0 else otherwise
  | .f _ nfcid2 => if RadioMode.isF act.mode then nfcid2 else otherwise
  | _ => otherwise

/-- The timing parameters of an NFC-F answer, zeros if the answer is too short, and behind them the
first system code, zero if none is known. -/
def felicaPoll (sensfRes : Bytes) (params : ProtocolParams) : Bytes :=
  let timing := match Bytes.sliceAt sensfRes 8 8 with
    | .ok bytes => bytes
    | .error _ => List.replicate 8 0
  let code : UInt16 := match params with
    | .t3t (code :: _) => code
    | _ => 0
  timing ++ [(code >>> 8).toUInt8, code.toUInt8]

/-- Reads the raw answer of the target to polling: for NFC-A its first answer, for NFC-B the answer
without the identifier, which a shorter one does not go beyond, for NFC-F timing and system code, for
ISO 15693 family and format. -/
def readPoll (act : Activation) : Except Failure Bytes :=
  let otherwise := if RadioMode.isV act.mode then act.vicinityBytes else []
  match act.tech with
  | .a sensRes _ _ => .ok (if RadioMode.isA act.mode then [sensRes.1, sensRes.2] else otherwise)
  | .b sensbRes _ =>
    if RadioMode.isB act.mode then
      if 4 < sensbRes.length then Bytes.sliceAt sensbRes 4 (sensbRes.length - 4) else .ok []
    else .ok otherwise
  | .f sensfRes _ =>
    .ok (if RadioMode.isF act.mode then felicaPoll sensfRes act.protocolParams else otherwise)
  | _ => .ok otherwise

/-- The raw answer to polling that is kept with the slots of the target. -/
def pollBytes (act : Activation) : Bytes :=
  match act.readPoll with
  | .ok bytes => bytes
  | .error _ => []

def selectionBytes (act : Activation) : Bytes :=
  match act.tech with
  | .a _ _ selRsp => [selRsp]
  | _ => []

/-- The raw activation bytes kept for the slot of a technology. -/
def actBytes (act : Activation) (technology : Technology) : Bytes :=
  if act.protocol = Protocol.t1t ∨ act.protocol = Protocol.t2t ∨ act.protocol = Protocol.mifare then
    act.selectionBytes
  else if act.protocol = Protocol.isoDep then
    match technology with
    | .iso14443A => act.selectionBytes
    | .iso14443Part4 =>
      match act.interfaceParams with
      | .isoDepA historical => if RadioMode.isA act.mode then historical else []
      | .isoDepB higherLayer => if RadioMode.isB act.mode then higherLayer else []
      | .none => []
    | _ => []
  else if act.protocol = Protocol.t5t then act.vicinityBytes
  else []

/-- What a Topaz tag can hold, read off its header; zero for any other tag. -/
def topazCapacity (act : Activation) : UInt32 :=
  if act.protocol = Protocol.t1t then
    match act.protocolParams with
    | .t1t header => if header.1 = 0x11 then 90 else if header.1 = 0x12 then 462 else 0
    | _ => 0
  else 0

end Activation

end NfcStack
