import NfcStack.Hex
/-!
# Masks

Sets of radio technologies, protocols and detection flags as bits of a byte, and the routing of a set
in each power state of the device. Bits without a name are kept.
-/

namespace NfcStack

structure TechMask where
  bits : UInt8
  deriving DecidableEq, Repr, Inhabited

namespace TechMask

def a : TechMask := ⟨0x01⟩

def b : TechMask := ⟨0x02⟩

def f : TechMask := ⟨0x04⟩

def v : TechMask := ⟨0x08⟩

instance : EmptyCollection TechMask := ⟨⟨0⟩⟩

def union (left right : TechMask) : TechMask := ⟨left.bits ||| right.bits⟩

def inter (left right : TechMask) : TechMask := ⟨left.bits &&& right.bits⟩

instance : Union TechMask := ⟨union⟩

instance : Inter TechMask := ⟨inter⟩

def isEmpty (mask : TechMask) : Bool := mask.bits == 0

def contains (mask part : TechMask) : Bool := mask.bits &&& part.bits == part.bits

/-- The technologies polled when nobody asks for fewer. -/
def pollable : TechMask := a ∪ b ∪ f ∪ v

/-- The named technologies, in the order texts list them. -/
def names : List (String × TechMask) :=
  [("A", a), ("B", b), ("F", f), ("V", v)]

/-- The bits that have no name, as digits without leading zeros. -/
def restText (bits : UInt8) : String :=
  String.ofList (Nat.toDigits 16 bits.toNat)

/-- The names in a mask with bars between them; bits without a name close the text as one number. -/
def text (mask : TechMask) : String :=
  let known := (names.filter (fun entry => mask.contains entry.2)).map (·.1)
  let rest := mask.bits &&& ~~~pollable.bits
  let parts := if rest == 0 then known else known ++ ["0x" ++ restText rest]
  String.intercalate " | " parts

/-- A nonempty run of hexadecimal digits, perhaps behind a plus sign, whose value fits a byte. -/
def number? (digits : Bytes) : Option UInt8 :=
  let body := match digits with
    | 0x2b :: rest => rest
    | _ => digits
  if body.isEmpty then none
  else
    let value? := body.foldl (fun value? byte =>
      match value?, Hex.digitValue? byte with
      | some value, some digit => some (value * 16 + digit.toNat)
      | _, _ => none) (some 0)
    match value? with
    | some value => if value < 256 then some (UInt8.ofNat value) else none
    | none => none

/-- One part of a mask text: a name, or a number behind its base mark. -/
def part? (text : String) : Option TechMask :=
  match text.toList with
  | '0' :: 'x' :: digits => (number? (Hex.textBytes (String.ofList digits))).map (⟨·⟩)
  | _ => names.lookup text

def isSpace (char : Char) : Bool :=
  let code := char.toNat
  (0x09 ≤ code && code ≤ 0x0d) || code == 0x20 || code == 0x85 || code == 0xa0 || code == 0x1680
    || (0x2000 ≤ code && code ≤ 0x200a) || code == 0x2028 || code == 0x2029 || code == 0x202f
    || code == 0x205f || code == 0x3000

def trimmed (text : String) : String :=
  String.ofList (((text.toList.dropWhile isSpace).reverse.dropWhile isSpace).reverse)

/-- Reads a mask text. Blank text is the empty mask; the order of names and repeats are free. -/
def ofText? (text : String) : Option TechMask :=
  if (trimmed text).isEmpty then some ∅
  else (text.splitOn "|").foldl (fun mask? part =>
    match mask?, part? (trimmed part) with
    | some mask, some named => some (mask ∪ named)
    | _, _ => none) (some ∅)

end TechMask

structure ProtocolMask where
  bits : UInt8
  deriving DecidableEq, Repr, Inhabited

namespace ProtocolMask

def isoDep : ProtocolMask := ⟨0x08⟩

instance : EmptyCollection ProtocolMask := ⟨⟨0⟩⟩

end ProtocolMask

/-- What the controller found out about a tag while it looked for a message. -/
structure NdefFlags where
  bits : UInt8
  deriving DecidableEq, Repr, Inhabited

namespace NdefFlags

def readOnly (flags : NdefFlags) : Bool := flags.bits &&& 0x01 == 0x01

def supported (flags : NdefFlags) : Bool := flags.bits &&& 0x04 == 0x04

def unknown (flags : NdefFlags) : Bool := flags.bits &&& 0x08 == 0x08

end NdefFlags

/-- What is routed in each power state of the device. -/
structure PowerRouting (Mask : Type) where
  switchOn : Mask
  switchOff : Mask
  batteryOff : Mask
  screenLock : Mask
  screenOff : Mask
  screenOffLock : Mask
  deriving DecidableEq, Repr

namespace PowerRouting

variable {Mask : Type} [EmptyCollection Mask]

/-- Routing to a secure element: every state but battery-off. Secure mode leaves switch-on only. -/
def offHost (mask : Mask) (secure : Bool) : PowerRouting Mask :=
  let unlessSecure := if secure then ∅ else mask
  { switchOn := mask
    switchOff := unlessSecure
    batteryOff := ∅
    screenLock := unlessSecure
    screenOff := unlessSecure
    screenOffLock := unlessSecure }

/-- Routing to the host: switch-on, and screen-lock unless secure mode is on. -/
def host (mask : Mask) (secure : Bool) : PowerRouting Mask :=
  { switchOn := mask
    switchOff := ∅
    batteryOff := ∅
    screenLock := if secure then ∅ else mask
    screenOff := ∅
    screenOffLock := ∅ }

end PowerRouting

end NfcStack
