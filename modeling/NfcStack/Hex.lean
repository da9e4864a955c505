/-!
# Hexadecimal text

Bytes as text: two lowercase digits per byte. Reading is laxer than writing: it skips ASCII blanks,
takes both letter cases, and lets a plus sign stand for the first digit of a pair.
-/

namespace NfcStack

abbrev Bytes := List UInt8

namespace Hex

def digit (value : Nat) : Char :=
  if value < 10 then Char.ofNat (48 + value) else Char.ofNat (87 + value)

/-- The two digits of a byte, high half first. -/
def pair (byte : UInt8) : List Char :=
  [digit (byte.toNat / 16), digit (byte.toNat % 16)]

def encodeChars (bytes : Bytes) : List Char :=
  bytes.flatMap pair

def encode (bytes : Bytes) : String :=
  String.ofList (encodeChars bytes)

/-- The digits between square brackets, as diagnostics show a buffer. -/
def bracketed (bytes : Bytes) : String :=
  "[" ++ encode bytes ++ "]"

/-- A byte as a number literal with its base mark and both digits. -/
def byteLiteral (byte : UInt8) : String :=
  "0x" ++ encode [byte]

/-- A sixteen-bit word as a number literal with its base mark and all four digits. -/
def wordLiteral (word : UInt16) : String :=
  "0x" ++ encode [(word >>> 8).toUInt8, word.toUInt8]

inductive Fault where
  | oddLength
  /-- The two bytes of a pair break off a character after `index` bytes. -/
  | cutCharacter (index : Nat)
  /-- The byte at `index` of a pair starts no character. -/
  | strayByte (index : Nat)
  /-- A pair is text but not two hexadecimal digits. -/
  | notDigits (pair : String)
  deriving DecidableEq, Repr

def Fault.message : Fault → String
  | .oddLength => "hex string has odd length"
  | .cutCharacter index => "incomplete utf-8 byte sequence from index " ++ toString index
  | .strayByte index => "invalid utf-8 sequence of 1 bytes from index " ++ toString index
  | .notDigits text => "invalid hex pair '" ++ text ++ "': invalid digit found in string"

def isBlank (byte : UInt8) : Bool :=
  byte == 0x20 || byte == 0x09 || byte == 0x0a || byte == 0x0c || byte == 0x0d

def digitValue? (byte : UInt8) : Option UInt8 :=
  if 0x30 ≤ byte ∧ byte ≤ 0x39 then some (byte - 0x30)
  else if 0x61 ≤ byte ∧ byte ≤ 0x66 then some (byte - 0x57)
  else if 0x41 ≤ byte ∧ byte ≤ 0x46 then some (byte - 0x37)
  else none

/-- How the first two bytes of a character must look: the range its second byte lies in and whether
the character ends there. `none` is a byte that starts no longer character. -/
def leadByte? (byte : UInt8) : Option (UInt8 × UInt8 × Bool) :=
  if 0xc2 ≤ byte ∧ byte ≤ 0xdf then some (0x80, 0xbf, true)
  else if byte == 0xe0 then some (0xa0, 0xbf, false)
  else if byte == 0xed then some (0x80, 0x9f, false)
  else if 0xe1 ≤ byte ∧ byte ≤ 0xef then some (0x80, 0xbf, false)
  else if byte == 0xf0 then some (0x90, 0xbf, false)
  else if 0xf1 ≤ byte ∧ byte ≤ 0xf3 then some (0x80, 0xbf, false)
  else if byte == 0xf4 then some (0x80, 0x8f, false)
  else none

/-- The text of two bytes, or where they stop being text. -/
def pairText (first second : UInt8) : Except Fault String :=
  if first < 0x80 then
    if second < 0x80 then
      .ok (String.ofList [Char.ofUInt8 first, Char.ofUInt8 second])
    else match leadByte? second with
      | some _ => .error (.cutCharacter 1)
      | none => .error (.strayByte 1)
  else match leadByte? first with
    | none => .error (.strayByte 0)
    | some (low, high, ends) =>
      if low ≤ second ∧ second ≤ high then
        if ends then
          .ok (String.ofList [Char.ofNat ((first.toNat % 32) * 64 + second.toNat % 64)])
        else .error (.cutCharacter 0)
      else .error (.strayByte 0)

/-- The value of a pair. A plus sign in front leaves one digit to give the value. -/
def pairValue? (first second : UInt8) : Option UInt8 :=
  if first == 0x2b then digitValue? second
  else match digitValue? first, digitValue? second with
    | some high, some low => some (high * 16 + low)
    | _, _ => none

def parsePair (first second : UInt8) : Except Fault UInt8 :=
  match pairText first second with
  | .error fault => .error fault
  | .ok text => match pairValue? first second with
    | some value => .ok value
    | none => .error (.notDigits text)

/-- Reads pairs from the left; the first bad pair decides the fault. -/
def parsePairs : Bytes → Except Fault Bytes
  | [] => .ok []
  | [_] => .error .oddLength
  | first :: second :: rest => match parsePair first second with
    | .error fault => .error fault
    | .ok value => match parsePairs rest with
      | .error fault => .error fault
      | .ok values => .ok (value :: values)

def textBytes (text : String) : Bytes :=
  text.toList.flatMap String.utf8EncodeChar

/-- Reads the bytes a text spells. Blanks may stand anywhere, even inside a pair. -/
def parse (text : String) : Except Fault Bytes :=
  let digits := (textBytes text).filter (fun byte => !isBlank byte)
  if digits.length % 2 = 0 then parsePairs digits else .error .oddLength

end Hex

end NfcStack
