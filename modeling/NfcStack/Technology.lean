/-!
# Tag technologies

The technology of one discovered slot, and the coarser kind that users of a tag see.
-/

namespace NfcStack

inductive Technology where
  | iso14443A
  | iso14443B
  | iso14443Part4
  | felica
  | iso15693
  | ndef
  | ndefFormatable
  | mifareClassic
  | mifareUltralight
  | kovioBarcode
  | unknown
  deriving DecidableEq, Repr, Inhabited

/-- The coarse kind of a technology; its number is the constructor's position. -/
inductive TagKind where
  | invalid
  | ndef
  | isoDep
  | mifareClassic
  | mifareUltralight
  | iso15693
  | felica
  | ndefFormatable
  deriving DecidableEq, Repr, Inhabited

namespace Technology

/-- How many technologies are known, and how many slots one tag may collect. -/
abbrev tableSize : Nat := 10

def all : List Technology :=
  [.iso14443A, .iso14443B, .iso14443Part4, .felica, .iso15693, .ndef, .ndefFormatable,
    .mifareClassic, .mifareUltralight, .kovioBarcode, .unknown]

def index? : Technology → Option (Fin tableSize)
  | .iso14443A => some 0
  | .iso14443B => some 1
  | .iso14443Part4 => some 2
  | .felica => some 3
  | .iso15693 => some 4
  | .ndef => some 5
  | .ndefFormatable => some 6
  | .mifareClassic => some 7
  | .mifareUltralight => some 8
  | .kovioBarcode => some 9
  | .unknown => none

def ofIndex : Fin tableSize → Technology
  | 0 => .iso14443A
  | 1 => .iso14443B
  | 2 => .iso14443Part4
  | 3 => .felica
  | 4 => .iso15693
  | 5 => .ndef
  | 6 => .ndefFormatable
  | 7 => .mifareClassic
  | 8 => .mifareUltralight
  | 9 => .kovioBarcode

/-- Codes count from one; the unknown technology has code minus one. -/
def code (technology : Technology) : Int :=
  match technology.index? with
  | some index => index.val + 1
  | none => -1

def ofCode (code : Int) : Technology :=
  match all.find? (fun technology => technology.code = code) with
  | some technology => technology
  | none => .unknown

/-- Technologies whose slots carry the answers of an NFC-A target. -/
def isNfcA (technology : Technology) : Bool :=
  technology = .iso14443A || technology = .mifareClassic

def kind : Technology → TagKind
  | .iso14443A | .iso14443B | .iso14443Part4 => .isoDep
  | .felica => .felica
  | .iso15693 => .iso15693
  | .ndef => .ndef
  | .ndefFormatable => .ndefFormatable
  | .mifareClassic => .mifareClassic
  | .mifareUltralight => .mifareUltralight
  | .kovioBarcode | .unknown => .invalid

end Technology

/-- The number under which a kind is known to users. -/
def TagKind.code : TagKind → Nat
  | .invalid => 0
  | .ndef => 1
  | .isoDep => 2
  | .mifareClassic => 3
  | .mifareUltralight => 4
  | .iso15693 => 5
  | .felica => 6
  | .ndefFormatable => 7

end NfcStack
