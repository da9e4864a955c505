import Mathlib.Tactic.Lemma
import NfcStack.Hex

/-!
# The grammar of hexadecimal text

A text spells bytes if it is their digits with blanks put in and letters changed to the other case. Every
such text is read as the bytes that it spells. It is also read with a plus sign in the place of a zero that is
the first digit of a byte. Every other text is refused, whatever characters it is made of.
-/

namespace NfcStack.Proofs
open Hex

section Grammar

/-- The blanks that may stand anywhere in a text. -/
def blanks : List Char := [' ', '\t', '\n', '\x0c', '\r']

/-- What is left of a text without its blanks. -/
def withoutBlanks (text : List Char) : List Char := text.filter (· ∉ blanks)

/-- A text is another one with blanks put in and letters changed to the other case. -/
inductive Loosens : List Char → List Char → Prop where
  | done : Loosens [] []
  | blank {strict text : List Char} (space : Char) (hspace : space ∈ blanks) (h : Loosens strict text) :
      Loosens strict (space :: text)
  | letter {strict text : List Char} (char other : Char) (hcase : char.toLower = other.toLower)
      (h : Loosens strict text) : Loosens (char :: strict) (other :: text)

/-- A text spells bytes. -/
def Spells (text : String) (bytes : Bytes) : Prop := Loosens (encode bytes).toList text.toList

def IsHexDigit (char : Char) : Prop :=
  ('0' ≤ char ∧ char ≤ '9') ∨ ('a' ≤ char ∧ char ≤ 'f') ∨ ('A' ≤ char ∧ char ≤ 'F')

/-- A plus sign stands for a zero. -/
def signless (char : Char) : Char := if char = '+' then '0' else char

/-- A text of pairs in which a plus sign in the first place stands for a zero. -/
def unsigned : List Char → List Char
  | [] => []
  | [last] => [last]
  | first :: second :: rest => signless first :: second :: unsigned rest

/-- The characters of a text that are read as digits. -/
def digitsOf (text : String) : List Char := unsigned (withoutBlanks text.toList)

end Grammar

section Digits

lemma isHexDigit_iff (char : Char) : IsHexDigit char ↔
    (48 ≤ char.toNat ∧ char.toNat ≤ 57) ∨ (97 ≤ char.toNat ∧ char.toNat ≤ 102) ∨
      (65 ≤ char.toNat ∧ char.toNat ≤ 70) :=
  Iff.rfl

lemma toNat_toLower (char : Char) : char.toLower.toNat =
    if 65 ≤ char.toNat ∧ char.toNat ≤ 90 then char.toNat + 32 else char.toNat := by
  unfold Char.toLower
  by_cases hupper : 65 ≤ char.toNat ∧ char.toNat ≤ 90
  · have hval : char.val ≥ 'A'.val ∧ char.val ≤ 'Z'.val := hupper
    rw [if_pos hupper, dif_pos hval]
    change (char.toNat + 32) % 2 ^ 32 = _
    omega
  · have hval : ¬(char.val ≥ 'A'.val ∧ char.val ≤ 'Z'.val) := hupper
    rw [if_neg hupper, dif_neg hval]

lemma toNat_digit : ∀ value < 16, (digit value).toNat = if value < 10 then 48 + value else 87 + value := by
  decide

/-- The digit of a value, in either case. -/
lemma toLower_eq_digit_iff (char : Char) {value : Nat} (h : value < 16) :
    char.toLower = digit value ↔
      (48 ≤ char.toNat ∧ char.toNat ≤ 57 ∧ char.toNat = 48 + value) ∨
        (97 ≤ char.toNat ∧ char.toNat ≤ 102 ∧ char.toNat = 87 + value) ∨
        (65 ≤ char.toNat ∧ char.toNat ≤ 70 ∧ char.toNat = 55 + value) := by
  rw [← Char.toNat_inj, toNat_toLower, toNat_digit value h]
  split <;> split <;> omega

lemma isHexDigit_iff_digit (char : Char) :
    IsHexDigit char ↔ ∃ value < 16, char.toLower = digit value := by
  rw [isHexDigit_iff]
  constructor
  · intro h
    rcases h with h | h | h
    · exact ⟨char.toNat - 48, by omega, (toLower_eq_digit_iff char (by omega)).mpr (by omega)⟩
    · exact ⟨char.toNat - 87, by omega, (toLower_eq_digit_iff char (by omega)).mpr (by omega)⟩
    · exact ⟨char.toNat - 55, by omega, (toLower_eq_digit_iff char (by omega)).mpr (by omega)⟩
  · rintro ⟨value, hvalue, h⟩
    rw [toLower_eq_digit_iff char hvalue] at h
    omega

/-- A value is read off a code by taking a mark from it. -/
lemma some_sub_iff (mark : UInt8) (code : Nat) (hmark : mark.toNat = code) {byte : UInt8}
    (h : code ≤ byte.toNat) (value : UInt8) :
    some (byte - mark) = some value ↔ byte.toNat = code + value.toNat := by
  subst hmark
  rw [Option.some_inj, ← UInt8.toNat_inj, UInt8.toNat_sub_of_le _ _ (UInt8.le_iff_toNat_le.mpr h)]
  omega

lemma digitValue_eq_some_iff (byte value : UInt8) : digitValue? byte = some value ↔
    (48 ≤ byte.toNat ∧ byte.toNat ≤ 57 ∧ byte.toNat = 48 + value.toNat) ∨
      (97 ≤ byte.toNat ∧ byte.toNat ≤ 102 ∧ byte.toNat = 87 + value.toNat) ∨
      (65 ≤ byte.toNat ∧ byte.toNat ≤ 70 ∧ byte.toNat = 55 + value.toNat) := by
  unfold digitValue?
  simp only [UInt8.le_iff_toNat_le, UInt8.reduceToNat]
  split
  · next hdecimal =>
    rw [some_sub_iff 0x30 48 rfl hdecimal.1]
    omega
  · split
    · next hlower =>
      rw [some_sub_iff 0x57 87 rfl (by omega)]
      omega
    · split
      · next hupper =>
        rw [some_sub_iff 0x37 55 rfl (by omega)]
        omega
      · exact iff_of_false nofun (by omega)

/-- The value of a digit is read off its code. -/
lemma digitValue_char {char : Char} (h : char.toNat < 128) (value : UInt8) :
    digitValue? char.toUInt8 = some value ↔ value.toNat < 16 ∧ char.toLower = digit value.toNat := by
  have hcode : char.toUInt8.toNat = char.toNat := Nat.mod_eq_of_lt (show char.toNat < 256 by omega)
  rw [digitValue_eq_some_iff, hcode]
  constructor
  · intro hdigit
    have hvalue : value.toNat < 16 := by omega
    exact ⟨hvalue, (toLower_eq_digit_iff char hvalue).mpr hdigit⟩
  · rintro ⟨hvalue, hdigit⟩
    exact (toLower_eq_digit_iff char hvalue).mp hdigit

lemma digitValue_ascii {byte value : UInt8} (h : digitValue? byte = some value) : byte.toNat < 128 := by
  rw [digitValue_eq_some_iff] at h
  omega

end Digits

section Pairs

lemma toNat_halves {high low : UInt8} (hhigh : high.toNat < 16) (hlow : low.toNat < 16) :
    (high * 16 + low).toNat = 16 * high.toNat + low.toNat := by
  rw [UInt8.toNat_add, UInt8.toNat_mul]
  change (high.toNat * 16 % 2 ^ 8 + low.toNat) % 2 ^ 8 = _
  omega

lemma pair_halves {high low : UInt8} (hhigh : high.toNat < 16) (hlow : low.toNat < 16) :
    pair (high * 16 + low) = [digit high.toNat, digit low.toNat] := by
  have hdiv : (16 * high.toNat + low.toNat) / 16 = high.toNat := by omega
  have hmod : (16 * high.toNat + low.toNat) % 16 = low.toNat := by omega
  unfold pair
  rw [toNat_halves hhigh hlow, hdiv, hmod]

/-- Every byte is made of two halves. -/
lemma exists_halves (value : UInt8) :
    ∃ high low : UInt8, high.toNat < 16 ∧ low.toNat < 16 ∧ value = high * 16 + low := by
  have hvalue := value.toNat_lt
  have hhigh : (UInt8.ofNat (value.toNat / 16)).toNat = value.toNat / 16 :=
    UInt8.toNat_ofNat_of_lt' (show _ < 256 by omega)
  have hlow : (UInt8.ofNat (value.toNat % 16)).toNat = value.toNat % 16 :=
    UInt8.toNat_ofNat_of_lt' (show _ < 256 by omega)
  refine ⟨UInt8.ofNat (value.toNat / 16), UInt8.ofNat (value.toNat % 16), by omega, by omega, ?_⟩
  rw [← UInt8.toNat_inj, toNat_halves (by omega) (by omega), hhigh, hlow]
  omega

/-- The code of a plus sign stands for that of a zero. -/
def signlessCode (byte : UInt8) : UInt8 := if byte = 0x2b then 0x30 else byte

lemma signlessCode_char {char : Char} (h : char.toNat < 128) :
    signlessCode char.toUInt8 = (signless char).toUInt8 := by
  unfold signlessCode signless
  by_cases hplus : char = '+'
  · rw [hplus]
    rfl
  · have hcode : char.toUInt8 ≠ 0x2b := by
      intro hcode
      have htoNat : char.toNat % 256 = 43 := congrArg UInt8.toNat hcode
      exact hplus (Char.toNat_inj.mp (show char.toNat = 43 by omega))
    rw [if_neg hplus, if_neg hcode]

lemma pairValue_eq_some_iff (first second value : UInt8) : pairValue? first second = some value ↔
    ∃ high low, digitValue? (signlessCode first) = some high ∧ digitValue? second = some low ∧
      value = high * 16 + low := by
  unfold pairValue? signlessCode
  by_cases hplus : first = 0x2b
  · have hzero : digitValue? 0x30 = some 0 := rfl
    rw [if_pos (beq_iff_eq.mpr hplus), if_pos hplus, hzero]
    constructor
    · intro h
      exact ⟨0, value, rfl, h, (UInt8.zero_add value).symm⟩
    · rintro ⟨high, low, hhigh, hlow, rfl⟩
      rw [hlow, ← Option.some.inj hhigh]
      exact congrArg some (UInt8.zero_add low).symm
  · rw [if_neg (mt beq_iff_eq.mp hplus), if_neg hplus]
    cases digitValue? first with
    | none => simp
    | some high =>
      cases digitValue? second with
      | none => simp
      | some low => simp [eq_comm]

/-- A pair that has a value is made of characters of one byte. -/
lemma pairValue_ascii {first second value : UInt8} (h : pairValue? first second = some value) :
    first.toNat < 128 ∧ second.toNat < 128 := by
  obtain ⟨high, low, hfirst, hsecond, -⟩ := (pairValue_eq_some_iff first second value).mp h
  have hcode := digitValue_ascii hfirst
  refine ⟨?_, digitValue_ascii hsecond⟩
  unfold signlessCode at hcode
  split at hcode
  · next hplus =>
    rw [hplus]
    decide
  · exact hcode

/-- A pair with a value is text, so that only the value decides. -/
lemma parsePair_ok_iff (first second value : UInt8) :
    parsePair first second = .ok value ↔ pairValue? first second = some value := by
  unfold parsePair
  constructor
  · intro h
    split at h
    · exact absurd h nofun
    · split at h
      · next hvalue => rw [hvalue, Except.ok.inj h]
      · exact absurd h nofun
  · intro h
    obtain ⟨hfirst, hsecond⟩ := pairValue_ascii h
    have htext : pairText first second = .ok (String.ofList [Char.ofUInt8 first, Char.ofUInt8 second]) := by
      unfold pairText
      rw [if_pos (UInt8.lt_iff_toNat_lt.mpr hfirst), if_pos (UInt8.lt_iff_toNat_lt.mpr hsecond)]
    simp only [htext, h]

/-- Two characters are read as the byte whose digits they are, with a zero for a plus sign. -/
lemma parsePair_chars {first second : Char} (hfirst : first.toNat < 128) (hsecond : second.toNat < 128)
    (value : UInt8) : parsePair first.toUInt8 second.toUInt8 = .ok value ↔
      [signless first, second].map Char.toLower = pair value := by
  have hsignless : (signless first).toNat < 128 := by
    unfold signless
    split
    · decide
    · exact hfirst
  rw [parsePair_ok_iff, pairValue_eq_some_iff, signlessCode_char hfirst]
  simp only [digitValue_char hsignless, digitValue_char hsecond, List.map_cons, List.map_nil]
  constructor
  · rintro ⟨high, low, ⟨hhigh, hfirstDigit⟩, ⟨hlow, hsecondDigit⟩, rfl⟩
    rw [pair_halves hhigh hlow, hfirstDigit, hsecondDigit]
  · intro h
    obtain ⟨high, low, hhigh, hlow, rfl⟩ := exists_halves value
    rw [pair_halves hhigh hlow] at h
    obtain ⟨hfirstDigit, hsecondDigit⟩ := List.cons.inj h
    exact ⟨high, low, ⟨hhigh, hfirstDigit⟩, ⟨hlow, (List.cons.inj hsecondDigit).1⟩, rfl⟩

lemma parsePairs_cons_ok_iff (first second : UInt8) (rest bytes : Bytes) :
    parsePairs (first :: second :: rest) = .ok bytes ↔
      ∃ value values, bytes = value :: values ∧ parsePair first second = .ok value ∧
        parsePairs rest = .ok values := by
  rw [parsePairs]
  cases parsePair first second with
  | error fault => simp
  | ok value =>
    cases parsePairs rest with
    | error fault => simp
    | ok values => simp [eq_comm]

/-- What is read is two bytes for each byte of the answer, and none of them belongs to a longer character. -/
lemma parsePairs_read {text bytes : Bytes} (h : parsePairs text = .ok bytes) :
    text.length = 2 * bytes.length ∧ ∀ byte ∈ text, byte.toNat < 128 := by
  fun_induction parsePairs text generalizing bytes with
  | case1 =>
    obtain rfl := Except.ok.inj h
    exact ⟨rfl, nofun⟩
  | case2 => exact absurd h nofun
  | case3 => exact absurd h nofun
  | case4 => exact absurd h nofun
  | case5 first second rest value hvalue values hvalues ih =>
    obtain rfl := Except.ok.inj h
    obtain ⟨hlength, hascii⟩ := ih hvalues
    obtain ⟨hfirst, hsecond⟩ := pairValue_ascii ((parsePair_ok_iff first second value).mp hvalue)
    refine ⟨by simp only [List.length_cons]; omega, ?_⟩
    simp only [List.mem_cons, forall_eq_or_imp]
    exact ⟨hfirst, hsecond, hascii⟩

/-- The length that is looked at first refuses nothing that could be read. -/
lemma parse_ok_iff (text : String) (bytes : Bytes) : parse text = .ok bytes ↔
    parsePairs ((textBytes text).filter fun byte => !isBlank byte) = .ok bytes := by
  unfold parse
  by_cases heven : ((textBytes text).filter fun byte => !isBlank byte).length % 2 = 0
  · simp only [if_pos heven]
  · simp only [if_neg heven]
    refine iff_of_false nofun fun h => heven ?_
    rw [(parsePairs_read h).1]
    omega

end Pairs

section Characters

lemma utf8_short {char : Char} (h : char.toNat < 128) : String.utf8EncodeChar char = [char.toUInt8] := by
  have hsize : char.utf8Size = 1 :=
    Char.utf8Size_eq_one_iff.mpr (UInt32.le_iff_toNat_le.mpr (Nat.le_of_lt_succ h))
  exact String.utf8EncodeChar_eq_singleton hsize

lemma utf8_long {char : Char} (h : 128 ≤ char.toNat) :
    ∀ byte ∈ String.utf8EncodeChar char, 128 ≤ byte.toNat := by
  have hlong : ¬char.val.toNat ≤ 127 := Nat.not_le.mpr h
  -- Each byte is made of a mark of at least 128 and some bits of the character below it.
  unfold String.utf8EncodeChar
  simp only [if_neg hlong]
  split
  · simp only [List.forall_mem_cons, UInt8.toNat_ofNat']
    exact ⟨by omega, by omega, nofun⟩
  · split
    · simp only [List.forall_mem_cons, UInt8.toNat_ofNat']
      exact ⟨by omega, by omega, by omega, nofun⟩
    · simp only [List.forall_mem_cons, UInt8.toNat_ofNat']
      exact ⟨by omega, by omega, by omega, by omega, nofun⟩

/-- Where all bytes of a text are small, so are its characters. -/
lemma ascii_of_bytes {chars : List Char}
    (h : ∀ byte ∈ chars.flatMap String.utf8EncodeChar, byte.toNat < 128) :
    ∀ char ∈ chars, char.toNat < 128 := by
  intro char hchar
  refine Nat.not_le.mp fun hlong => ?_
  obtain ⟨byte, hbyte⟩ := List.exists_mem_of_ne_nil _ (String.utf8EncodeChar_ne_nil (c := char))
  have hsmall := h byte (List.mem_flatMap.mpr ⟨char, hchar, hbyte⟩)
  have hlarge := utf8_long hlong byte hbyte
  omega

lemma flatMap_ascii {chars : List Char} (h : ∀ char ∈ chars, char.toNat < 128) :
    chars.flatMap String.utf8EncodeChar = chars.map Char.toUInt8 := by
  induction chars with
  | nil => rfl
  | cons char rest ih =>
    obtain ⟨hchar, hrest⟩ := List.forall_mem_cons.mp h
    rw [List.flatMap_cons, utf8_short hchar, ih hrest]
    rfl

lemma mem_blanks_iff (char : Char) : char ∈ blanks ↔
    char.toNat = 32 ∨ char.toNat = 9 ∨ char.toNat = 10 ∨ char.toNat = 12 ∨ char.toNat = 13 := by
  simp only [blanks, List.mem_cons, List.not_mem_nil, or_false, ← Char.toNat_inj]
  exact Iff.rfl

lemma isBlank_iff (byte : UInt8) : isBlank byte = true ↔
    byte.toNat = 32 ∨ byte.toNat = 9 ∨ byte.toNat = 10 ∨ byte.toNat = 12 ∨ byte.toNat = 13 := by
  simp only [isBlank, Bool.or_eq_true, beq_iff_eq, ← UInt8.toNat_inj, UInt8.reduceToNat, or_assoc]

/-- The bytes of a blank are skipped, and of every other character none is. -/
lemma filter_utf8 (char : Char) :
    (String.utf8EncodeChar char).filter (fun byte => !isBlank byte) =
      if char ∈ blanks then [] else String.utf8EncodeChar char := by
  by_cases hshort : char.toNat < 128
  · have hcode : char.toUInt8.toNat = char.toNat := Nat.mod_eq_of_lt (show char.toNat < 256 by omega)
    have hblank : isBlank char.toUInt8 = true ↔ char ∈ blanks := by
      rw [isBlank_iff, mem_blanks_iff, hcode]
    rw [utf8_short hshort]
    by_cases hmem : char ∈ blanks
    · simp [hblank.mpr hmem, hmem]
    · simp [mt hblank.mp hmem, hmem]
  · have hmem : char ∉ blanks := by
      rw [mem_blanks_iff]
      omega
    rw [if_neg hmem, List.filter_eq_self]
    intro byte hbyte
    have hlarge := utf8_long (Nat.not_lt.mp hshort) byte hbyte
    have hblank : ¬isBlank byte = true := by
      rw [isBlank_iff]
      omega
    simp [hblank]

/-- Skipping the blank bytes of a text leaves the bytes of what it is without its blanks. -/
lemma filter_flatMap_utf8 (text : List Char) :
    (text.flatMap String.utf8EncodeChar).filter (fun byte => !isBlank byte) =
      (withoutBlanks text).flatMap String.utf8EncodeChar := by
  unfold withoutBlanks
  induction text with
  | nil => rfl
  | cons char rest ih =>
    rw [List.flatMap_cons, List.filter_append, ih, filter_utf8]
    by_cases hmem : char ∈ blanks
    · simp [hmem]
    · simp [hmem]

end Characters

section Texts

lemma encodeChars_cons (value : UInt8) (values : Bytes) :
    encodeChars (value :: values) = pair value ++ encodeChars values :=
  List.flatMap_cons

lemma length_encodeChars (bytes : Bytes) : (encodeChars bytes).length = 2 * bytes.length := by
  induction bytes with
  | nil => rfl
  | cons value values ih =>
    have hpair : (pair value).length = 2 := rfl
    rw [encodeChars_cons, List.length_append, hpair, ih, List.length_cons]
    omega

lemma mem_encodeChars {bytes : Bytes} {char : Char} (h : char ∈ encodeChars bytes) :
    ∃ value < 16, char = digit value := by
  obtain ⟨byte, -, hchar⟩ := List.mem_flatMap.mp h
  have hbyte := byte.toNat_lt
  simp only [pair, List.mem_cons, List.not_mem_nil, or_false] at hchar
  rcases hchar with rfl | rfl
  · exact ⟨_, by omega, rfl⟩
  · exact ⟨_, by omega, rfl⟩

lemma encodeChars_eq_pair_iff (first second : Char) (rest : List Char) (bytes : Bytes) :
    first :: second :: rest = encodeChars bytes ↔
      ∃ value values, bytes = value :: values ∧ [first, second] = pair value ∧ rest = encodeChars values := by
  cases bytes with
  | nil => exact iff_of_false nofun nofun
  | cons value values =>
    rw [encodeChars_cons]
    constructor
    · intro h
      have hsplit : [first, second] ++ rest = pair value ++ encodeChars values := h
      obtain ⟨hpair, hrest⟩ := List.append_inj hsplit rfl
      exact ⟨value, values, rfl, hpair, hrest⟩
    · rintro ⟨value', values', hbytes, hpair, hrest⟩
      obtain ⟨rfl, rfl⟩ := List.cons.inj hbytes
      rw [← hpair, ← hrest]
      rfl

/-- Characters that are the digits of bytes in either case are digits. -/
lemma isHexDigit_of_lower {chars : List Char} {bytes : Bytes}
    (h : chars.map Char.toLower = encodeChars bytes) : ∀ char ∈ chars, IsHexDigit char := by
  intro char hchar
  have hlower : char.toLower ∈ encodeChars bytes := h ▸ List.mem_map_of_mem hchar
  obtain ⟨value, hvalue, hdigit⟩ := mem_encodeChars hlower
  exact (isHexDigit_iff_digit char).mpr ⟨value, hvalue, hdigit⟩

lemma length_unsigned (chars : List Char) : (unsigned chars).length = chars.length := by
  fun_induction unsigned chars with
  | case1 => rfl
  | case2 => rfl
  | case3 first second rest ih => simp only [List.length_cons, ih]

/-- Only plus signs are replaced. -/
lemma mem_unsigned {chars : List Char} {char : Char} (h : char ∈ chars) (hplus : char ≠ '+') :
    char ∈ unsigned chars := by
  fun_induction unsigned chars with
  | case1 => exact h
  | case2 => exact h
  | case3 first second rest ih =>
    rw [List.mem_cons, List.mem_cons] at h ⊢
    rcases h with rfl | rfl | h
    · left
      unfold signless
      rw [if_neg hplus]
    · exact .inr (.inl rfl)
    · exact .inr (.inr (ih h))

lemma unsigned_of_plusless {chars : List Char} (h : '+' ∉ chars) : unsigned chars = chars := by
  fun_induction unsigned chars with
  | case1 => rfl
  | case2 => rfl
  | case3 first second rest ih =>
    simp only [List.mem_cons, not_or] at h
    obtain ⟨hfirst, -, hrest⟩ := h
    unfold signless
    rw [if_neg (Ne.symm hfirst), ih hrest]

/-- An odd number of characters is not that of any bytes. -/
lemma ne_encodeChars_of_odd {chars : List Char} (h : chars.length % 2 = 1) (bytes : Bytes) :
    chars ≠ encodeChars bytes := by
  rintro rfl
  rw [length_encodeChars] at h
  omega

/-- Characters of one byte are read pair by pair as the bytes whose digits they are. -/
lemma parsePairs_ascii {chars : List Char} (h : ∀ char ∈ chars, char.toNat < 128) (bytes : Bytes) :
    parsePairs (chars.map Char.toUInt8) = .ok bytes ↔
      (unsigned chars).map Char.toLower = encodeChars bytes := by
  fun_induction unsigned chars generalizing bytes with
  | case1 =>
    cases bytes with
    | nil => exact iff_of_true rfl rfl
    | cons value values => exact iff_of_false nofun nofun
  | case2 last => exact iff_of_false nofun (ne_encodeChars_of_odd rfl bytes)
  | case3 first second rest ih =>
    simp only [List.forall_mem_cons] at h
    obtain ⟨hfirst, hsecond, hrest⟩ := h
    simp only [List.map_cons]
    rw [parsePairs_cons_ok_iff, encodeChars_eq_pair_iff]
    simp only [parsePair_chars hfirst hsecond, ih hrest, List.map_cons, List.map_nil]

lemma isHexDigit_ascii {char : Char} (h : IsHexDigit char) : char.toNat < 128 := by
  rw [isHexDigit_iff] at h
  omega

/-- What is read of characters of any length. A longer character breaks every reading. -/
lemma parsePairs_utf8 (chars : List Char) (bytes : Bytes) :
    parsePairs (chars.flatMap String.utf8EncodeChar) = .ok bytes ↔
      (unsigned chars).map Char.toLower = encodeChars bytes := by
  by_cases hascii : ∀ char ∈ chars, char.toNat < 128
  · rw [flatMap_ascii hascii]
    exact parsePairs_ascii hascii bytes
  · -- The bytes of a longer character have no value, and the character is no digit.
    refine iff_of_false (fun h => hascii (ascii_of_bytes (parsePairs_read h).2)) fun h => hascii ?_
    intro char hchar
    by_cases hplus : char = '+'
    · rw [hplus]
      decide
    · exact isHexDigit_ascii (isHexDigit_of_lower h char (mem_unsigned hchar hplus))

lemma parse_ok_iff_digits (text : String) (bytes : Bytes) :
    parse text = .ok bytes ↔ (digitsOf text).map Char.toLower = encodeChars bytes := by
  rw [parse_ok_iff, textBytes, filter_flatMap_utf8]
  exact parsePairs_utf8 _ bytes

/-- An even number of digits is that of some bytes. -/
lemma exists_encodeChars {chars : List Char} (heven : chars.length % 2 = 0)
    (h : ∀ char ∈ chars, IsHexDigit char) : ∃ bytes, chars.map Char.toLower = encodeChars bytes := by
  fun_induction unsigned chars with
  | case1 => exact ⟨[], rfl⟩
  | case2 => exact absurd heven nofun
  | case3 first second rest ih =>
    simp only [List.forall_mem_cons] at h
    obtain ⟨hfirst, hsecond, hrest⟩ := h
    obtain ⟨high, hhigh, hfirst⟩ := (isHexDigit_iff_digit first).mp hfirst
    obtain ⟨low, hlow, hsecond⟩ := (isHexDigit_iff_digit second).mp hsecond
    obtain ⟨values, hvalues⟩ := ih (by simp only [List.length_cons] at heven; omega) hrest
    have htoNat {value : Nat} (hvalue : value < 16) : (UInt8.ofNat value).toNat = value :=
      UInt8.toNat_ofNat_of_lt' (show _ < 256 by omega)
    refine ⟨(UInt8.ofNat high * 16 + UInt8.ofNat low) :: values, ?_⟩
    rw [encodeChars_cons, pair_halves (by rwa [htoNat hhigh]) (by rwa [htoNat hlow]), htoNat hhigh,
      htoNat hlow, ← hfirst, ← hsecond, ← hvalues]
    rfl

/-- A text is read exactly if it is made of pairs and all of its digits are digits. -/
lemma parse_succeeds_iff (text : String) : (∃ bytes, parse text = .ok bytes) ↔
    (withoutBlanks text.toList).length % 2 = 0 ∧ ∀ char ∈ digitsOf text, IsHexDigit char := by
  have hlength : (digitsOf text).length = (withoutBlanks text.toList).length := length_unsigned _
  simp only [parse_ok_iff_digits]
  rw [← hlength]
  constructor
  · rintro ⟨bytes, h⟩
    have hcount := congrArg List.length h
    rw [List.length_map, length_encodeChars] at hcount
    exact ⟨by omega, isHexDigit_of_lower h⟩
  · rintro ⟨heven, hdigits⟩
    exact exists_encodeChars heven hdigits

lemma parse_fails_iff (text : String) : (∃ fault, parse text = .error fault) ↔
    (withoutBlanks text.toList).length % 2 = 1 ∨ ∃ char ∈ digitsOf text, ¬IsHexDigit char := by
  have hfails : (∃ fault, parse text = .error fault) ↔ ¬∃ bytes, parse text = .ok bytes := by
    cases parse text with
    | error fault => exact iff_of_true ⟨fault, rfl⟩ nofun
    | ok bytes => exact iff_of_false nofun fun h => h ⟨bytes, rfl⟩
  rw [hfails, parse_succeeds_iff, Classical.not_and_iff_not_or_not, Nat.mod_two_not_eq_zero]
  simp only [Classical.not_forall, exists_prop]

end Texts

section Spelling

lemma toLower_blank {space : Char} (h : space ∈ blanks) : space.toLower = space := by
  rw [mem_blanks_iff] at h
  rw [← Char.toNat_inj, toNat_toLower, if_neg (by omega)]

lemma digit_not_blank {value : Nat} (h : value < 16) : digit value ∉ blanks := by
  rw [mem_blanks_iff, toNat_digit value h]
  split <;> omega

lemma toLower_digit {value : Nat} (h : value < 16) : (digit value).toLower = digit value := by
  rw [← Char.toNat_inj, toNat_toLower, toNat_digit value h]
  split <;> split <;> omega

/-- A text loosens lowercase characters without blanks exactly if they are what is left of it without its
blanks in lowercase. -/
lemma loosens_iff {strict text : List Char} (hblank : ∀ char ∈ strict, char ∉ blanks)
    (hlower : ∀ char ∈ strict, char.toLower = char) :
    Loosens strict text ↔ (withoutBlanks text).map Char.toLower = strict := by
  constructor
  · intro h
    induction h with
    | done => rfl
    | blank space hspace h ih =>
      unfold withoutBlanks
      rw [List.filter_cons_of_neg (by simpa using hspace)]
      exact ih hblank hlower
    | letter char other hcase h ih =>
      obtain ⟨hchar, hrest⟩ := List.forall_mem_cons.mp hblank
      obtain ⟨hcharLower, hrestLower⟩ := List.forall_mem_cons.mp hlower
      -- A blank is its own lowercase, so no blank takes the place of a character.
      have hother : other ∉ blanks := by
        intro hmem
        rw [toLower_blank hmem, hcharLower] at hcase
        exact hchar (hcase ▸ hmem)
      unfold withoutBlanks
      rw [List.filter_cons_of_pos (by simpa using hother), List.map_cons, ← hcase, hcharLower]
      exact congrArg _ (ih hrest hrestLower)
  · intro h
    induction text generalizing strict with
    | nil =>
      obtain rfl := h
      exact .done
    | cons other rest ih =>
      unfold withoutBlanks at h
      by_cases hmem : other ∈ blanks
      · rw [List.filter_cons_of_neg (by simpa using hmem)] at h
        exact .blank other hmem (ih hblank hlower h)
      · rw [List.filter_cons_of_pos (by simpa using hmem), List.map_cons] at h
        obtain rfl := h
        obtain ⟨-, hrest⟩ := List.forall_mem_cons.mp hblank
        obtain ⟨hother, hrestLower⟩ := List.forall_mem_cons.mp hlower
        exact .letter other.toLower other hother (ih hrest hrestLower rfl)

lemma loosens_encode_iff (text : List Char) (bytes : Bytes) :
    Loosens (encode bytes).toList text ↔ (withoutBlanks text).map Char.toLower = encodeChars bytes := by
  unfold encode
  rw [String.toList_ofList]
  apply loosens_iff
  · intro char hchar
    obtain ⟨value, hvalue, rfl⟩ := mem_encodeChars hchar
    exact digit_not_blank hvalue
  · intro char hchar
    obtain ⟨value, hvalue, rfl⟩ := mem_encodeChars hchar
    exact toLower_digit hvalue

/-- A text spells bytes exactly if without its blanks it has two digits for each of them and is their text
up to case. -/
lemma spells_iff (text : String) (bytes : Bytes) : Spells text bytes ↔
    (withoutBlanks text.toList).length = 2 * bytes.length ∧
      (∀ char ∈ withoutBlanks text.toList, IsHexDigit char) ∧
      (withoutBlanks text.toList).map Char.toLower = (encode bytes).toList := by
  unfold Spells
  rw [loosens_encode_iff]
  unfold encode
  rw [String.toList_ofList]
  constructor
  · intro h
    have hlength := congrArg List.length h
    rw [List.length_map, length_encodeChars] at hlength
    exact ⟨hlength, isHexDigit_of_lower h, h⟩
  · rintro ⟨-, -, h⟩
    exact h

lemma plus_not_digit : ¬IsHexDigit '+' := by
  rw [isHexDigit_iff]
  decide

lemma plus_mem_withoutBlanks (text : List Char) : '+' ∈ withoutBlanks text ↔ '+' ∈ text := by
  unfold withoutBlanks
  rw [List.mem_filter]
  exact and_iff_left (by decide)

/-- The texts that spell bytes are those that are read and have no plus sign. -/
lemma spells_iff_parse (text : String) (bytes : Bytes) :
    Spells text bytes ↔ parse text = .ok bytes ∧ '+' ∉ text.toList := by
  unfold Spells
  rw [loosens_encode_iff, parse_ok_iff_digits, digitsOf]
  have hplusless (h : '+' ∉ text.toList) :
      unsigned (withoutBlanks text.toList) = withoutBlanks text.toList :=
    unsigned_of_plusless (mt (plus_mem_withoutBlanks text.toList).mp h)
  constructor
  · intro h
    have hplus : '+' ∉ text.toList := fun hmem =>
      plus_not_digit (isHexDigit_of_lower h '+' ((plus_mem_withoutBlanks text.toList).mpr hmem))
    rw [hplusless hplus]
    exact ⟨h, hplus⟩
  · rintro ⟨h, hplus⟩
    rwa [hplusless hplus] at h

end Spelling

/-- Which texts are read as bytes. Those that spell them are, and they are the only ones without a plus sign:
a text spells bytes exactly if without its blanks it has two digits for each of them and is their text up to
case. A plus sign that stands first in its pair counts as a zero. A text is refused exactly if with that, and
without its blanks, its characters are odd in number or one of them is no digit. -/
theorem hex_text_read (text : String) (bytes : Bytes) :
    (Spells text bytes ↔ parse text = .ok bytes ∧ '+' ∉ text.toList) ∧
      (Spells text bytes ↔
        (withoutBlanks text.toList).length = 2 * bytes.length ∧
          (∀ char ∈ withoutBlanks text.toList, IsHexDigit char) ∧
          (withoutBlanks text.toList).map Char.toLower = (encode bytes).toList) ∧
      (parse text = .ok bytes ↔ (digitsOf text).map Char.toLower = (encode bytes).toList) ∧
      ((∃ fault, parse text = .error fault) ↔
        (withoutBlanks text.toList).length % 2 = 1 ∨ ∃ char ∈ digitsOf text, ¬IsHexDigit char) := by
  refine ⟨spells_iff_parse text bytes, spells_iff text bytes, ?_, parse_fails_iff text⟩
  rw [parse_ok_iff_digits, encode, String.toList_ofList]

/-- Digits of either case with blanks between and inside of the pairs are read. -/
theorem spaced_text_read : Spells " A0\t0\nf" [0xa0, 0x0f] ∧ parse " A0\t0\nf" = .ok [0xa0, 0x0f] := by
  obtain ⟨hspells, -, -, -⟩ := hex_text_read " A0\t0\nf" [0xa0, 0x0f]
  have hloosens : Spells " A0\t0\nf" [0xa0, 0x0f] := by
    unfold Spells
    exact .blank ' ' (by decide) (.letter 'a' 'A' rfl (.letter '0' '0' rfl (.blank '\t' (by decide)
      (.letter '0' '0' rfl (.blank '\n' (by decide) (.letter 'f' 'f' rfl .done))))))
  exact ⟨hloosens, (hspells.mp hloosens).1⟩

/-- A text with a sign in it is read, although it spells nothing. -/
theorem sign_read_as_zero : parse "+f" = .ok [0x0f] ∧ ¬IsHexDigit '+' ∧ ∀ bytes, ¬Spells "+f" bytes := by
  refine ⟨rfl, plus_not_digit, fun bytes h => ?_⟩
  exact ((spells_iff_parse "+f" bytes).mp h).2 (by decide)

end NfcStack.Proofs
