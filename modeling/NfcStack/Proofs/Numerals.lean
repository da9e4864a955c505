import Mathlib.Data.Nat.Digits.Defs
import Mathlib.Data.List.Induction
import NfcStack.Bytes

/-!
# Numbers in buffers

Bytes spell a number in base 256, the most significant digit first. A read takes so many bytes at a position
of a buffer. It succeeds exactly if they lie inside, and gives the number they spell as far as a word of 64
bits holds it, so that of more than eight digits the last eight count.
-/

namespace NfcStack.Proofs

section Spelling

/-- The number that bytes spell, the most significant first. -/
def spelled (digits : Bytes) : Nat := Nat.ofDigits 256 (digits.reverse.map UInt8.toNat)

lemma spelled_append (first rest : Bytes) :
    spelled (first ++ rest) = 256 ^ rest.length * spelled first + spelled rest := by
  unfold spelled
  rw [List.reverse_append, List.map_append, Nat.ofDigits_append, List.length_map, List.length_reverse,
    Nat.add_comm]

lemma spelled_singleton (digit : UInt8) : spelled [digit] = digit.toNat :=
  Nat.ofDigits_singleton

lemma spelled_snoc (digits : Bytes) (last : UInt8) :
    spelled (digits ++ [last]) = 256 * spelled digits + last.toNat := by
  rw [spelled_append, spelled_singleton, List.length_singleton, Nat.pow_one]

lemma spelled_zero_cons (digits : Bytes) : spelled (0 :: digits) = spelled digits := by
  have hzero : spelled [0] = 0 := rfl
  rw [← List.singleton_append, spelled_append, hzero, Nat.mul_zero, Nat.zero_add]

lemma digits_lt (digits : Bytes) : ∀ digit ∈ digits.reverse.map UInt8.toNat, digit < 256 := by
  intro digit hdigit
  obtain ⟨byte, -, rfl⟩ := List.mem_map.mp hdigit
  exact byte.toNat_lt

lemma spelled_lt (digits : Bytes) : spelled digits < 256 ^ digits.length := by
  have hspelled := Nat.ofDigits_lt_base_pow_length (b := 256) (by omega) (digits_lt digits)
  rw [List.length_map, List.length_reverse] at hspelled
  exact hspelled

lemma spelled_zeros (count : Nat) (digits : Bytes) :
    spelled (List.replicate count 0 ++ digits) = spelled digits := by
  induction count with
  | zero => rfl
  | succ count ih =>
    rw [List.replicate_succ, List.cons_append, spelled_zero_cons, ih]

lemma spelled_dropWhile (digits : Bytes) :
    spelled (digits.dropWhile (· == 0)) = spelled digits := by
  induction digits with
  | nil => rfl
  | cons first rest ih =>
    by_cases hzero : first = 0
    · rw [hzero, spelled_zero_cons, ← ih]
      rfl
    · rw [List.dropWhile_cons_of_neg]
      simpa using hzero

/-- As many digits that spell the same number are the same digits. -/
lemma spelled_inj {digits others : Bytes} (hcount : digits.length = others.length)
    (h : spelled digits = spelled others) : digits = others := by
  have hmapped : digits.reverse.map UInt8.toNat = others.reverse.map UInt8.toNat := by
    apply Nat.ofDigits_inj_of_len_eq (b := 256) (by omega) _ (digits_lt digits) (digits_lt others) h
    simp [hcount]
  exact List.reverse_inj.mp ((List.map_inj_right fun _ _ => UInt8.toNat_inj.mp).mp hmapped)

/-- The last eight digits are what a word of 64 bits keeps. -/
lemma spelled_mod_word (first : Bytes) {rest : Bytes} (h : rest.length = 8) :
    spelled (first ++ rest) % 2 ^ 64 = spelled rest := by
  have hlt := spelled_lt rest
  rw [h] at hlt
  rw [spelled_append, h]
  omega

/-- The lowest digits of a number, as many as there is room for. -/
def numeral : Nat → Nat → Bytes
  | 0, _ => []
  | width + 1, value => numeral width (value / 256) ++ [UInt8.ofNat value]

lemma numeral_length (width value : Nat) : (numeral width value).length = width := by
  induction width generalizing value with
  | zero => rfl
  | succ width ih =>
    rw [numeral, List.length_append, ih, List.length_singleton]

lemma spelled_numeral {width value : Nat} (h : value < 256 ^ width) :
    spelled (numeral width value) = value := by
  induction width generalizing value with
  | zero =>
    rw [Nat.pow_zero, Nat.lt_one_iff] at h
    exact h.symm
  | succ width ih =>
    have hrest : value / 256 < 256 ^ width := Nat.div_lt_of_lt_mul (by rwa [← Nat.pow_succ'])
    rw [numeral, spelled_snoc, ih hrest, UInt8.toNat_ofNat']
    omega

end Spelling

section Words

/-- One more byte moves the word up by a digit; what no longer fits is lost. -/
lemma toNat_shift_in (word : UInt64) (byte : UInt8) :
    ((word <<< 8) ||| byte.toUInt64).toNat = (256 * word.toNat + byte.toNat) % 2 ^ 64 := by
  have hbyte : byte.toNat < 2 ^ 8 := byte.toNat_lt
  have hshift : (word <<< 8).toNat = (word.toNat % 2 ^ 56) <<< 8 := by
    rw [UInt64.toNat_shiftLeft, Nat.shiftLeft_eq, Nat.shiftLeft_eq]
    change word.toNat * 2 ^ 8 % 2 ^ 64 = _
    omega
  rw [UInt64.toNat_or, hshift, UInt8.toNat_toUInt64, ← Nat.shiftLeft_add_eq_or_of_lt hbyte,
    Nat.shiftLeft_eq]
  omega

/-- After each byte the word is the number spelled so far, as far as it fits. -/
lemma toNat_bigEndian_mod (digits : Bytes) :
    (Bytes.bigEndian digits).toNat = spelled digits % 2 ^ 64 := by
  induction digits using List.reverseRecOn with
  | nil => rfl
  | append_singleton digits last ih =>
    have hsnoc : Bytes.bigEndian (digits ++ [last]) =
        (Bytes.bigEndian digits <<< 8) ||| last.toUInt64 := by
      unfold Bytes.bigEndian
      rw [List.foldl_append]
      rfl
    rw [hsnoc, toNat_shift_in, ih, spelled_snoc]
    omega

/-- Up to eight bytes are read as the number they spell. -/
lemma toNat_bigEndian (digits : Bytes) (h : digits.length ≤ 8) :
    (Bytes.bigEndian digits).toNat = spelled digits := by
  have hlt : spelled digits < 2 ^ 64 :=
    Nat.lt_of_lt_of_le (spelled_lt digits) (Nat.pow_le_pow_right (n := 256) (by omega) h)
  rw [toNat_bigEndian_mod, Nat.mod_eq_of_lt hlt]

/-- Of more than eight bytes the last eight are read. -/
lemma toNat_bigEndian_drop (digits : Bytes) :
    (Bytes.bigEndian digits).toNat = spelled (digits.drop (digits.length - 8)) := by
  by_cases hshort : digits.length ≤ 8
  · rw [toNat_bigEndian digits hshort, Nat.sub_eq_zero_of_le hshort, List.drop_zero]
  · have hrest : (digits.drop (digits.length - 8)).length = 8 := by
      rw [List.length_drop]
      omega
    rw [toNat_bigEndian_mod]
    conv_lhs => rw [← List.take_append_drop (digits.length - 8) digits]
    exact spelled_mod_word _ hrest

end Words

section Reads

variable {data : Bytes} {index width : Nat}

/-- A read that lies inside the buffer gives what is there. -/
lemma sliceAt_within (h : index + width ≤ data.length) :
    Bytes.sliceAt data index width = .ok ((data.drop index).take width) := by
  unfold Bytes.sliceAt Bytes.require
  rw [if_neg (Nat.not_lt.mpr h)]

/-- A read that leaves the buffer tells how long the buffer would have to be. -/
lemma sliceAt_outside (h : data.length < index + width) :
    Bytes.sliceAt data index width = .error (.tooShort (index + width) data.length) := by
  unfold Bytes.sliceAt Bytes.require
  rw [if_pos h]

lemma bigEndianAt_within (h : index + width ≤ data.length) :
    Bytes.bigEndianAt data index width = .ok (Bytes.bigEndian ((data.drop index).take width)) := by
  unfold Bytes.bigEndianAt
  rw [sliceAt_within h]

lemma bigEndianAt_outside (h : data.length < index + width) :
    Bytes.bigEndianAt data index width = .error (.tooShort (index + width) data.length) := by
  unfold Bytes.bigEndianAt
  rw [sliceAt_outside h]

lemma bigEndianAt_ok_iff {word : UInt64} :
    Bytes.bigEndianAt data index width = .ok word ↔
      index + width ≤ data.length ∧ word = Bytes.bigEndian ((data.drop index).take width) := by
  by_cases hwithin : index + width ≤ data.length
  · rw [bigEndianAt_within hwithin]
    exact ⟨fun h => ⟨hwithin, (Except.ok.inj h).symm⟩, fun h => congrArg Except.ok h.2.symm⟩
  · rw [bigEndianAt_outside (Nat.not_le.mp hwithin)]
    exact iff_of_false nofun fun h => hwithin h.1

/-- A numeral is read back wherever it stands. -/
lemma bigEndianAt_numeral (before after : Bytes) {value : Nat} (hwidth : width ≤ 8)
    (h : value < 256 ^ width) :
    ∃ word, Bytes.bigEndianAt (before ++ numeral width value ++ after) before.length width = .ok word ∧
      word.toNat = value := by
  have hlength := numeral_length width value
  have hcut : ((before ++ numeral width value ++ after).drop before.length).take width =
      numeral width value := by
    rw [List.append_assoc, List.drop_left, List.take_left' hlength]
  refine ⟨Bytes.bigEndian (numeral width value), bigEndianAt_ok_iff.mpr ⟨?_, by rw [hcut]⟩, ?_⟩
  · simp only [List.length_append, hlength]
    omega
  · rw [toNat_bigEndian _ (by omega), spelled_numeral h]

end Reads

/-- Which reads of a number succeed, and what they give. One that does not lie inside the buffer fails and
tells the length it needs. The word that is read is the number that the bytes spell modulo `2 ^ 64`: that
number itself if there are at most eight bytes, and the one that the last eight spell if there are more. A
numeral of at most eight digits is read back at any position of any buffer. -/
theorem numbers_read_exactly (data : Bytes) (index width : Nat) :
    ((∃ word, Bytes.bigEndianAt data index width = .ok word) ↔ index + width ≤ data.length) ∧
      (data.length < index + width →
        Bytes.bigEndianAt data index width = .error (.tooShort (index + width) data.length)) ∧
      (∀ word, Bytes.bigEndianAt data index width = .ok word →
        word.toNat = spelled ((data.drop index).take width) % 2 ^ 64 ∧
          (width ≤ 8 → word.toNat = spelled ((data.drop index).take width)) ∧
          (8 ≤ width → word.toNat = spelled ((data.drop (index + (width - 8))).take 8))) ∧
      ∀ before after value, width ≤ 8 → value < 256 ^ width → ∃ word,
        Bytes.bigEndianAt (before ++ numeral width value ++ after) before.length width = .ok word ∧
          word.toNat = value := by
  refine ⟨⟨?_, fun h => ⟨_, bigEndianAt_within h⟩⟩, bigEndianAt_outside, ?_,
    fun before after value => bigEndianAt_numeral before after⟩
  · rintro ⟨word, hword⟩
    exact (bigEndianAt_ok_iff.mp hword).1
  · intro word hword
    obtain ⟨hwithin, rfl⟩ := bigEndianAt_ok_iff.mp hword
    have hlength : ((data.drop index).take width).length = width := by
      rw [List.length_take, List.length_drop]
      omega
    refine ⟨toNat_bigEndian_mod _, fun h => toNat_bigEndian _ (by omega), fun h => ?_⟩
    rw [toNat_bigEndian_drop, hlength, List.drop_take, List.drop_drop]
    have hkept : width - (width - 8) = 8 := by omega
    rw [hkept]

/-- Of nine bytes behind a first one the oldest is lost, and one byte more is not there. -/
theorem ninth_byte_lost :
    (∃ word, Bytes.bigEndianAt [0x55, 0x80, 0, 0, 0, 0, 0, 0, 0, 0xff] 1 9 = .ok word ∧ word.toNat = 0xff) ∧
      Bytes.bigEndianAt [0x55, 0x80] 1 2 = .error (.tooShort 3 2) ∧
      ∃ word, Bytes.bigEndianAt [0x55, 0x01, 0x02, 0x66] 1 2 = .ok word ∧ word.toNat = 0x0102 := by
  obtain ⟨hread, -, hvalue, -⟩ := numbers_read_exactly [0x55, 0x80, 0, 0, 0, 0, 0, 0, 0, 0xff] 1 9
  obtain ⟨-, hshort, -, -⟩ := numbers_read_exactly [0x55, 0x80] 1 2
  obtain ⟨-, -, -, hback⟩ := numbers_read_exactly [] 0 2
  obtain ⟨word, hword⟩ := hread.mpr (by decide)
  exact ⟨⟨word, hword, (hvalue word hword).2.2 (by decide)⟩, hshort (by decide),
    hback [0x55] [0x66] 0x0102 (by decide) (by decide)⟩

end NfcStack.Proofs
