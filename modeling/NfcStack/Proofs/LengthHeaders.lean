import NfcStack.LengthPrefixed
import NfcStack.Proofs.Numerals

/-!
# Length headers

A header declares a length in one of five forms: one byte below `0x80`, or a lead that announces one to
four length bytes. Leading zeros are allowed. A buffer is read exactly if it is a header with as many
bytes behind it as the header declares.
-/

namespace NfcStack.Proofs
open LengthPrefixed

section Headers

/-- The lead of a header with so many length bytes. -/
def leadOf (count : Nat) : UInt8 := shortLimit + UInt8.ofNat count

/-- A header declares a length. -/
inductive Declares : Bytes → Nat → Prop where
  | short (lead : UInt8) (h : lead < shortLimit) : Declares [lead] lead.toNat
  | long (digits : Bytes) (hmin : 1 ≤ digits.length) (hmax : digits.length ≤ 4) :
      Declares (leadOf digits.length :: digits) (spelled digits)

lemma extraBytes_leadOf {count : Nat} (hmin : 1 ≤ count) (hmax : count ≤ 4) :
    extraBytes? (leadOf count) = some count := by
  have hcases : count = 1 ∨ count = 2 ∨ count = 3 ∨ count = 4 := by omega
  rcases hcases with rfl | rfl | rfl | rfl
  · rfl
  · rfl
  · rfl
  · rfl

/-- Every other lead that is not short is refused. -/
lemma extraBytes_cases {lead : UInt8} {extra : Nat} (h : extraBytes? lead = some extra) :
    (lead < shortLimit ∧ extra = 0) ∨ (1 ≤ extra ∧ extra ≤ 4 ∧ lead = leadOf extra) := by
  unfold extraBytes? at h
  split at h
  · next hshort => exact .inl ⟨hshort, (Option.some.inj h).symm⟩
  · split at h
    · next hlong =>
      obtain ⟨hlow, hhigh⟩ := hlong
      have hextra : lead.toNat - 0x80 = extra := Option.some.inj h
      have hlow' : 0x81 ≤ lead.toNat := hlow
      have hhigh' : lead.toNat ≤ 0x84 := hhigh
      refine .inr ⟨by omega, by omega, ?_⟩
      have hlead : lead = UInt8.ofNat lead.toNat := (UInt8.ofNat_toNat).symm
      have hcases : lead.toNat = 0x81 ∨ lead.toNat = 0x82 ∨ lead.toNat = 0x83 ∨ lead.toNat = 0x84 := by
        omega
      -- The conversion back from numbers is computed, so it takes the four leads one by one.
      rw [hlead, ← hextra]
      rcases hcases with hvalue | hvalue | hvalue | hvalue <;> rw [hvalue] <;> rfl
    · exact absurd h nofun

lemma declared_short (lead : UInt8) (rest : Bytes) : declared? lead rest 0 = some lead.toNat := rfl

lemma declared_long (lead : UInt8) (rest : Bytes) {extra : Nat} (hmin : 1 ≤ extra)
    (hmax : extra ≤ 4) : declared? lead rest extra =
      if rest.length < extra then none else some (spelled (rest.take extra)) := by
  unfold declared?
  rw [if_neg (by omega : ¬extra = 0)]
  by_cases hlt : rest.length < extra
  · rw [if_pos hlt, bigEndianAt_outside (by omega)]
  · have htake : (rest.take extra).length ≤ 8 := by
      rw [List.length_take]
      omega
    rw [if_neg hlt, bigEndianAt_within (by omega)]
    exact congrArg some (toNat_bigEndian _ htake)

lemma decode_short (lead : UInt8) (h : lead < shortLimit) (value : Bytes) :
    decode (lead :: value) =
      if lead.toNat = value.length then .ok value
      else .error (.mismatch lead.toNat value.length) := by
  have hextra : extraBytes? lead = some 0 := if_pos h
  unfold decode
  simp only [hextra, declared_short, List.drop_zero]

lemma decode_long (digits value : Bytes) (hmin : 1 ≤ digits.length) (hmax : digits.length ≤ 4) :
    decode (leadOf digits.length :: (digits ++ value)) =
      if spelled digits = value.length then .ok value
      else .error (.mismatch (spelled digits) value.length) := by
  have hlong : ¬(digits ++ value).length < digits.length := by
    rw [List.length_append]
    omega
  unfold decode
  simp only [extraBytes_leadOf hmin hmax, declared_long _ _ hmin hmax, if_neg hlong, List.take_left,
    List.drop_left]

/-- A header is read wherever it stands, whatever follows. -/
lemma decode_declares {header : Bytes} {length : Nat} (h : Declares header length) (value : Bytes) :
    decode (header ++ value) =
      if length = value.length then .ok value else .error (.mismatch length value.length) := by
  cases h with
  | short lead hshort => exact decode_short lead hshort value
  | long digits hmin hmax => exact decode_long digits value hmin hmax

/-- What a value is read from behind a lead byte that calls for more of the length. -/
lemma declares_of_decode_long {lead : UInt8} {rest value : Bytes} {extra : Nat}
    (hextra : extraBytes? lead = some extra) (hmin : 1 ≤ extra) (hmax : extra ≤ 4)
    (hlead : lead = leadOf extra) (h : decode (lead :: rest) = .ok value) :
    ∃ header, Declares header value.length ∧ lead :: rest = header ++ value := by
  by_cases hlt : rest.length < extra
  · unfold decode at h
    simp only [hextra, declared_long lead rest hmin hmax, if_pos hlt] at h
    exact absurd h nofun
  · have htake : (rest.take extra).length = extra := by
      rw [List.length_take]
      omega
    have hsplit : lead :: rest =
        leadOf (rest.take extra).length :: (rest.take extra ++ rest.drop extra) := by
      rw [htake, List.take_append_drop, hlead]
    rw [hsplit, decode_long _ _ (by omega) (by omega)] at h
    split at h
    · next hlength =>
      have hvalue : rest.drop extra = value := Except.ok.inj h
      rw [hvalue] at hlength hsplit
      refine ⟨leadOf (rest.take extra).length :: rest.take extra, ?_, hsplit⟩
      rw [← hlength]
      exact .long _ (by omega) (by omega)
    · exact absurd h nofun

lemma declares_of_decode {buffer value : Bytes} (h : decode buffer = .ok value) :
    ∃ header, Declares header value.length ∧ buffer = header ++ value := by
  cases buffer with
  | nil => exact absurd h nofun
  | cons lead rest =>
    cases hextra : extraBytes? lead with
    | none =>
      unfold decode at h
      simp only [hextra] at h
      exact absurd h nofun
    | some extra =>
      rcases extraBytes_cases hextra with ⟨hshort, -⟩ | ⟨hmin, hmax, hlead⟩
      · rw [decode_short lead hshort] at h
        split at h
        · next hlength =>
          obtain rfl := Except.ok.inj h
          refine ⟨[lead], ?_, rfl⟩
          rw [← hlength]
          exact .short lead hshort
        · exact absurd h nofun
      · exact declares_of_decode_long hextra hmin hmax hlead h

/-- A buffer is read as a value exactly if it is a header that declares the value's length, with the
value behind it. -/
theorem decode_ok_iff (buffer value : Bytes) :
    decode buffer = .ok value ↔ ∃ header, Declares header value.length ∧ buffer = header ++ value := by
  constructor
  · exact declares_of_decode
  · rintro ⟨header, hdeclares, rfl⟩
    rw [decode_declares hdeclares, if_pos rfl]

lemma leadOf_ne_short {lead : UInt8} (h : lead < shortLimit) {count : Nat} (hmin : 1 ≤ count)
    (hmax : count ≤ 4) : lead ≠ leadOf count := by
  rintro rfl
  have hextra : extraBytes? (leadOf count) = some 0 := if_pos h
  rw [extraBytes_leadOf hmin hmax] at hextra
  have hzero : count = 0 := Option.some.inj hextra
  omega

/-- A header is known from its first bytes: two of them that begin one buffer are the same. -/
theorem Declares.unique {header other rest rest' : Bytes} {length length' : Nat}
    (h : Declares header length) (h' : Declares other length')
    (heq : header ++ rest <+: other ++ rest') : header = other ∧ length = length' := by
  cases h with
  | short lead hshort =>
    cases h' with
    | short lead' hshort' =>
      obtain ⟨rfl, -⟩ := List.cons_prefix_cons.mp heq
      exact ⟨rfl, rfl⟩
    | long digits' hmin' hmax' =>
      obtain ⟨hlead, -⟩ := List.cons_prefix_cons.mp heq
      exact absurd hlead (leadOf_ne_short hshort hmin' hmax')
  | long digits hmin hmax =>
    cases h' with
    | short lead' hshort' =>
      obtain ⟨hlead, -⟩ := List.cons_prefix_cons.mp heq
      exact absurd hlead.symm (leadOf_ne_short hshort' hmin hmax)
    | long digits' hmin' hmax' =>
      obtain ⟨hlead, hdigits⟩ := List.cons_prefix_cons.mp heq
      have hcount : digits.length = digits'.length := by
        have hextra := extraBytes_leadOf hmin hmax
        rw [hlead, extraBytes_leadOf hmin' hmax'] at hextra
        exact (Option.some.inj hextra).symm
      obtain ⟨behind, hbehind⟩ := hdigits
      have hwhole : digits ++ (rest ++ behind) = digits' ++ rest' :=
        (List.append_assoc _ _ _).symm.trans hbehind
      obtain ⟨rfl, -⟩ := List.append_inj hwhole hcount
      exact ⟨rfl, rfl⟩

end Headers

section Encoding

lemma lengthBytes_eq_numeral (length : Nat) : lengthBytes length = numeral 4 length := by
  simp only [numeral, Nat.div_div_eq_div_mul, List.nil_append, List.cons_append]
  rfl

lemma spelled_lengthBytes (length : Nat) (h : length < 2 ^ 32) :
    spelled (lengthBytes length) = length := by
  rw [lengthBytes_eq_numeral]
  exact spelled_numeral h

/-- The shortest header of a length declares it. -/
lemma header_declares (length : Nat) (h : length < 2 ^ 32) :
    Declares (LengthPrefixed.header length) length := by
  unfold LengthPrefixed.header
  by_cases hshort : length < shortLimit.toNat
  · rw [if_pos hshort]
    have hlimit : length < 0x80 := hshort
    have hvalue : (UInt8.ofNat length).toNat = length := by
      rw [UInt8.toNat_ofNat']
      omega
    have hlead : UInt8.ofNat length < shortLimit := by
      rw [UInt8.lt_iff_toNat_lt, hvalue]
      exact hshort
    have hdeclares := Declares.short (UInt8.ofNat length) hlead
    rw [hvalue] at hdeclares
    exact hdeclares
  · rw [if_neg hshort]
    have hlimit : 0x80 ≤ length := Nat.not_lt.mp hshort
    have hspelled : spelled ((lengthBytes length).dropWhile (· == 0)) = length := by
      rw [spelled_dropWhile, spelled_lengthBytes length h]
    have hmax : ((lengthBytes length).dropWhile (· == 0)).length ≤ 4 :=
      (List.dropWhile_suffix _).length_le
    have hmin : 1 ≤ ((lengthBytes length).dropWhile (· == 0)).length := by
      refine List.length_pos_iff.mpr fun hnil => ?_
      rw [hnil] at hspelled
      have hzero : 0 = length := hspelled
      omega
    have hdeclares := Declares.long _ hmin hmax
    rw [hspelled] at hdeclares
    exact hdeclares

/-- What is written is read again. -/
theorem decode_encode (value : Bytes) (h : value.length < 2 ^ 32) :
    decode (encode value) = .ok value :=
  (decode_ok_iff _ _).mpr ⟨_, header_declares value.length h, rfl⟩

end Encoding

end NfcStack.Proofs
