import NfcStack.Proofs.LengthHeaders

/-!
# The grammar of length-prefixed values

A buffer is read exactly if it has one of five forms, and every other buffer is refused for one of four
reasons. Of all the forms of a value the one that is written is the shortest, and no other is as short.
-/

namespace NfcStack.Proofs
open LengthPrefixed

section Refusals

/-- The reason why a buffer is refused. -/
inductive Refused : Bytes → Fault → Prop where
  | empty : Refused [] .empty
  | unsupported (lead : UInt8) (rest : Bytes) (h : lead = 0x80 ∨ 0x84 < lead) :
    Refused (lead :: rest) (.unsupported lead)
  /-- Not all of the length bytes are there. -/
  | truncated (count : Nat) (rest : Bytes) (hmin : 1 ≤ count) (hmax : count ≤ 4)
    (h : rest.length < count) : Refused (leadOf count :: rest) (.truncated (leadOf count))
  /-- More or fewer bytes follow than the header declares. -/
  | mismatch (header value : Bytes) (length : Nat) (hdeclares : Declares header length)
    (h : length ≠ value.length) : Refused (header ++ value) (.mismatch length value.length)

lemma extraBytes_eq_none_iff (lead : UInt8) :
    extraBytes? lead = none ↔ lead = 0x80 ∨ 0x84 < lead := by
  unfold extraBytes? shortLimit
  simp only [UInt8.lt_iff_toNat_lt, UInt8.le_iff_toNat_le, ← UInt8.toNat_inj, UInt8.reduceToNat]
  split
  · simp
    omega
  · split
    · simp
      omega
    · simp
      omega

lemma decode_refused {buffer : Bytes} {fault : Fault} (h : Refused buffer fault) :
    decode buffer = .error fault := by
  cases h with
  | empty => rfl
  | unsupported lead rest h =>
    unfold decode
    simp only [(extraBytes_eq_none_iff lead).mpr h]
  | truncated count rest hmin hmax h =>
    unfold decode
    simp only [extraBytes_leadOf hmin hmax, declared_long _ _ hmin hmax, if_pos h]
  | mismatch header value length hdeclares h =>
    rw [decode_declares hdeclares, if_neg h]

/-- A header with whatever follows is read or refused. -/
lemma read_or_mismatched {header : Bytes} {length : Nat} (h : Declares header length) (value : Bytes) :
    decode (header ++ value) = .ok value ∨ ∃ fault, Refused (header ++ value) fault := by
  by_cases hlength : length = value.length
  · left
    rw [decode_declares h, if_pos hlength]
  · right
    exact ⟨_, .mismatch header value length h hlength⟩

lemma read_or_refused (buffer : Bytes) :
    (∃ value, decode buffer = .ok value) ∨ ∃ fault, Refused buffer fault := by
  cases buffer with
  | nil => exact .inr ⟨_, .empty⟩
  | cons lead rest =>
    cases hextra : extraBytes? lead with
    | none => exact .inr ⟨_, .unsupported lead rest ((extraBytes_eq_none_iff lead).mp hextra)⟩
    | some extra =>
      rcases extraBytes_cases hextra with ⟨hshort, -⟩ | ⟨hmin, hmax, rfl⟩
      · exact (read_or_mismatched (.short lead hshort) rest).imp_left fun h => ⟨rest, h⟩
      · by_cases htruncated : rest.length < extra
        · exact .inr ⟨_, .truncated extra rest hmin hmax htruncated⟩
        · have hcount : (rest.take extra).length = extra := by
            rw [List.length_take]
            omega
          have hdeclares : Declares (leadOf extra :: rest.take extra) (spelled (rest.take extra)) := by
            have hlong := Declares.long (rest.take extra) (by omega) (by omega)
            rwa [hcount] at hlong
          have hread := read_or_mismatched hdeclares (rest.drop extra)
          rw [List.cons_append, List.take_append_drop] at hread
          exact hread.imp_left fun h => ⟨_, h⟩

lemma decode_error_iff (buffer : Bytes) (fault : Fault) :
    decode buffer = .error fault ↔ Refused buffer fault := by
  constructor
  · intro h
    rcases read_or_refused buffer with ⟨value, hvalue⟩ | ⟨other, hother⟩
    · rw [h] at hvalue
      exact absurd hvalue nofun
    · rw [decode_refused hother] at h
      rwa [← Except.error.inj h]
  · exact decode_refused

/-- Where a length is read, the whole header is there, so that the value begins inside the buffer. -/
lemma declared_inside {lead : UInt8} {rest : Bytes} {extra length : Nat}
    (hextra : extraBytes? lead = some extra) (h : declared? lead rest extra = some length) :
    extra ≤ rest.length := by
  rcases extraBytes_cases hextra with ⟨-, rfl⟩ | ⟨hmin, hmax, -⟩
  · exact Nat.zero_le _
  · rw [declared_long lead rest hmin hmax] at h
    by_contra hout
    rw [if_pos (Nat.not_le.mp hout)] at h
    exact absurd h nofun

lemma decodeOrEmpty_refused {buffer : Bytes} {fault : Fault} (h : decode buffer = .error fault) :
    decodeOrEmpty buffer = [] := by
  unfold decodeOrEmpty
  rw [h]

lemma decode_forms (buffer value : Bytes) :
    decode buffer = .ok value ↔
      (∃ lead : UInt8, lead < 0x80 ∧ lead.toNat = value.length ∧ buffer = [lead] ++ value) ∨
      ∃ digits : Bytes, 1 ≤ digits.length ∧ digits.length ≤ 4 ∧ spelled digits = value.length ∧
        buffer = [0x80 + UInt8.ofNat digits.length] ++ digits ++ value := by
  rw [decode_ok_iff]
  constructor
  · rintro ⟨header, hdeclares, rfl⟩
    generalize hlength : value.length = length at hdeclares
    cases hdeclares with
    | short lead hshort => exact .inl ⟨lead, hshort, hlength.symm ▸ rfl, rfl⟩
    | long digits hmin hmax => exact .inr ⟨digits, hmin, hmax, rfl, rfl⟩
  · rintro (⟨lead, hshort, hlength, rfl⟩ | ⟨digits, hmin, hmax, hlength, rfl⟩)
    · rw [← hlength]
      exact ⟨[lead], .short lead hshort, rfl⟩
    · rw [← hlength]
      exact ⟨_, .long digits hmin hmax, rfl⟩

end Refusals

/-- Which buffers are read as a value, and for which reason each of the others is refused. A refused buffer
is taken for an empty value. Wherever a length is read, all of its bytes are inside the buffer. -/
theorem length_grammar (buffer : Bytes) :
    (∀ value, decode buffer = .ok value ↔
      (∃ lead : UInt8, lead < 0x80 ∧ lead.toNat = value.length ∧ buffer = [lead] ++ value) ∨
      ∃ digits : Bytes, 1 ≤ digits.length ∧ digits.length ≤ 4 ∧ spelled digits = value.length ∧
        buffer = [0x80 + UInt8.ofNat digits.length] ++ digits ++ value) ∧
      (∀ fault, decode buffer = .error fault ↔ Refused buffer fault) ∧
      (∀ fault, decode buffer = .error fault → decodeOrEmpty buffer = []) ∧
      ∀ lead rest extra length, buffer = lead :: rest → extraBytes? lead = some extra →
        declared? lead rest extra = some length → extra + 1 ≤ buffer.length := by
  refine ⟨decode_forms buffer, decode_error_iff buffer, fun _ => decodeOrEmpty_refused, ?_⟩
  intro lead rest extra length hbuffer hextra hdeclared
  have hinside := declared_inside hextra hdeclared
  rw [hbuffer, List.length_cons]
  omega

/-- A header of two length bytes, the first of them zero, is read whole; with one byte more behind it the
buffer is refused. -/
theorem padded_header_read :
    decode [0x82, 0x00, 0x01, 0x55] = .ok [0x55] ∧ 2 + 1 ≤ [0x82, 0x00, 0x01, (0x55 : UInt8)].length ∧
      decode [0x82, 0x00, 0x01, 0x55, 0x66] = .error (.mismatch 1 2) ∧
      decodeOrEmpty [0x82, 0x00, 0x01, 0x55, 0x66] = [] := by
  obtain ⟨hread, -, -, hinside⟩ := length_grammar [0x82, 0x00, 0x01, 0x55]
  obtain ⟨-, hrefused, hempty, -⟩ := length_grammar [0x82, 0x00, 0x01, 0x55, 0x66]
  have hmismatch : Refused [0x82, 0x00, 0x01, 0x55, 0x66] (.mismatch 1 2) :=
    .mismatch [0x82, 0x00, 0x01] [0x55, 0x66] 1 (.long [0x00, 0x01] (by decide) (by decide)) (by decide)
  have herror := (hrefused _).mpr hmismatch
  refine ⟨(hread [0x55]).mpr (.inr ⟨[0x00, 0x01], by decide, by decide, rfl, rfl⟩), ?_, herror,
    hempty _ herror⟩
  exact hinside 0x82 [0x00, 0x01, 0x55] 2 1 rfl rfl rfl

section Shortest

lemma dropWhile_zeros (count : Nat) (digits : Bytes) :
    (List.replicate count 0 ++ digits).dropWhile (· == 0) = digits.dropWhile (· == 0) := by
  induction count with
  | zero => rfl
  | succ count ih =>
    rw [List.replicate_succ, List.cons_append, ← ih]
    rfl

lemma spelled_lt_word {digits : Bytes} (h : digits.length ≤ 4) : spelled digits < 2 ^ 32 := by
  have hpow : 256 ^ digits.length ≤ 256 ^ 4 := Nat.pow_le_pow_right (by omega) h
  have hspelled := spelled_lt digits
  omega

/-- The length bytes of a number are its digits behind zeros. -/
lemma lengthBytes_spelled {digits : Bytes} (h : digits.length ≤ 4) :
    lengthBytes (spelled digits) = List.replicate (4 - digits.length) 0 ++ digits := by
  apply spelled_inj
  · simp [lengthBytes]
    omega
  · rw [spelled_lengthBytes _ (spelled_lt_word h), spelled_zeros]

/-- Of the headers that declare a length the one that is written is the shortest, and no other is as
short. -/
lemma header_shortest {header : Bytes} {length : Nat} (h : Declares header length) :
    (LengthPrefixed.header length).length ≤ header.length ∧
      ((LengthPrefixed.header length).length = header.length →
        header = LengthPrefixed.header length) := by
  cases h with
  | short lead hshort =>
    have hlead : LengthPrefixed.header lead.toNat = [lead] := by
      unfold LengthPrefixed.header
      rw [if_pos (UInt8.lt_iff_toNat_lt.mp hshort), UInt8.ofNat_toNat]
    rw [hlead]
    exact ⟨Nat.le_refl _, fun _ => rfl⟩
  | long digits hmin hmax =>
    unfold LengthPrefixed.header
    by_cases hshort : spelled digits < shortLimit.toNat
    · -- A length that fits into the lead needs none of the digits.
      rw [if_pos hshort]
      simp only [List.length_cons, List.length_nil]
      constructor
      · omega
      · intro hlength
        omega
    · rw [if_neg hshort, lengthBytes_spelled hmax, dropWhile_zeros]
      have hsuffix : digits.dropWhile (· == 0) <:+ digits := List.dropWhile_suffix _
      have hle := hsuffix.length_le
      simp only [List.length_cons]
      constructor
      · omega
      · intro hlength
        rw [hsuffix.eq_of_length (by omega)]
        rfl

lemma Declares.lt {header : Bytes} {length : Nat} (h : Declares header length) : length < 2 ^ 32 := by
  cases h with
  | short lead hshort =>
    have hlead := lead.toNat_lt
    omega
  | long digits hmin hmax => exact spelled_lt_word hmax

/-- No buffer that is read as a value is shorter than what is written for it, and no other is as short. -/
lemma encode_shortest {buffer value : Bytes} (h : decode buffer = .ok value) :
    (encode value).length ≤ buffer.length ∧
      ((encode value).length = buffer.length → buffer = encode value) := by
  obtain ⟨header, hdeclares, rfl⟩ := (decode_ok_iff buffer value).mp h
  obtain ⟨hle, hunique⟩ := header_shortest hdeclares
  unfold encode
  simp only [List.length_append]
  constructor
  · omega
  · intro hlength
    rw [← hunique (by omega)]

end Shortest

/-- A buffer whose header is written anew. -/
def renew (buffer : Bytes) : Except Fault Bytes := encode <$> decode buffer

/-- What is written is read again, as long as its length fits into a header, and no buffer that is read as a
value is shorter than what is written for it, nor is another as short. So a buffer that is renewed is the one
shortest buffer that is read as the same value, and renewing it once more leaves it as it is. -/
theorem encode_canonical :
    (∀ value : Bytes, value.length < 2 ^ 32 → decode (encode value) = .ok value) ∧
      (∀ buffer value : Bytes, decode buffer = .ok value →
        (encode value).length ≤ buffer.length ∧
          ((encode value).length = buffer.length → buffer = encode value)) ∧
      ∀ buffer value : Bytes, decode buffer = .ok value →
        ∃ renewed, renew buffer = .ok renewed ∧ decode renewed = .ok value ∧
          renew renewed = .ok renewed ∧
          ∀ other, decode other = .ok value → other ≠ renewed → renewed.length < other.length := by
  refine ⟨decode_encode, fun _ _ => encode_shortest, ?_⟩
  intro buffer value h
  obtain ⟨header, hdeclares, -⟩ := (decode_ok_iff buffer value).mp h
  have hread : decode (encode value) = .ok value := decode_encode value hdeclares.lt
  refine ⟨encode value, ?_, hread, ?_, ?_⟩
  · unfold renew
    rw [h]
    rfl
  · unfold renew
    rw [hread]
    rfl
  · intro other hother hne
    obtain ⟨hle, hunique⟩ := encode_shortest hother
    exact Nat.lt_of_le_of_ne hle fun hlength => hne (hunique hlength)

/-- A value behind a padded header is written behind a shorter one. -/
theorem padded_header_renewed :
    decode (encode [0x55]) = .ok [0x55] ∧ (encode [0x55]).length ≤ [0x81, 0x01, (0x55 : UInt8)].length ∧
      [0x01, 0x55] = encode [0x55] ∧
      ∃ renewed, renew [0x82, 0x00, 0x01, 0x55] = .ok renewed ∧ decode renewed = .ok [0x55] ∧
        renew renewed = .ok renewed ∧ renewed.length < [0x81, 0x01, (0x55 : UInt8)].length := by
  obtain ⟨hwritten, hshortest, hrenew⟩ := encode_canonical
  have hlonger : decode [0x81, 0x01, 0x55] = .ok [0x55] :=
    decode_declares (.long [0x01] (by decide) (by decide)) [0x55]
  have hpadded : decode [0x82, 0x00, 0x01, 0x55] = .ok [0x55] :=
    decode_declares (.long [0x00, 0x01] (by decide) (by decide)) [0x55]
  obtain ⟨hle, -⟩ := hshortest _ _ hlonger
  obtain ⟨-, hunique⟩ := hshortest [0x01, 0x55] [0x55] rfl
  obtain ⟨renewed, hrenewed, hread, hagain, hothers⟩ := hrenew _ _ hpadded
  refine ⟨hwritten [0x55] (by decide), hle, hunique (by decide), renewed, hrenewed, hread, hagain, ?_⟩
  apply hothers _ hlonger
  rintro rfl
  exact absurd (Except.ok.inj hrenewed) (by decide)

end NfcStack.Proofs
