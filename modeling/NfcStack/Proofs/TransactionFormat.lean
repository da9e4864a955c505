import Mathlib.Data.List.Infix
import NfcStack.Proofs.LengthHeaders
import NfcStack.Transaction

/-!
# The format of transaction payloads

Which payloads carry an identifier, and which carry data. A payload that is cut short or goes on too
long is never read as other data than was written: it is read without data.
-/

namespace NfcStack.Proofs
open Transaction

section DataPart

lemma decodeOrEmpty_iff {buffer data : Bytes} (hdata : data ≠ []) :
    LengthPrefixed.decodeOrEmpty buffer = data ↔ LengthPrefixed.decode buffer = .ok data := by
  unfold LengthPrefixed.decodeOrEmpty
  cases LengthPrefixed.decode buffer with
  | ok value => simp
  | error fault => simpa using hdata.symm

lemma dataPart_cons (tag : UInt8) (rest : Bytes) :
    dataPart (tag :: rest) =
      if tag == dataTag && !rest.isEmpty then LengthPrefixed.decodeOrEmpty rest else [] := rfl

/-- Data is read exactly from its tag with a header and the data behind it. -/
lemma dataPart_iff {part data : Bytes} (hdata : data ≠ []) :
    dataPart part = data ↔
      ∃ header, Declares header data.length ∧ part = dataTag :: (header ++ data) := by
  cases part with
  | nil =>
    constructor
    · intro h
      exact absurd h.symm hdata
    · rintro ⟨header, -, h⟩
      exact absurd h nofun
  | cons tag rest =>
    rw [dataPart_cons]
    constructor
    · intro h
      split at h
      · next hcond =>
        obtain ⟨htag, -⟩ := Bool.and_eq_true_iff.mp hcond
        obtain ⟨header, hdeclares, rfl⟩ := (decode_ok_iff _ _).mp ((decodeOrEmpty_iff hdata).mp h)
        exact ⟨header, hdeclares, by rw [eq_of_beq htag]⟩
      · exact absurd h.symm hdata
    · rintro ⟨header, hdeclares, h⟩
      obtain ⟨rfl, rfl⟩ := List.cons.inj h
      have hfilled : (header ++ data).isEmpty = false := by
        rw [List.isEmpty_eq_false_iff]
        exact List.append_ne_nil_of_right_ne_nil _ hdata
      rw [beq_self_eq_true, hfilled]
      refine (if_pos rfl).trans ?_
      exact (decodeOrEmpty_iff hdata).mpr ((decode_ok_iff _ _).mpr ⟨header, hdeclares, rfl⟩)

/-- The part of a payload that carries data. -/
def written (data : Bytes) : Bytes := dataTag :: LengthPrefixed.encode data

variable {data : Bytes} (hsize : data.length < 2 ^ 32)

include hsize

lemma dataPart_written : dataPart (written data) = data := by
  have hfilled : (LengthPrefixed.encode data).isEmpty = false := by
    unfold LengthPrefixed.encode LengthPrefixed.header
    split <;> rfl
  unfold written
  rw [dataPart_cons, beq_self_eq_true, hfilled]
  unfold LengthPrefixed.decodeOrEmpty
  simp only [decode_encode data hsize, Bool.not_false, Bool.and_self, if_true]

/-- A part that begins with all of another part's header has as much data. -/
lemma dataPart_of_prefix {part more : Bytes} (h : part <+: written data ++ more)
    (hfilled : dataPart part ≠ []) : part.length = (written data).length := by
  obtain ⟨header, hdeclares, hpart⟩ := (dataPart_iff hfilled).mp rfl
  rw [hpart] at h ⊢
  obtain ⟨-, hrest⟩ := List.cons_prefix_cons.mp h
  have hbegin : header ++ dataPart part <+: LengthPrefixed.header data.length ++ (data ++ more) := by
    rw [← List.append_assoc]
    exact hrest
  obtain ⟨rfl, hlength⟩ := hdeclares.unique (header_declares data.length hsize) hbegin
  unfold written LengthPrefixed.encode
  rw [List.length_cons, List.length_cons, List.length_append, List.length_append, hlength]

lemma dataPart_truncated {part : Bytes} (h : part <+: written data) (hne : part ≠ written data) :
    dataPart part = [] := by
  by_contra hfilled
  have hlength := dataPart_of_prefix hsize (by rw [List.append_nil]; exact h) hfilled
  exact hne (h.eq_of_length hlength)

lemma dataPart_overlong {more : Bytes} (hmore : more ≠ []) :
    dataPart (written data ++ more) = [] := by
  by_contra hfilled
  have hlength := dataPart_of_prefix hsize (List.prefix_refl _) hfilled
  rw [List.length_append] at hlength
  have hpos : 0 < more.length := List.length_pos_iff.mpr hmore
  omega

end DataPart

section Payload

lemma decode_payload {length : UInt8} {body : Bytes}
    (h : 3 < (aidTag :: length :: body).length) :
    decode (aidTag :: length :: body) =
      .ok ⟨body.take length.toNat, dataPart (body.drop length.toNat)⟩ := by
  have hlong : ¬(aidTag :: length :: body).length ≤ minimumLength := Nat.not_le.mpr h
  unfold decode
  rw [if_neg hlong]
  exact if_pos (beq_self_eq_true aidTag)

/-- A payload of more than three bytes that begins with the tag of an identifier. -/
lemma payload_cases {buffer : Bytes} (h : 3 < buffer.length) (htag : buffer[0]? = some aidTag) :
    ∃ length body, buffer = aidTag :: length :: body := by
  match buffer with
  | [] => exact absurd htag nofun
  | [tag] => exact absurd h (by simp)
  | tag :: length :: body =>
    have heq : tag = aidTag := Option.some.inj htag
    exact ⟨length, body, by rw [heq]⟩

/-- Only a payload that is too short or has another tag is refused. -/
lemma decode_fails_iff (buffer : Bytes) :
    (∃ fault, decode buffer = .error fault) ↔ buffer.length ≤ 3 ∨ buffer[0]? ≠ some aidTag := by
  constructor
  · rintro ⟨fault, hfault⟩
    by_contra hsound
    obtain ⟨hlong, htag⟩ := not_or.mp hsound
    obtain ⟨length, body, rfl⟩ := payload_cases (Nat.not_le.mp hlong) (not_not.mp htag)
    rw [decode_payload (Nat.not_le.mp hlong)] at hfault
    exact absurd hfault nofun
  · intro h
    unfold decode
    by_cases hshort : buffer.length ≤ minimumLength
    · rw [if_pos hshort]
      exact ⟨_, rfl⟩
    · rw [if_neg hshort]
      have htag : buffer[0]? ≠ some aidTag := h.resolve_left hshort
      match buffer with
      | [] => exact ⟨_, rfl⟩
      | [tag] => exact ⟨_, rfl⟩
      | tag :: length :: body =>
        have hne : (tag == aidTag) = false := by
          rw [beq_eq_false_iff_ne]
          intro heq
          exact htag (by rw [heq]; rfl)
        dsimp only
        rw [hne]
        exact ⟨_, rfl⟩

lemma toNat_count {count : Nat} (h : count ≤ 255) : (UInt8.ofNat count).toNat = count := by
  rw [UInt8.toNat_ofNat']
  omega

/-- What is read of a payload that is not refused. -/
lemma decode_reads {buffer : Bytes} (h : 3 < buffer.length) (htag : buffer[0] = aidTag) :
    ∃ found, decode buffer = .ok found ∧
      found.aid = (buffer.drop 2).take (min buffer[1].toNat (buffer.length - 2)) ∧
      ∀ data, data ≠ [] → (found.data = data ↔ ∃ header, Declares header data.length ∧
        buffer = [aidTag, UInt8.ofNat found.aid.length] ++ found.aid ++ [dataTag] ++ header ++ data) := by
  have htag' : buffer[0]? = some aidTag :=
    (List.getElem?_eq_getElem (by omega)).trans (congrArg some htag)
  obtain ⟨length, body, rfl⟩ := payload_cases h htag'
  refine ⟨_, decode_payload h, ?_, fun data hdata => ?_⟩
  · change body.take length.toNat = body.take (min length.toNat body.length)
    rw [List.take_eq_take_min]
  · rw [dataPart_iff hdata]
    have hlength := length.toNat_lt
    have hcount : (body.take length.toNat).length = min length.toNat body.length := List.length_take
    constructor
    · rintro ⟨header, hdeclares, hpart⟩
      have hinside : length.toNat < body.length := by
        by_contra hout
        rw [List.drop_eq_nil_of_le (Nat.not_lt.mp hout)] at hpart
        exact absurd hpart nofun
      have hwhole : UInt8.ofNat (body.take length.toNat).length = length := by
        rw [hcount, Nat.min_eq_left (by omega), UInt8.ofNat_toNat]
      refine ⟨header, hdeclares, ?_⟩
      rw [hwhole]
      have hbody := List.take_append_drop length.toNat body
      rw [hpart] at hbody
      simp only [List.cons_append, List.nil_append, List.append_assoc]
      rw [hbody]
    · rintro ⟨header, hdeclares, hbuffer⟩
      refine ⟨header, hdeclares, ?_⟩
      simp only [List.cons_append, List.nil_append, List.append_assoc, List.cons.injEq, true_and]
        at hbuffer
      obtain ⟨hlead, hbody⟩ := hbuffer
      have heq : length.toNat = (body.take length.toNat).length := by
        conv_lhs => rw [hlead]
        exact toNat_count (by omega)
      generalize body.take length.toNat = aid at hbody heq
      rw [heq, hbody, List.drop_left]

/-- The payload of a transaction. -/
def payload (aid data : Bytes) : Bytes :=
  [aidTag, UInt8.ofNat aid.length] ++ aid ++ [dataTag] ++ LengthPrefixed.encode data

lemma payload_eq (aid data : Bytes) :
    payload aid data = aidTag :: UInt8.ofNat aid.length :: (aid ++ written data) := by
  unfold payload written
  simp only [List.cons_append, List.nil_append, List.append_assoc]

variable {aid data : Bytes} (haid : aid.length ≤ 255) (hdata : data.length < 2 ^ 32)

include haid

/-- What is read behind the length of an identifier that is there as a whole. -/
lemma decode_whole {body part : Bytes} (hbody : body = aid ++ part)
    (h : 3 < (aidTag :: UInt8.ofNat aid.length :: body).length) :
    decode (aidTag :: UInt8.ofNat aid.length :: body) = .ok ⟨aid, dataPart part⟩ := by
  rw [decode_payload h, toNat_count haid, hbody, List.take_left, List.drop_left]

include hdata

lemma payload_long (more : Bytes) :
    3 < (aidTag :: UInt8.ofNat aid.length :: (aid ++ (written data ++ more))).length := by
  have hfilled : 0 < (LengthPrefixed.header data.length).length := by
    unfold LengthPrefixed.header
    split
    · exact Nat.one_pos
    · exact Nat.succ_pos _
  unfold written LengthPrefixed.encode
  simp only [List.length_cons, List.length_append]
  omega

/-- What is written is read again. -/
lemma decode_written : decode (payload aid data) = .ok ⟨aid, data⟩ := by
  have hlong := payload_long haid hdata []
  rw [List.append_nil] at hlong
  rw [payload_eq, decode_whole haid rfl hlong, dataPart_written hdata]

/-- A payload that goes on behind its data is read without data. -/
lemma decode_overlong {more : Bytes} (hmore : more ≠ []) :
    decode (payload aid data ++ more) = .ok ⟨aid, []⟩ := by
  have hbody : aid ++ written data ++ more = aid ++ (written data ++ more) := List.append_assoc _ _ _
  have hlong := payload_long haid hdata more
  rw [← hbody] at hlong
  rw [payload_eq, ← dataPart_overlong hdata hmore]
  exact decode_whole haid hbody hlong

/-- A payload that is cut short is read without data, and with as much of the identifier as there is. -/
lemma decode_truncated {cut : Bytes} (hcut : cut <+: payload aid data) (hne : cut ≠ payload aid data)
    (hlong : 3 < cut.length) : ∃ part, part <+: aid ∧ decode cut = .ok ⟨part, []⟩ := by
  rw [payload_eq] at hcut hne
  match cut with
  | [] => exact absurd hlong (by simp)
  | [tag] => exact absurd hlong (by simp)
  | tag :: length :: body =>
    obtain ⟨rfl, hrest⟩ := List.cons_prefix_cons.mp hcut
    obtain ⟨rfl, hbody⟩ := List.cons_prefix_cons.mp hrest
    have htake : body.take aid.length <+: aid := by
      have hpart := hbody.take aid.length
      rw [List.take_left] at hpart
      exact hpart
    have hdrop : body.drop aid.length <+: written data := by
      have hpart := hbody.drop aid.length
      rw [List.drop_left] at hpart
      exact hpart
    have hcutoff : body.drop aid.length ≠ written data := by
      intro heq
      have hsame : body.length = (aid ++ written data).length := by
        have hbehind := congrArg List.length heq
        have hfilled : 0 < (written data).length := Nat.succ_pos _
        rw [List.length_drop] at hbehind
        rw [List.length_append]
        omega
      exact hne (by rw [hbody.eq_of_length hsame])
    -- A cut inside the identifier leaves nothing of the data part, not even its tag.
    refine ⟨body.take aid.length, htake, ?_⟩
    rw [decode_payload hlong, toNat_count haid, dataPart_truncated hdata hdrop hcutoff]

end Payload

/-- Which payloads are refused, what is read of all others, and that a payload is read as it was written
or, when bytes are missing or follow, without data. -/
theorem transaction_format :
    (∀ buffer : Bytes,
      ((∃ fault, decode buffer = .error fault) ↔ buffer.length ≤ 3 ∨ buffer[0]? ≠ some aidTag) ∧
      ∀ (_ : 3 < buffer.length), buffer[0] = aidTag →
        ∃ found, decode buffer = .ok found ∧
          found.aid = (buffer.drop 2).take (min buffer[1].toNat (buffer.length - 2)) ∧
          ∀ data, data ≠ [] → (found.data = data ↔ ∃ header, Declares header data.length ∧
            buffer =
              [aidTag, UInt8.ofNat found.aid.length] ++ found.aid ++ [dataTag] ++ header ++ data)) ∧
    ∀ aid data : Bytes, aid.length ≤ 255 → data.length < 2 ^ 32 →
      decode (payload aid data) = .ok ⟨aid, data⟩ ∧
      (∀ cut, cut <+: payload aid data → cut ≠ payload aid data → 3 < cut.length →
        ∃ part, part <+: aid ∧ decode cut = .ok ⟨part, []⟩) ∧
      ∀ more, more ≠ [] → decode (payload aid data ++ more) = .ok ⟨aid, []⟩ := by
  constructor
  · intro buffer
    exact ⟨decode_fails_iff buffer, fun hlong htag => decode_reads hlong htag⟩
  · intro aid data haid hdata
    refine ⟨decode_written haid hdata, ?_, fun more hmore => decode_overlong haid hdata hmore⟩
    intro cut hcut hne hlong
    exact decode_truncated haid hdata hcut hne hlong

/-- A short payload: what is read of it, of its first five bytes, and with a byte behind it. -/
theorem short_transaction_format :
    (∃ found, decode [0x81, 0x02, 0xa0, 0x00, 0x82, 0x01, 0x07] = .ok found ∧
      found.aid = [0xa0, 0x00]) ∧
    decode (payload [0xa0, 0x00] [0x07]) = .ok ⟨[0xa0, 0x00], [0x07]⟩ ∧
    (∃ part, part <+: [0xa0, 0x00] ∧
      decode ((payload [0xa0, 0x00] [0x07]).take 5) = .ok ⟨part, []⟩) ∧
    decode (payload [0xa0, 0x00] [0x07] ++ [0x00]) = .ok ⟨[0xa0, 0x00], []⟩ := by
  obtain ⟨found, hdecode, haid, -⟩ :=
    (transaction_format.1 [0x81, 0x02, 0xa0, 0x00, 0x82, 0x01, 0x07]).2 (by decide) rfl
  obtain ⟨hwritten, hcut, hmore⟩ := transaction_format.2 [0xa0, 0x00] [0x07] (by decide) (by decide)
  refine ⟨⟨found, hdecode, haid⟩, hwritten, ?_, hmore [0x00] (by decide)⟩
  exact hcut _ (List.take_prefix 5 _) (by decide) (by decide)

end NfcStack.Proofs
