import NfcStack.Bench.Sample
import NfcStack.Proofs.SessionLives

/-!
# Which tags may be formatted

Whether a tag can be formatted goes by the last activation that the session took in since it was last reset,
by a table of the protocols. Only a possible DESFire is asked, for its version.
-/

namespace NfcStack.Proofs

variable {σ : Type}

/-- What the session remembers the kind of its tag by. -/
def kindOf (session : Session) : UInt8 × Signatures := (session.protocol, session.signatures)

def kindBy : Option Activation → UInt8 × Signatures
  | none => (Protocol.unknown, {})
  | some act => (act.protocol, Signatures.ofActivation act)

/-- The session goes by the last activation that it took in since the last reset. -/
lemma Lived.kind {config : Config} {news : List SessionNews} {host : Host} (h : Lived config news host) :
    kindOf host.session = kindBy (lastAccepted news) := by
  have hlast : lastAccepted news = (acceptedSince news).getLast? := rfl
  have hrecord := h.record
  unfold recordBy at hrecord
  rw [hlast]
  split at hrecord
  · next hnone =>
    rw [hnone]
    exact congrArg (fun record => (record.protocol, record.signatures)) hrecord
  · next act hsome =>
    rw [hsome]
    exact congrArg (fun record => (record.protocol, record.signatures)) hrecord

/-- The make of a Type 2 tag, from its answers to passive NFC-A polling. -/
inductive Type2Make (act : Activation) : Prop
  | ultralight (nfcid1 : Bytes) (selRsp : UInt8) (hmode : act.mode = RadioMode.pollA)
      (htech : act.tech = .a (0x44, 0x00) (0x04 :: nfcid1) selRsp) (hselRsp : selRsp = 0x00 ∨ selRsp = 0x04)
  | myDMove (sensRes : UInt8 × UInt8) (second : UInt8) (nfcid1 : Bytes) (selRsp : UInt8)
      (hmode : act.mode = RadioMode.pollA) (htech : act.tech = .a sensRes (0x05 :: second :: nfcid1) selRsp)
      (hsecond : second &&& 0xf0 = 0x30)
  | kovio (sensRes : UInt8 × UInt8) (nfcid1 : Bytes) (selRsp : UInt8) (hmode : act.mode = RadioMode.pollA)
      (htech : act.tech = .a sensRes (0x37 :: nfcid1) selRsp)

/-- A FeliCa Lite, by one of its system codes. -/
def IsFelicaLite (act : Activation) : Prop := ∃ codes, act.protocolParams = .t3t codes ∧ 0x88b4 ∈ codes

/-- A target that answers like a DESFire. -/
def AnswersAsDesfire (act : Activation) : Prop := ∃ nfcid1, act.tech = .a (0x44, 0x03) nfcid1 0x20

/-- A possible DESFire, in three of the four modes of NFC-A. -/
def MayBeDesfire (act : Activation) : Prop :=
  (act.mode = RadioMode.pollA ∨ act.mode = RadioMode.listenA ∨ act.mode = RadioMode.listenAActive) ∧
    AnswersAsDesfire act

/-- The tag has to be asked for its version. -/
def AsksVersion (act : Activation) : Prop := act.protocol = Protocol.isoDep ∧ MayBeDesfire act

/-- The answer to the request for the version of a DESFire. -/
def GivesVersion (answer : Status × Bytes) : Prop :=
  answer.1 = .ok ∧ answer.2.length = 9 ∧ ∃ version, answer.2 = version ++ [0x91, 0xaf]

/-- A tag may be formatted, given the answer to the request for its version. -/
inductive Formattable (answer : Status × Bytes) (act : Activation) : Prop
  | always (h : act.protocol = Protocol.t1t ∨ act.protocol = Protocol.t5t ∨ act.protocol = Protocol.mifare)
  | type2 (h : act.protocol = Protocol.t2t) (hmake : Type2Make act)
  | felica (h : act.protocol = Protocol.t3t) (hlite : IsFelicaLite act)
  | desfire (h : AsksVersion act) (hversion : GivesVersion answer)

variable {act : Activation}

lemma type2Formattable_iff : (Signatures.ofActivation act).type2Formattable = true ↔ Type2Make act := by
  unfold Signatures.ofActivation
  cases htech : act.tech with
  | a sensRes nfcid1 selRsp =>
    simp only [Signatures.type2Formattable, Bool.or_eq_true, Bool.and_eq_true, beq_iff_eq,
      List.head?_eq_some_iff]
    refine ⟨fun h => ?_, fun h => ?_⟩
    · rcases h with (⟨⟨⟨hmode, hsens⟩, hsel⟩, rest, hid⟩ | ⟨⟨hmode, rest, hid⟩, hsecond⟩) | ⟨hmode, rest, hid⟩
      · exact .ultralight rest selRsp hmode (by rw [htech, hsens, hid]) hsel
      · cases rest with
        | nil =>
          rw [hid] at hsecond
          exact absurd hsecond nofun
        | cons second rest =>
          rw [hid] at hsecond
          exact .myDMove sensRes second rest selRsp hmode (by rw [htech, hid]) (beq_iff_eq.mp hsecond)
      · exact .kovio sensRes rest selRsp hmode (by rw [htech, hid])
    · cases h with
      | ultralight rest sel hmode h hsel =>
        obtain ⟨rfl, rfl, rfl⟩ := TechParams.a.inj (htech.symm.trans h)
        exact .inl (.inl ⟨⟨⟨hmode, rfl⟩, hsel⟩, rest, rfl⟩)
      | myDMove sens second rest sel hmode h hsecond =>
        obtain ⟨rfl, rfl, rfl⟩ := TechParams.a.inj (htech.symm.trans h)
        exact .inl (.inr ⟨⟨hmode, second :: rest, rfl⟩, beq_iff_eq.mpr hsecond⟩)
      | kovio sens rest sel hmode h =>
        obtain ⟨rfl, rfl, rfl⟩ := TechParams.a.inj (htech.symm.trans h)
        exact .inr ⟨hmode, rest, rfl⟩
  | _ =>
    refine ⟨fun h => absurd h nofun, fun h => ?_⟩
    cases h with
    | ultralight _ _ _ h => exact absurd (htech.symm.trans h) nofun
    | myDMove _ _ _ _ _ h => exact absurd (htech.symm.trans h) nofun
    | kovio _ _ _ _ h => exact absurd (htech.symm.trans h) nofun

lemma mifareDesfire_iff : (Signatures.ofActivation act).mifareDesfire = true ↔ MayBeDesfire act := by
  unfold Signatures.ofActivation MayBeDesfire AnswersAsDesfire
  cases htech : act.tech with
  | a sensRes nfcid1 selRsp => simp [and_assoc, or_assoc]
  | _ => exact ⟨fun h => absurd h nofun, fun ⟨_, _, h⟩ => absurd h nofun⟩

lemma felicaLite_iff (h : act.protocol = Protocol.t3t) :
    (Signatures.ofActivation act).felicaLite = true ↔ IsFelicaLite act := by
  have hlite : (Signatures.ofActivation act).felicaLite = Signatures.hasFelicaLite act := by
    unfold Signatures.ofActivation
    split
    · rfl
    · rfl
  rw [hlite]
  unfold Signatures.hasFelicaLite IsFelicaLite
  rw [if_pos h]
  cases act.protocolParams with
  | t3t codes => simp [Signatures.felicaLiteCode]
  | _ => exact ⟨fun h => absurd h nofun, fun ⟨_, h, _⟩ => absurd h nofun⟩

lemma isDesfireVersion_iff (response : Bytes) : Tag.isDesfireVersion response = true ↔
    response.length = 9 ∧ ∃ version, response = version ++ [0x91, 0xaf] := by
  unfold Tag.isDesfireVersion
  rw [Bool.and_eq_true, beq_iff_eq, beq_iff_eq]
  refine and_congr_right fun hlength => ⟨fun h => ⟨response.take 7, ?_⟩, fun ⟨version, h⟩ => ?_⟩
  · rw [← h, List.take_append_drop]
  · have hversion : version.length = 7 := by
      rw [h, List.length_append] at hlength
      exact Nat.succ.inj (Nat.succ.inj hlength)
    rw [h, ← hversion, List.drop_left]

section Table

variable {answer : Status × Bytes}

lemma formattable_type2 (h : act.protocol = Protocol.t2t) : Formattable answer act ↔ Type2Make act := by
  refine ⟨fun hformattable => ?_, .type2 h⟩
  cases hformattable with
  | always h' => rw [h] at h'; exact absurd h' (by decide)
  | type2 _ hmake => exact hmake
  | felica h' _ => rw [h] at h'; exact absurd h' (by decide)
  | desfire h' _ => exact absurd (h.symm.trans h'.1) (by decide)

lemma formattable_felica (h : act.protocol = Protocol.t3t) : Formattable answer act ↔ IsFelicaLite act := by
  refine ⟨fun hformattable => ?_, .felica h⟩
  cases hformattable with
  | always h' => rw [h] at h'; exact absurd h' (by decide)
  | type2 h' _ => rw [h] at h'; exact absurd h' (by decide)
  | felica _ hlite => exact hlite
  | desfire h' _ => exact absurd (h.symm.trans h'.1) (by decide)

lemma formattable_isoDep (h : act.protocol = Protocol.isoDep) :
    Formattable answer act ↔ MayBeDesfire act ∧ GivesVersion answer := by
  refine ⟨fun hformattable => ?_, fun ⟨hmay, hversion⟩ => .desfire ⟨h, hmay⟩ hversion⟩
  cases hformattable with
  | always h' => rw [h] at h'; exact absurd h' (by decide)
  | type2 h' _ => rw [h] at h'; exact absurd h' (by decide)
  | felica h' _ => rw [h] at h'; exact absurd h' (by decide)
  | desfire h' hversion => exact ⟨h'.2, hversion⟩

lemma not_formattable
    (h : ¬(act.protocol = Protocol.t1t ∨ act.protocol = Protocol.t5t ∨ act.protocol = Protocol.mifare))
    (h2 : act.protocol ≠ Protocol.t2t) (h3 : act.protocol ≠ Protocol.t3t)
    (h4 : act.protocol ≠ Protocol.isoDep) : ¬Formattable answer act := by
  intro hformattable
  cases hformattable with
  | always h' => exact h h'
  | type2 h' _ => exact h2 h'
  | felica h' _ => exact h3 h'
  | desfire h' _ => exact h4 h'.1

lemma givesVersion_iff : (answer.1.isOk && Tag.isDesfireVersion answer.2) = true ↔ GivesVersion answer := by
  unfold GivesVersion Status.isOk
  rw [Bool.and_eq_true, isDesfireVersion_iff, decide_eq_true_iff]

end Table

variable (env : Environment σ) (s : System σ)

/-- The request for the version of a DESFire. -/
def asked : (Status × Bytes) × System σ := (Tag.transceive Tag.desfireVersion []).run env s

/-- Whether the tag can be formatted, going by what the session remembers. -/
lemma isFormattable_run {session : Session} (hs : s.host.session = session) :
    (Tag.isFormattable : Op σ Bool).run env s =
    if session.protocol = Protocol.t1t ∨ session.protocol = Protocol.t5t ∨ session.protocol = Protocol.mifare then
      (true, s)
    else if session.protocol = Protocol.t2t then (session.signatures.type2Formattable, s)
    else if session.protocol = Protocol.t3t then (session.signatures.felicaLite, s)
    else if session.protocol = Protocol.isoDep then
      if session.signatures.mifareDesfire then
        ((asked env s).1.1.isOk && Tag.isDesfireVersion (asked env s).1.2, (asked env s).2)
      else (false, s)
    else (false, s) := by
  unfold Tag.isFormattable
  rw [Op.run_bind, Op.run_read, hs]
  by_cases halways :
      session.protocol = Protocol.t1t ∨ session.protocol = Protocol.t5t ∨ session.protocol = Protocol.mifare
  · rw [if_pos halways, if_pos halways]
    rfl
  rw [if_neg halways, if_neg halways]
  by_cases h2 : session.protocol = Protocol.t2t
  · rw [if_pos h2, if_pos h2]
    rfl
  rw [if_neg h2, if_neg h2]
  by_cases h3 : session.protocol = Protocol.t3t
  · rw [if_pos h3, if_pos h3]
    rfl
  rw [if_neg h3, if_neg h3]
  by_cases h4 : session.protocol = Protocol.isoDep
  · rw [if_pos h4, if_pos h4]
    by_cases hdesfire : session.signatures.mifareDesfire = true
    · rw [if_pos hdesfire, if_pos hdesfire]
      rfl
    · rw [if_neg hdesfire, if_neg hdesfire]
      rfl
  · rw [if_neg h4, if_neg h4]
    rfl

variable {s} in
/-- The session asks its tag only for the version of a possible DESFire, and answers by the last activation it
took in. -/
lemma isFormattable_iff {accepted : Option Activation} (hkind : kindOf s.host.session = kindBy accepted) :
    let answer := (Tag.isFormattable : Op σ Bool).run env s
    (answer.1 = true ↔ ∃ act ∈ accepted, Formattable (asked env s).1 act) ∧
      ((∃ act ∈ accepted, AsksVersion act) → answer.2 = (asked env s).2) ∧
      ((∀ act ∈ accepted, ¬AsksVersion act) → answer.2 = s) := by
  have hprotocol := congrArg Prod.fst hkind
  have hsignatures := congrArg Prod.snd hkind
  rw [isFormattable_run env s rfl]
  cases accepted with
  | none =>
    change s.host.session.protocol = Protocol.unknown at hprotocol
    rw [hprotocol, if_neg (by decide), if_neg (by decide), if_neg (by decide), if_neg (by decide)]
    exact ⟨⟨fun h => absurd h Bool.false_ne_true, nofun⟩, nofun, fun _ => rfl⟩
  | some act =>
    change s.host.session.protocol = act.protocol at hprotocol
    change s.host.session.signatures = Signatures.ofActivation act at hsignatures
    rw [hprotocol, hsignatures]
    simp only [Option.mem_some_iff, exists_eq_left', forall_eq']
    by_cases halways :
        act.protocol = Protocol.t1t ∨ act.protocol = Protocol.t5t ∨ act.protocol = Protocol.mifare
    · have hquiet : ¬AsksVersion act := fun h => by
        rw [h.1] at halways
        exact absurd halways (by decide)
      rw [if_pos halways]
      exact ⟨⟨fun _ => .always halways, fun _ => rfl⟩, fun h => absurd h hquiet, fun _ => rfl⟩
    rw [if_neg halways]
    by_cases h2 : act.protocol = Protocol.t2t
    · have hquiet : ¬AsksVersion act := fun h => absurd (h2.symm.trans h.1) (by decide)
      rw [if_pos h2]
      exact ⟨type2Formattable_iff.trans (formattable_type2 h2).symm, fun h => absurd h hquiet, fun _ => rfl⟩
    rw [if_neg h2]
    by_cases h3 : act.protocol = Protocol.t3t
    · have hquiet : ¬AsksVersion act := fun h => absurd (h3.symm.trans h.1) (by decide)
      rw [if_pos h3]
      exact ⟨(felicaLite_iff h3).trans (formattable_felica h3).symm, fun h => absurd h hquiet, fun _ => rfl⟩
    rw [if_neg h3]
    by_cases h4 : act.protocol = Protocol.isoDep
    · rw [if_pos h4, formattable_isoDep h4]
      by_cases hmay : MayBeDesfire act
      · rw [if_pos (mifareDesfire_iff.mpr hmay), givesVersion_iff]
        exact ⟨(and_iff_right hmay).symm, fun _ => rfl, fun h => absurd ⟨h4, hmay⟩ h⟩
      · rw [if_neg fun h => hmay (mifareDesfire_iff.mp h)]
        exact ⟨⟨fun h => absurd h Bool.false_ne_true, fun h => absurd h.1 hmay⟩, fun h => absurd h.2 hmay,
          fun _ => rfl⟩
    · rw [if_neg h4]
      exact ⟨⟨fun h => absurd h Bool.false_ne_true, fun h => absurd h (not_formattable halways h2 h3 h4)⟩,
        fun h => absurd h.1 h4, fun _ => rfl⟩

/-- A tag that was put to sleep to be selected again and one that finds the list of slots full tell the session
nothing. -/
lemma newsAt_refused {host : Host} (act : Activation)
    (h : host.flags.reconnecting = true ∨ Technology.tableSize ≤ host.session.slots.length) :
    newsAt (.activated act) host = [] := by
  change newsOfActivation act host = []
  unfold newsOfActivation newsOfTarget
  rcases h with hagain | hfull
  · rw [hagain, Bool.or_true, if_pos rfl]
  · rw [if_pos hfull, ite_self]

/-- Whoever joins in, a run leads to a host whose session learned something. In every such host the answer of
the session goes by the last activation that it took in since its last reset, by the table of the protocols;
without one the answer is no. A frame is sent only to a possible DESFire, to ask for its version; in any other
case the system stays as it is. An activation that completes a new selection or finds the list full adds nothing
to what the session learned. -/
theorem formattable_by_last_accepted (c : Controller σ) (config : Config) :
    (∀ companions deeds (start : System σ), ∃ news, Lived config news ((Deed.runAll deeds).run
      (company c companions) { start with host := Host.fresh config }).2.host) ∧
    ∀ (s : System σ) news, Lived config news s.host →
      (∀ env,
        let answer := (Tag.isFormattable : Op σ Bool).run env s
        (answer.1 = true ↔ ∃ act ∈ lastAccepted news, Formattable (asked env s).1 act) ∧
          ((∃ act ∈ lastAccepted news, AsksVersion act) → answer.2 = (asked env s).2) ∧
          ((∀ act ∈ lastAccepted news, ¬AsksVersion act) → answer.2 = s)) ∧
      ∀ act, s.host.flags.reconnecting = true ∨ Technology.tableSize ≤ s.host.session.slots.length →
        Lived config news (hear (.activated act) s.host) := by
  refine ⟨runs_lived c config, fun s news h => ⟨fun env => isFormattable_iff env h.kind, fun act hrefused => ?_⟩⟩
  have hheard := h.heard (.activated act)
  rw [newsAt_refused act hrefused, List.append_nil] at hheard
  exact hheard

/-- Two tags were announced by hand, and the second was put to sleep. -/
def secondAsleep : System Script :=
  (ran Script.controller [] {} {}
    [.move (.call (.session (.discover (Sample.plainType2 1)))),
      .move (.call (.session (.discover (Sample.ultralight 2))))]).mapHost (hear (.deactivated true))

def twoTags : List SessionNews := [.accepted (Sample.plainType2 1), .accepted (Sample.ultralight 2)]

/-- The second of two tags decides, also when a third completes its selection. -/
theorem ultralight_formattable :
    let answer := Tag.isFormattable.run Script.controller.alone secondAsleep
    Lived {} twoTags secondAsleep.host ∧ answer.1 = true ∧ answer.2 = secondAsleep ∧
      Lived {} twoTags (hear (.activated (Sample.plainType2 3)) secondAsleep.host) := by
  have hfirst : Lived {} [.accepted (Sample.plainType2 1)] (welcomed (Sample.plainType2 1) (Host.fresh {})) :=
    .changed (.welcome (Sample.plainType2 1)) .fresh
  have hlived : Lived {} twoTags secondAsleep.host :=
    .heard (.deactivated true) (.changed (.welcome (Sample.ultralight 2)) hfirst)
  have hlast : lastAccepted twoTags = some (Sample.ultralight 2) := rfl
  have hmake : Type2Make (Sample.ultralight 2) := .ultralight _ _ rfl rfl (.inl rfl)
  obtain ⟨hpolicy, hrefused⟩ :=
    (formattable_by_last_accepted Script.controller {}).2 secondAsleep twoTags hlived
  obtain ⟨hanswer, -, hquiet⟩ := hpolicy Script.controller.alone
  refine ⟨hlived, hanswer.mpr ⟨_, hlast, .type2 rfl hmake⟩, hquiet fun act hact h => ?_,
    hrefused (Sample.plainType2 3) (.inl rfl)⟩
  rw [hlast] at hact
  rw [← Option.mem_some.mp hact] at h
  exact absurd h.1 (by decide)

/-- A target that answers like a DESFire in active NFC-A polling. -/
def activeDesfire : Activation := { Sample.desfire 1 with mode := 0x03 }

def desfireAnswer : Bytes := [0x04, 0x01, 0x01, 0x01, 0x00, 0x18, 0x05, 0x91, 0xaf]

/-- A stack with that target in its field, over a controller that has the answer of a DESFire at hand. -/
def activeDesfireFound : System Script :=
  afterDeeds Script.controller (reports [.activated activeDesfire]) (upWith { answers := [desfireAnswer] })

/-- The target was taken in and would give its version, but is never asked. -/
theorem active_desfire_not_asked :
    (∃ news, Lived {} news activeDesfireFound.host ∧ lastAccepted news = some activeDesfire) ∧
      activeDesfire.protocol = Protocol.isoDep ∧ AnswersAsDesfire activeDesfire ∧
      GivesVersion (asked Script.controller.alone activeDesfireFound).1 ∧
      (Tag.isFormattable.run Script.controller.alone activeDesfireFound).1 = false := by
  let up := upWith { answers := [desfireAnswer] }
  obtain ⟨news, hup⟩ : ∃ news, Lived {} news up.host := runs_lived Script.controller {} [] firstBringUp
    { host := Host.fresh {}, controller := { answers := [desfireAnswer] } }
  have hfound : Lived {} (news ++ newsAt (.activated activeDesfire) up.host) activeDesfireFound.host :=
    hup.heard (.activated activeDesfire)
  have hnews : newsAt (.activated activeDesfire) up.host = [.accepted activeDesfire] := rfl
  have hversion : (asked Script.controller.alone activeDesfireFound).1 = (.ok, desfireAnswer) := rfl
  refine ⟨⟨_, hfound, ?_⟩, rfl, ⟨_, rfl⟩, ?_, rfl⟩
  · rw [hnews, lastAccepted_accepted]
  · rw [hversion]
    exact ⟨rfl, rfl, [0x04, 0x01, 0x01, 0x01, 0x00, 0x18, 0x05], rfl⟩

end NfcStack.Proofs
