import NfcStack.Proofs.LateActivations
import NfcStack.Proofs.SessionLives

/-!
# How many slots a session lists

An activation is taken in as long as the list of slots is shorter than the table of technologies, and then
adds one slot or two. The list can therefore be longer than the table by one, after one kind of activation
at one length of the list.
-/

namespace NfcStack.Proofs

variable {σ : Type}

section Lists

/-- An ISO-DEP target in a mode of NFC-A or NFC-B: its radio technology is listed beside the transport. -/
def IsTwofold (act : Activation) : Prop :=
  act.protocol = Protocol.isoDep ∧ (RadioMode.isA act.mode = true ∨ RadioMode.isB act.mode = true)

instance (act : Activation) : Decidable (IsTwofold act) := inferInstanceAs (Decidable (_ ∧ _))

/-- One place is left in the list, and the next target takes two. -/
structure Overfills (before : List Activation) (act : Activation) : Prop where
  almost : (slotsOf before).length + 1 = Technology.tableSize
  twofold : IsTwofold act

/-- Every target found the list of those before it shorter than the table of technologies. -/
def FoundRoom (accepted : List Activation) : Prop :=
  ∀ before act, before ++ [act] <+: accepted → (slotsOf before).length < Technology.tableSize

lemma slots_added (act : Activation) :
    (Slot.ofActivation act).length = if IsTwofold act then 2 else 1 := by
  have hlength : (Slot.ofActivation act).length = act.technologies.length := List.length_map _
  rw [hlength]
  unfold Activation.technologies
  by_cases hisoDep : act.protocol = Protocol.isoDep
  · have hother : Protocol.isoDep ≠ Protocol.t1t ∧ Protocol.isoDep ≠ Protocol.t2t ∧
        Protocol.isoDep ≠ Protocol.t3t := by decide
    rw [hisoDep, if_neg hother.1, if_neg hother.2.1, if_neg hother.2.2, if_pos rfl]
    by_cases ha : RadioMode.isA act.mode = true
    · rw [if_pos ha, if_pos ⟨hisoDep, .inl ha⟩]
      rfl
    · by_cases hb : RadioMode.isB act.mode = true
      · rw [if_neg ha, if_pos hb, if_pos ⟨hisoDep, .inr hb⟩]
        rfl
      · rw [if_neg ha, if_neg hb, if_neg fun h => h.2.elim ha hb]
        rfl
  · rw [if_neg fun h : IsTwofold act => hisoDep h.1]
    repeat' split
    all_goals rfl

lemma slotsOf_snoc (before : List Activation) (act : Activation) :
    (slotsOf (before ++ [act])).length = (slotsOf before).length + if IsTwofold act then 2 else 1 := by
  unfold slotsOf
  rw [List.flatMap_append, List.flatMap_singleton, List.length_append, slots_added]

variable {accepted : List Activation}

lemma foundRoom_nil : FoundRoom [] := by
  intro before act h
  exact absurd (List.prefix_nil.mp h) (List.append_ne_nil_of_right_ne_nil before nofun)

lemma FoundRoom.snoc (h : FoundRoom accepted) (act : Activation)
    (hroom : (slotsOf accepted).length < Technology.tableSize) : FoundRoom (accepted ++ [act]) := by
  intro before last hprefix
  rcases List.prefix_concat_iff.mp hprefix with heq | hbefore
  · rw [(List.append_inj' heq rfl).1]
    exact hroom
  · exact h before last hbefore

/-- The list grows beyond the table by one slot at most, and does with an overfilling target. -/
lemma FoundRoom.snoc_length {before : List Activation} {act : Activation} (h : FoundRoom (before ++ [act])) :
    (slotsOf (before ++ [act])).length ≤ Technology.tableSize + 1 ∧
      (Technology.tableSize < (slotsOf (before ++ [act])).length ↔ Overfills before act) := by
  have hroom := h before act (List.prefix_refl _)
  have hgrown := slotsOf_snoc before act
  by_cases htwofold : IsTwofold act
  · rw [if_pos htwofold] at hgrown
    exact ⟨by omega, fun hover => ⟨by omega, htwofold⟩, fun hover => by have := hover.almost; omega⟩
  · rw [if_neg htwofold] at hgrown
    exact ⟨by omega, fun hover => by omega, fun hover => absurd hover.twofold htwofold⟩

lemma FoundRoom.length (h : FoundRoom accepted) :
    (slotsOf accepted).length ≤ Technology.tableSize + 1 ∧
      (Technology.tableSize < (slotsOf accepted).length ↔
        ∃ before act, accepted = before ++ [act] ∧ Overfills before act) := by
  rcases List.eq_nil_or_concat accepted with rfl | ⟨before, act, rfl⟩
  · refine ⟨by decide, iff_of_false (by decide) ?_⟩
    rintro ⟨before, act, hnil, -⟩
    exact absurd hnil.symm (List.append_ne_nil_of_right_ne_nil before nofun)
  · rw [List.concat_eq_append] at h ⊢
    obtain ⟨hle, hiff⟩ := h.snoc_length
    refine ⟨hle, hiff.trans ⟨fun hover => ⟨before, act, rfl, hover⟩, ?_⟩⟩
    rintro ⟨other, last, heq, hover⟩
    obtain ⟨rfl, hlast⟩ := List.append_inj' heq rfl
    rw [(List.cons.inj hlast).1]
    exact hover

end Lists

section Hosts

variable {config : Config} {news : List SessionNews} {host : Host}

lemma Lived.slots (h : Lived config news host) : host.session.slots = slotsOf (acceptedSince news) :=
  (congrArg TagRecord.slots h.record).trans (recordBy_slots _)

lemma Lived.roomAfterTarget (h : Lived config news host) (hroom : FoundRoom (acceptedSince news))
    (act : Activation) : FoundRoom (acceptedSince (news ++ newsOfTarget act host.session)) := by
  unfold newsOfTarget
  split
  · rw [List.append_nil]
    exact hroom
  · next hshort =>
    rw [h.slots] at hshort
    rw [acceptedSince_accepted]
    exact hroom.snoc act (Nat.lt_of_not_le hshort)

lemma foundRoom_reset (news : List SessionNews) : FoundRoom (acceptedSince (news ++ [.reset])) := by
  rw [acceptedSince_reset]
  exact foundRoom_nil

lemma Lived.foundRoom (h : Lived config news host) : FoundRoom (acceptedSince news) := by
  have hnothing {news : List SessionNews} (hroom : FoundRoom (acceptedSince news)) :
      FoundRoom (acceptedSince (news ++ [])) := (List.append_nil news).symm ▸ hroom
  induction h with
  | fresh => exact foundRoom_nil
  | @heard news host event h ih =>
    cases event with
    | activated act =>
      change FoundRoom (acceptedSince (news ++ newsOfActivation act host))
      unfold newsOfActivation
      split
      · exact hnothing ih
      · exact h.roomAfterTarget ih act
    | deactivated sleep =>
      cases sleep with
      | false => exact foundRoom_reset news
      | true => exact hnothing ih
    | _ => exact hnothing ih
  | heardAlone event _ ih => exact ih
  | @changed news host change h ih =>
    cases change with
    | welcome act => exact h.roomAfterTarget ih act
    | session change =>
      cases change with
      | forget => exact foundRoom_reset news
      | _ => exact hnothing ih
    | _ => exact hnothing ih
  | connected target _ ih => exact ih
  | occupied resources _ ih => exact ih

/-- What a tag was announced with: the slots of what the session had taken in, the announced target last. -/
def ListsTaken (config : Config) (uid : Bytes) (kinds : List TagKind) : Prop :=
  ∃ news act host, Lived config (news ++ [.accepted act]) host ∧ uid = act.uid ∧
    kinds = (slotsOf (acceptedSince news ++ [act])).map fun slot => slot.technology.kind

/-- The host lived, and announced tags with what its session had taken in. -/
def AnnouncesTaken (config : Config) (host : Host) (_ : List Event) (told : List Notification) : Prop :=
  (∃ news, Lived config news host) ∧
    ∀ index handle uid kinds, .tagDiscovered index handle uid kinds ∈ told → ListsTaken config uid kinds

lemma activationTidings_taken (h : Lived config news host) {act : Activation} {index : Nat}
    {handle : UInt8} {uid : Bytes} {kinds : List TagKind}
    (htold : .tagDiscovered index handle uid kinds ∈ activationTidings act host) :
    ListsTaken config uid kinds := by
  unfold activationTidings at htold
  split at htold
  · exact absurd htold List.not_mem_nil
  · next hheeded =>
    split at htold
    · exact absurd htold List.not_mem_nil
    · next session hadmitted =>
      have hnews : newsAt (.activated act) host = [.accepted act] := by
        change newsOfActivation act host = _
        unfold newsOfActivation
        rw [if_neg hheeded, admit_news, hadmitted]
        rfl
      have hrecord := admit_record hadmitted h.record
      have hslots : session.slots = slotsOf (acceptedSince news ++ [act]) :=
        (congrArg TagRecord.slots hrecord).trans (recordBy_slots _)
      obtain ⟨-, -, rfl, rfl⟩ := Notification.tagDiscovered.inj (List.mem_singleton.mp htold)
      refine ⟨news, act, hear (.activated act) host, ?_, rfl, ?_⟩
      · rw [← hnews]
        exact h.heard (.activated act)
      · rw [← hslots]
        rfl

lemma announces_tracks (c : Controller σ) (config : Config) :
    Tracks c (fun _ => True) (AnnouncesTaken config) where
  change change _ _ _ _ h := ⟨h.1.elim fun _ hlived => ⟨_, hlived.changed change⟩, h.2⟩
  waits f hf _ _ _ h := ⟨h.1.elim fun _ hlived => ⟨_, hlived.changed (.waits f hf)⟩, h.2⟩
  inUse resources _ _ _ h := ⟨h.1.elim fun _ hlived => ⟨_, hlived.occupied resources⟩, h.2⟩
  connect target _ _ _ h := ⟨h.1.elim fun _ hlived => ⟨_, hlived.connected target⟩, h.2⟩
  hear := by
    rintro event x host events told ⟨⟨news, hlived⟩, htaken⟩
    refine ⟨⟨_, hlived.heard event⟩, fun index handle uid kinds hmem => ?_⟩
    rcases List.mem_append.mp hmem with hbefore | hnew
    · exact htaken index handle uid kinds hbefore
    · have htold : .tagDiscovered index handle uid kinds ∈ tidings (c.nfcees x) event host := by
        cases hlistens : host.listener with
        | recording =>
          rw [hlistens] at hnew
          exact hnew
        | _ =>
          rw [hlistens] at hnew
          exact absurd hnew List.not_mem_nil
      by_cases hactivated : ∃ act, event = .activated act
      · obtain ⟨act, rfl⟩ := hactivated
        exact activationTidings_taken hlived htold
      · have hquiet := tidings_other (fun act h => hactivated ⟨act, h⟩) (c.nfcees x) host
        have hfound : .tagDiscovered index handle uid kinds ∈
            (tidings (c.nfcees x) event host).filter isTagDiscovery := List.mem_filter.mpr ⟨htold, rfl⟩
        rw [hquiet] at hfound
        exact absurd hfound List.not_mem_nil

end Hosts

section Runs

lemma ran_announces (c : Controller σ) (companions : List (Companion σ)) (config : Config) (x : σ)
    (deeds : List Deed) : HoldsOf (AnnouncesTaken config) (ran c companions config x deeds) := by
  have hcarried := (ran_evolves (fun _ => trivial) c companions config x deeds).carries
    (announces_tracks c config)
  exact (hcarried nofun).2 ⟨⟨[], .fresh⟩, fun _ _ _ _ h => absurd h List.not_mem_nil⟩

/-- Whoever joins in and whatever is reported, a session lists the slots of the activations that it took in
since it was last reset, one more than the table has room for at most, and more than that exactly if the last
of them took two places where one was left. An announcement lists the slots of its target behind those of
the activations that were taken in before, within the same limit, and beyond the table in the same case. -/
theorem listed_slots_bounded (c : Controller σ) (config : Config) :
    (∀ news host, Lived config news host →
      host.session.slots = slotsOf (acceptedSince news) ∧
        host.session.slots.length ≤ Technology.tableSize + 1 ∧
        (Technology.tableSize < host.session.slots.length ↔
          ∃ before act, acceptedSince news = before ++ [act] ∧ Overfills before act)) ∧
    ∀ companions x deeds,
      let s := ran c companions config x deeds
      (∃ news, Lived config news s.host) ∧
        ∀ index handle uid kinds, .tagDiscovered index handle uid kinds ∈ System.notificationsOf s.trace →
          ∃ news act host, Lived config (news ++ [.accepted act]) host ∧ uid = act.uid ∧
            kinds = (slotsOf (acceptedSince news ++ [act])).map (fun slot => slot.technology.kind) ∧
            kinds.length ≤ Technology.tableSize + 1 ∧
            (Technology.tableSize < kinds.length ↔ Overfills (acceptedSince news) act) := by
  refine ⟨fun news host h => ?_, fun companions x deeds => ?_⟩
  · rw [h.slots]
    exact ⟨rfl, h.foundRoom.length⟩
  · obtain ⟨hlived, htaken⟩ := ran_announces c companions config x deeds
    refine ⟨hlived, fun index handle uid kinds htold => ?_⟩
    obtain ⟨news, act, host, hhost, huid, rfl⟩ := htaken index handle uid kinds htold
    have hroom := hhost.foundRoom
    rw [acceptedSince_accepted] at hroom
    refine ⟨news, act, host, hhost, huid, rfl, ?_⟩
    rw [List.length_map]
    exact hroom.snoc_length

/-- An Ultralight and four ISO-DEP cards came into the field of a stack that is up. -/
def fiveTags : List Event :=
  [.activated (Sample.ultralight 1), .activated (Sample.isoDepCard 2), .activated (Sample.isoDepCard 3),
    .activated (Sample.isoDepCard 4), .activated (Sample.isoDepCard 5)]

def afterEvents (events : List Event) : System Script :=
  ran Script.controller [] {} {} (firstBringUp ++ reports events)

/-- Nine slots are within the limit. -/
theorem nine_slots_listed :
    (afterEvents fiveTags).host.session.slots.length = 9 ∧
      ∃ news, Lived {} news (afterEvents fiveTags).host ∧
        ¬∃ before act, acceptedSince news = before ++ [act] ∧ Overfills before act := by
  have hlength : (afterEvents fiveTags).host.session.slots.length = 9 := by decide +kernel
  obtain ⟨hlists, hruns⟩ := listed_slots_bounded Script.controller {}
  obtain ⟨⟨news, hlived⟩, -⟩ := hruns [] {} (firstBringUp ++ reports fiveTags)
  obtain ⟨-, -, hover⟩ := hlists news _ hlived
  refine ⟨hlength, news, hlived, fun h => ?_⟩
  have hmore := hover.mpr h
  unfold afterEvents at hlength
  rw [hlength] at hmore
  exact absurd hmore (by decide)

/-- With a fifth card eleven slots are listed, and announced. -/
theorem eleven_slots_announced :
    (afterEvents (fiveTags ++ [.activated (Sample.isoDepCard 6)])).host.session.slots.length = 11 ∧
      (System.notificationsOf (afterEvents (fiveTags ++ [.activated (Sample.isoDepCard 6)])).trace).getLast? =
        some (.tagDiscovered 5 1 [0x04, 0x5a, 0x31, 0x22, 0x7c, 0x10, 0x80]
          (.mifareUltralight :: List.replicate 10 .isoDep)) := by
  decide +kernel

end Runs

end NfcStack.Proofs
