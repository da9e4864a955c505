import NfcStack.Proofs.Numerals
import NfcStack.Proofs.SlotDetails

/-!
# The details of a lone tag

A tag that finds a session without slots gets those of its own activation. Their details are cut out of the
bytes that were kept of that activation and give back what the target reported, as long as its parameters go
with its protocol and its mode; where they do not, the detail is empty. Slots for a message may follow later,
and change none of it.
-/

namespace NfcStack.Proofs

variable {σ : Type}

section Cuts

/-- Reading the answer to polling stays within it: what is cut off leads to the bytes behind it. -/
lemma cut_rest (bytes : Bytes) (start : Nat) :
    (if start < bytes.length then Bytes.sliceAt bytes start (bytes.length - start) else .ok []) =
      (.ok (bytes.drop start) : Except Failure Bytes) := by
  split
  · next hlong =>
    rw [sliceAt_within (Nat.le_of_eq (Nat.add_sub_cancel' (Nat.le_of_lt hlong))), List.take_of_length_le]
    exact Nat.le_of_eq List.length_drop
  · next hshort =>
    rw [List.drop_of_length_le (Nat.le_of_not_lt hshort)]

lemma readPoll_typeB {act : Activation} {sensbRes nfcid0 : Bytes} (htech : act.tech = .b sensbRes nfcid0)
    (hmode : RadioMode.isB act.mode = true) : act.readPoll = .ok (sensbRes.drop 4) := by
  unfold Activation.readPoll
  rw [htech]
  dsimp only
  rw [if_pos hmode, cut_rest]

lemma pollBytes_of_read {act : Activation} {bytes : Bytes} (h : act.readPoll = .ok bytes) :
    act.pollBytes = bytes := by
  unfold Activation.pollBytes
  rw [h]

lemma readPoll_ok (act : Activation) : act.readPoll = .ok act.pollBytes := by
  have hread : ∃ bytes, act.readPoll = .ok bytes := by
    cases htech : act.tech with
    | b sensbRes nfcid0 =>
      by_cases hmode : RadioMode.isB act.mode = true
      · exact ⟨_, readPoll_typeB htech hmode⟩
      · unfold Activation.readPoll
        rw [htech]
        exact ⟨_, if_neg hmode⟩
    | _ =>
      unfold Activation.readPoll
      rw [htech]
      exact ⟨_, rfl⟩
  obtain ⟨bytes, hbytes⟩ := hread
  rw [hbytes, pollBytes_of_read hbytes]

lemma readExtras_typeB {slot : Slot} (htechnology : slot.technology = .iso14443B) (besideNfcA : Bool) :
    slot.readExtras besideNfcA = .ok (if slot.poll.length < 7 then .none
      else .nfcB (slot.poll.take 4) ((slot.poll.drop 4).take 3)) := by
  unfold Slot.readExtras
  rw [htechnology]
  dsimp only
  split
  · rfl
  · next hlong =>
    have hfirst : 0 + 4 ≤ slot.poll.length := by omega
    have hrest : 4 + 3 ≤ slot.poll.length := by omega
    rw [sliceAt_within hfirst, sliceAt_within hrest]
    rfl

lemma readExtras_ok (slot : Slot) (besideNfcA : Bool) :
    slot.readExtras besideNfcA = .ok (slot.extras besideNfcA) := by
  have hread : ∃ extras, slot.readExtras besideNfcA = .ok extras := by
    by_cases htypeB : slot.technology = .iso14443B
    · exact ⟨_, readExtras_typeB htypeB besideNfcA⟩
    · unfold Slot.readExtras
      split
      · exact ⟨_, rfl⟩
      · exact ⟨_, rfl⟩
      · contradiction
      · exact ⟨_, rfl⟩
      · split
        · exact ⟨_, rfl⟩
        · exact ⟨_, rfl⟩
      · exact ⟨_, rfl⟩
  obtain ⟨extras, hextras⟩ := hread
  unfold Slot.extras
  rw [hextras]

end Cuts

section Reports

/-- The details that the NFC-A parameters of a target carry. -/
def nfcAOf : TechParams → Extras
  | .a sensRes _ selRsp => .nfcA (some selRsp) [sensRes.1, sensRes.2]
  | _ => .nfcA none []

/-- Application data and protocol information of an NFC-B answer that has room for both. -/
def nfcBOf (sensbRes : Bytes) : Extras :=
  if 11 ≤ sensbRes.length then .nfcB ((sensbRes.drop 4).take 4) ((sensbRes.drop 8).take 3) else .none

def historicalOf : InterfaceParams → Bytes
  | .isoDepA historical => historical
  | _ => []

def higherLayerOf : InterfaceParams → Bytes
  | .isoDepB higherLayer => higherLayer
  | _ => []

/-- The technologies and the details of a lone tag are those that its activation reports. -/
structure Reproduces (act : Activation) (listed : List Technology) (details : Nat → Option Extras) :
    Prop where
  isoDepA (hprotocol : act.protocol = Protocol.isoDep) (hmode : RadioMode.isA act.mode = true) :
    listed = [.iso14443A, .iso14443Part4] ∧ details 0 = some (nfcAOf act.tech) ∧
      details 1 = some (.isoDepA (historicalOf act.interfaceParams))
  isoDepB (hprotocol : act.protocol = Protocol.isoDep) (hmode : RadioMode.isB act.mode = true)
    (sensbRes nfcid0 : Bytes) (htech : act.tech = .b sensbRes nfcid0) :
    listed = [.iso14443B, .iso14443Part4] ∧ details 0 = some (nfcBOf sensbRes) ∧
      details 1 = some (.isoDepB (higherLayerOf act.interfaceParams))
  /-- The parameters of the protocol win, whatever the radio technology reports. -/
  vicinityOfProtocol (hprotocol : act.protocol = Protocol.t5t) (hmode : RadioMode.isV act.mode = true)
    (uid : Bytes) (afi dsfid : UInt8) (hparams : act.protocolParams = .t5t uid afi dsfid) :
    listed = [.iso15693] ∧ details 0 = some (.nfcV afi dsfid)
  vicinityOfTech (hprotocol : act.protocol = Protocol.t5t) (hmode : RadioMode.isV act.mode = true)
    (hparams : ∀ uid afi dsfid, act.protocolParams ≠ .t5t uid afi dsfid)
    (uid : Bytes) (afi dsfid : UInt8) (htech : act.tech = .v uid afi dsfid) :
    listed = [.iso15693] ∧ details 0 = some (.nfcV afi dsfid)
  mifare (hprotocol : act.protocol = Protocol.mifare) (hmode : RadioMode.isA act.mode = true) :
    listed = [.mifareClassic] ∧ details 0 = some (nfcAOf act.tech)

variable {act : Activation} {details : Nat → Option Extras}

/-- The modes of one technology are not those of another. -/
lemma isA_alone {mode : UInt8} (h : RadioMode.isA mode = true) :
    RadioMode.isB mode = false ∧ RadioMode.isF mode = false ∧ RadioMode.isV mode = false := by
  simp only [RadioMode.isA, Bool.or_eq_true, decide_eq_true_eq] at h
  rcases h with ((rfl | rfl) | rfl) | rfl <;> decide

lemma isB_alone {mode : UInt8} (h : RadioMode.isB mode = true) : RadioMode.isA mode = false := by
  cases ha : RadioMode.isA mode with
  | false => rfl
  | true =>
    rw [(isA_alone ha).1] at h
    exact absurd h nofun

lemma isV_alone {mode : UInt8} (h : RadioMode.isV mode = true) :
    RadioMode.isA mode = false ∧ RadioMode.isB mode = false ∧ RadioMode.isF mode = false := by
  simp only [RadioMode.isV, Bool.or_eq_true, decide_eq_true_eq] at h
  rcases h with rfl | rfl <;> decide

/-- The slot of one of the technologies of a target. -/
def slotFor (act : Activation) (technology : Technology) : Slot where
  technology := technology
  handle := act.target
  protocol := act.protocol
  poll := act.pollBytes
  act := act.actBytes technology

lemma listed_technologies (act : Activation) :
    (Slot.ofActivation act).map (·.technology) = act.technologies := by
  unfold Slot.ofActivation
  rw [List.map_map]
  exact List.map_id _

/-- In the NFC-A modes the kept bytes are those of the NFC-A parameters. -/
lemma nfcA_extras (technology : Technology) (hmode : RadioMode.isA act.mode = true)
    (hact : act.actBytes technology = act.selectionBytes) :
    Extras.nfcA (act.actBytes technology).head? act.pollBytes = nfcAOf act.tech := by
  obtain ⟨hb, hf, hv⟩ := isA_alone hmode
  have hpoll : act.pollBytes = match act.tech with
      | .a sensRes _ _ => [sensRes.1, sensRes.2]
      | _ => [] := by
    refine pollBytes_of_read ?_
    unfold Activation.readPoll
    cases act.tech with
    | a sensRes nfcid1 selRsp => simp [hmode]
    | b sensbRes nfcid0 => simp [hb, hv]
    | f sensfRes nfcid2 => simp [hf, hv]
    | v uid afi dsfid => simp [hv]
    | none => simp [hv]
  rw [hact, hpoll]
  unfold Activation.selectionBytes nfcAOf
  cases act.tech <;> rfl

/-- The kept answer of an NFC-B target lacks the identifier, so its parts lie four bytes further in front. -/
lemma nfcB_extras (sensbRes nfcid0 : Bytes) (hmode : RadioMode.isB act.mode = true)
    (htech : act.tech = .b sensbRes nfcid0) (besideNfcA : Bool) :
    (slotFor act .iso14443B).extras besideNfcA = nfcBOf sensbRes := by
  have htypeB : (slotFor act .iso14443B).technology = .iso14443B := rfl
  have hread := readExtras_typeB htypeB besideNfcA
  rw [readExtras_ok] at hread
  rw [Except.ok.inj hread]
  change (if act.pollBytes.length < 7 then Extras.none
    else .nfcB (act.pollBytes.take 4) ((act.pollBytes.drop 4).take 3)) = _
  unfold nfcBOf
  rw [pollBytes_of_read (readPoll_typeB htech hmode), List.length_drop, List.drop_drop]
  by_cases hlong : 11 ≤ sensbRes.length
  · rw [if_neg (by omega), if_pos hlong]
  · rw [if_pos (by omega), if_neg hlong]

/-- In the modes of ISO 15693 the kept answer is family and format of the target, as far as known. -/
lemma vicinity_extras {uid : Bytes} {afi dsfid : UInt8} (hmode : RadioMode.isV act.mode = true)
    (hvicinity : act.vicinity? = some (uid, afi, dsfid)) (besideNfcA : Bool) :
    (slotFor act .iso15693).extras besideNfcA = .nfcV afi dsfid := by
  obtain ⟨ha, hb, hf⟩ := isV_alone hmode
  have hpoll : act.pollBytes = [afi, dsfid] := by
    have hbytes : act.vicinityBytes = [afi, dsfid] := by
      unfold Activation.vicinityBytes
      rw [hvicinity]
    refine pollBytes_of_read ?_
    unfold Activation.readPoll
    rw [hbytes]
    cases act.tech <;> simp [ha, hb, hf, hmode]
  unfold Slot.extras Slot.readExtras slotFor
  rw [hpoll]

lemma isoDep_technologies (h : act.protocol = Protocol.isoDep) :
    act.technologies =
      if RadioMode.isA act.mode then [.iso14443A, .iso14443Part4]
      else if RadioMode.isB act.mode then [.iso14443B, .iso14443Part4] else [.iso14443Part4] := by
  unfold Activation.technologies
  rw [h]
  rfl

/-- An ISO-DEP slot keeps what its interface reported, if that goes with the mode. -/
lemma isoDep_act (h : act.protocol = Protocol.isoDep) :
    act.actBytes .iso14443Part4 =
      if RadioMode.isA act.mode then historicalOf act.interfaceParams
      else if RadioMode.isB act.mode then higherLayerOf act.interfaceParams else [] := by
  unfold Activation.actBytes historicalOf higherLayerOf
  rw [h]
  cases act.interfaceParams with
  | isoDepA historical =>
    change (if RadioMode.isA act.mode then historical else []) = _
    split
    · rfl
    · exact (ite_self _).symm
  | isoDepB higherLayer =>
    change (if RadioMode.isB act.mode then higherLayer else []) = _
    split
    · next hb => rw [isB_alone hb]; rfl
    · exact (ite_self _).symm
  | none =>
    change [] = _
    rw [ite_self, ite_self]

lemma readOff_radio {technology : Technology}
    (h : technology ∈ [Technology.iso14443A, .iso14443B, .iso14443Part4, .iso15693, .mifareClassic]) :
    ReadOff technology := by
  unfold ReadOff IsMessageKind
  revert technology
  simp

/-- What the slots of an activation give reproduces it. -/
lemma reproduces_of_slots
    (h : ∀ position technology, act.technologies[position]? = some technology → ReadOff technology →
      details position = some ((slotFor act technology).extras (Slot.anyNfcA (Slot.ofActivation act)))) :
    Reproduces act ((Slot.ofActivation act).map (·.technology)) details := by
  have hshown {technologies : List Technology} (hlisted : act.technologies = technologies) (position : Nat)
      {technology : Technology} (hat : technologies[position]? = some technology)
      (hradio : technology ∈
        [Technology.iso14443A, .iso14443B, .iso14443Part4, .iso15693, .mifareClassic]) :
      details position = some ((slotFor act technology).extras (technologies.any (· = .iso14443A))) := by
    have hbeside : Slot.anyNfcA (Slot.ofActivation act) = technologies.any (· = .iso14443A) := by
      rw [← hlisted, ← listed_technologies, List.any_map]
      rfl
    rw [h position technology (hlisted ▸ hat) (readOff_radio hradio), hbeside]
  have hvicinity (hprotocol : act.protocol = Protocol.t5t) (hmode : RadioMode.isV act.mode = true)
      (uid : Bytes) {afi dsfid : UInt8} (hknown : act.vicinity? = some (uid, afi, dsfid)) :
      (Slot.ofActivation act).map (·.technology) = [.iso15693] ∧ details 0 = some (.nfcV afi dsfid) := by
    have hlisted : act.technologies = [.iso15693] := by
      unfold Activation.technologies
      rw [hprotocol]
      rfl
    refine ⟨(listed_technologies act).trans hlisted, ?_⟩
    rw [hshown hlisted 0 rfl (by decide), vicinity_extras hmode hknown]
  constructor
  case isoDepA =>
    intro hprotocol hmode
    have hlisted : act.technologies = [.iso14443A, .iso14443Part4] := by
      rw [isoDep_technologies hprotocol, if_pos hmode]
    have hact : act.actBytes .iso14443A = act.selectionBytes := by
      unfold Activation.actBytes
      rw [hprotocol]
      rfl
    refine ⟨(listed_technologies act).trans hlisted, ?_, ?_⟩
    · rw [hshown hlisted 0 rfl (by decide), ← nfcA_extras _ hmode hact]
      rfl
    · rw [hshown hlisted 1 rfl (by decide)]
      change some (Extras.isoDepA (act.actBytes .iso14443Part4)) = _
      rw [isoDep_act hprotocol, if_pos hmode]
  case isoDepB =>
    intro hprotocol hmode sensbRes nfcid0 htech
    have hnot : ¬RadioMode.isA act.mode = true := by simp [isB_alone hmode]
    have hlisted : act.technologies = [.iso14443B, .iso14443Part4] := by
      rw [isoDep_technologies hprotocol, if_neg hnot, if_pos hmode]
    refine ⟨(listed_technologies act).trans hlisted, ?_, ?_⟩
    · rw [hshown hlisted 0 rfl (by decide), nfcB_extras sensbRes nfcid0 hmode htech]
    · rw [hshown hlisted 1 rfl (by decide)]
      change some (Extras.isoDepB (act.actBytes .iso14443Part4)) = _
      rw [isoDep_act hprotocol, if_neg hnot, if_pos hmode]
  case vicinityOfProtocol =>
    intro hprotocol hmode uid afi dsfid hparams
    refine hvicinity hprotocol hmode uid ?_
    unfold Activation.vicinity?
    rw [hparams]
  case vicinityOfTech =>
    intro hprotocol hmode hparams uid afi dsfid htech
    refine hvicinity hprotocol hmode uid ?_
    unfold Activation.vicinity?
    rw [htech]
    cases hfound : act.protocolParams with
    | t5t uid afi dsfid => exact absurd hfound (hparams uid afi dsfid)
    | _ => rfl
  case mifare =>
    intro hprotocol hmode
    have hlisted : act.technologies = [.mifareClassic] := by
      unfold Activation.technologies
      rw [hprotocol]
      rfl
    have hact : act.actBytes .mifareClassic = act.selectionBytes :=
      if_pos (.inr (.inr hprotocol))
    refine ⟨(listed_technologies act).trans hlisted, ?_⟩
    rw [hshown hlisted 0 rfl (by decide), ← nfcA_extras _ hmode hact]
    rfl

end Reports

section Runs

/-- An activation is taken in: a caller hands it to the session, or it is reported to a host that is up and has
a listener. -/
inductive TakesIn (c : Controller σ) (env : Environment σ) (act : Activation) (s : System σ) :
    System σ → Prop
  | byHand : TakesIn c env act s ((SessionCall.welcome act).run env s).2
  | reported (hreceiver : s.receiver = .host) (hlistens : s.host.listener = .recording)
      (hup : s.host.flags.disabling = false) (hfirst : s.host.flags.reconnecting = false)
      (heligible : isEligible act = true) : TakesIn c env act s (c.deliver (.event (.activated act)) s)

variable {c : Controller σ} {env : Environment σ} {act : Activation} {s t u : System σ} {number : Nat}

/-- Either way the tag gets an endpoint of its own, if there is room. -/
lemma TakesIn.endpoints (h : TakesIn c env act s t) (hempty : s.host.session.slots = []) :
    t.host.endpoints = s.host.endpoints ++ [endpointFor [] act] := by
  have hroom : ¬Technology.tableSize ≤ s.host.session.slots.length := by
    rw [hempty]
    decide
  cases h with
  | byHand =>
    unfold SessionCall.welcome
    rw [Op.run_bind, Op.run_host]
    unfold Session.admit? endpointFor
    rw [if_neg hroom, hempty, identifierOf_uid]
    rfl
  | reported hreceiver hlistens hup hfirst heligible =>
    rw [(deliver_host c hreceiver _).host]
    change (hearActivation act s.host).endpoints = _
    rcases welcomes act hup hfirst with
      ⟨hnot, -, -⟩ | ⟨-, hfull, -, -⟩ | ⟨-, -, session, -, hhost, -⟩
    · rw [heligible] at hnot
      exact absurd hnot nofun
    · exact absurd hfull hroom
    · rw [hhost, hempty]
      unfold keepEndpoint
      rw [show ((withTag s.host).mapSession fun _ => session).listener = .recording from hlistens]
      rfl

lemma TakesIn.preserves (h : TakesIn c env act s t) (hempty : s.host.session.slots = []) :
    Preserves s t := by
  have hgains : Gains s.host t.host := gains_one (h.endpoints hempty) rfl
  exact hgains.preserves

/-- The details of the slots that an endpoint began with are what their bytes gave then. -/
lemma first_details (env : Environment σ) (hsound : AllSound u.host) (hpreserves : Preserves t u)
    {before : Endpoint} (hfound : t.host.endpoint? number = some before) {position : Nat} {slot : Slot}
    (hslot : before.slots[position]? = some slot) (hread : ReadOff slot.technology) :
    ((Endpoint.extrasAt number position).run env u).1 =
      some (slot.extras (Slot.anyNfcA before.slots)) := by
  obtain ⟨after, hafter, more, hmore, hkind⟩ := hpreserves.1 number before hfound
  have hmem : after ∈ u.host.endpoints := List.mem_iff_getElem?.mpr ⟨number, hafter⟩
  have hsame : after.slots[position]? = some slot := hpreserves.same_slot hfound hslot hafter
  rw [(extrasAt_reads env (hsound after hmem) hafter hsame hread).1, hmore, anyNfcA_append _ hkind]

/-- A tag that is taken into a session without slots, in whatever run and company, shows at any later time of
the run what its activation reported of it; only slots for a message come behind its own. No read that cuts the
kept bytes leaves its buffer, however long or short the parameters are. -/
theorem lone_tag_shows_its_activation (c : Controller σ) (companions : List (Companion σ)) (config : Config)
    (x : σ) (deeds later : List Deed) (act : Activation) (t : System σ)
    (hempty : (ran c companions config x deeds).host.session.slots = [])
    (htaken : TakesIn c (company c companions) act (ran c companions config x deeds) t)
    (env : Environment σ) :
    let number := (ran c companions config x deeds).host.endpoints.length
    let after := ((do Op.attend; Deed.runAll later : Op σ Unit).run (company c companions) t).2
    (∃ endpoint, after.host.endpoint? number = some endpoint ∧ Lengthens (endpointFor [] act) endpoint) ∧
      Reproduces act ((endpointFor [] act).slots.map (·.technology))
        (fun position => ((Endpoint.extrasAt number position).run env after).1) ∧
      act.readPoll = .ok act.pollBytes ∧
      ∀ slot ∈ (endpointFor [] act).slots, ∀ besideNfcA,
        slot.readExtras besideNfcA = .ok (slot.extras besideNfcA) := by
  intro number after
  have hfound : t.host.endpoint? number = some (endpointFor [] act) := by
    unfold Host.endpoint?
    rw [htaken.endpoints hempty]
    exact List.getElem?_concat_length
  have hwithin (deed : Deed) : deed.Within SparesDetails :=
    deed.within (fun _ => trivial) (fun _ => trivial) fun _ => trivial
  have hcompanions (companion : Companion σ) (_ : companion ∈ companions) :
      companion.Within SparesDetails := within_of_all hwithin companion
  have hcomposes : Composes SparesDetails (company c companions) (Preserves (σ := σ)) :=
    (follows_details c).company companions hcompanions
  have hgoesOn : Preserves t after :=
    along_bind hcomposes (along_attend hcomposes)
      (fun _ => (follows_details c).runs companions hcompanions later fun deed _ => hwithin deed) t
  have hsound : AllSound after.host :=
    hgoesOn.2 ((htaken.preserves hempty).2 (ran_sound c companions config x deeds))
  refine ⟨hgoesOn.1 number _ hfound, reproduces_of_slots ?_, readPoll_ok act,
    fun slot _ => readExtras_ok slot⟩
  intro position technology hlisted hread
  have hslot : (endpointFor [] act).slots[position]? = some (slotFor act technology) := by
    change (act.technologies.map (slotFor act))[position]? = _
    rw [List.getElem?_map, hlisted]
    rfl
  exact first_details env hsound hgoesOn hfound hslot hread

/-- An NFC-B card that is reported to a stack in an empty field, and whose message is then read. -/
theorem type_b_card_shows_its_activation :
    let before := ran Script.controller [] {} {} firstBringUp
    let taken := Script.controller.deliver (.event (.activated (typeBCard 1))) before
    let after := ((do Op.attend; Deed.runAll [.move (.call (.endpoint none .readNdef))] : Op Script Unit).run
      Script.controller.alone taken).2
    before.host.session.slots = [] ∧
      TakesIn Script.controller Script.controller.alone (typeBCard 1) before taken ∧
      (endpointFor [] (typeBCard 1)).slots.map (·.technology) = [.iso14443B, .iso14443Part4] ∧
      ((Endpoint.extrasAt 0 0).run Script.controller.alone after).1 =
        some (.nfcB [0x40, 0x11, 0x22, 0x33] [0x00, 0x81, 0x71]) ∧
      ((Endpoint.extrasAt 0 1).run Script.controller.alone after).1 = some (.isoDepB [0xa1, 0xb2, 0xc3]) := by
  have hempty : (ran Script.controller [] {} {} firstBringUp).host.session.slots = [] := by decide +kernel
  have htaken : TakesIn Script.controller Script.controller.alone (typeBCard 1)
      (ran Script.controller [] {} {} firstBringUp) _ :=
    .reported (by decide +kernel) (by decide +kernel) (by decide +kernel) (by decide +kernel) (by decide)
  have hnumber : (ran Script.controller [] {} {} firstBringUp).host.endpoints.length = 0 := by decide +kernel
  obtain ⟨-, hshown, -, -⟩ := lone_tag_shows_its_activation Script.controller [] {} {} firstBringUp
    [.move (.call (.endpoint none .readNdef))] (typeBCard 1) _ hempty htaken Script.controller.alone
  obtain ⟨hlisted, hradio, htransport⟩ := hshown.isoDepB rfl (by decide) _ _ rfl
  rw [hnumber] at hradio htransport
  exact ⟨hempty, htaken, hlisted, hradio, htransport⟩

end Runs

end NfcStack.Proofs
