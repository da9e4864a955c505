import NfcStack.Proofs.SlotGrowth
import NfcStack.Proofs.TagDiscoveries

/-!
# The details of a slot

Most details of a slot are read off the bytes that were kept of it. They are kept in turn, and since slots are
only added behind the others, what is kept stays what the bytes give. Whether an ISO-DEP slot is taken for one
of NFC-A is decided by the whole list of slots, not by the slots of its own tag.
-/

namespace NfcStack.Proofs

variable {σ α : Type}

section Endpoints

/-- The technologies whose details are read off the bytes of a slot. An Ultralight is asked, and a message
slot comes with its details. -/
def ReadOff (technology : Technology) : Prop :=
  technology ≠ .mifareUltralight ∧ ¬IsMessageKind technology

/-- What is kept of the slots of an endpoint is what their bytes give. -/
def Sound (endpoint : Endpoint) : Prop :=
  ∀ position slot kept, endpoint.slots[position]? = some slot → ReadOff slot.technology →
    endpoint.knownExtras? position = some kept → kept = slot.extras (Slot.anyNfcA endpoint.slots)

variable {endpoint : Endpoint} {position : Nat} {slot : Slot} {extras : Extras}

lemma sound_of_unknown (h : endpoint.extras = []) : Sound endpoint := by
  intro position slot kept _ _ hkept
  unfold Endpoint.knownExtras? at hkept
  rw [h] at hkept
  exact absurd hkept nofun

lemma KeepsDetails.sound {f : Endpoint → Endpoint} (hf : KeepsDetails f) (h : Sound endpoint) :
    Sound (f endpoint) := by
  obtain ⟨hslots, -, hextras⟩ := hf endpoint
  unfold Sound Endpoint.knownExtras? at h ⊢
  rw [hslots, hextras]
  exact h

/-- What is kept already is not replaced by what is kept later. -/
lemma keepExtras_known (endpoint : Endpoint) (position other : Nat) (extras : Extras) :
    (endpoint.keepExtras position extras).knownExtras? other =
      (endpoint.knownExtras? other).or (if other = position then some extras else none) := by
  unfold Endpoint.knownExtras? Endpoint.keepExtras
  rw [List.lookup_append]
  by_cases hsame : other = position
  · subst hsame
    rw [if_pos rfl, List.lookup_cons_self]
  · rw [if_neg hsame, List.lookup_cons, beq_false_of_ne hsame]
    rfl

lemma Sound.keepExtras (h : Sound endpoint) (hslot : endpoint.slots[position]? = some slot)
    (hextras : ReadOff slot.technology → extras = slot.extras (Slot.anyNfcA endpoint.slots)) :
    Sound (endpoint.keepExtras position extras) := by
  intro other found kept hfound hread hkept
  change endpoint.slots[other]? = some found at hfound
  change kept = found.extras (Slot.anyNfcA endpoint.slots)
  rw [keepExtras_known, Option.or_eq_some_iff] at hkept
  rcases hkept with hkept | ⟨-, hnew⟩
  · exact h other found kept hfound hread hkept
  · by_cases hsame : other = position
    · rw [if_pos hsame] at hnew
      rw [hsame] at hfound
      obtain rfl := Option.some.inj (hslot.symm.trans hfound)
      rw [← hextras hread]
      exact (Option.some.inj hnew).symm
    · rw [if_neg hsame] at hnew
      exact absurd hnew nofun

lemma IsMessageKind.not_nfcA (h : IsMessageKind slot.technology) : slot.technology ≠ .iso14443A := by
  rcases h with h | h
  · rw [h]
    nofun
  · rw [h]
    nofun

/-- Slots for a message are not taken for those of an NFC-A target. -/
lemma anyNfcA_append (slots : List Slot) {more : List Slot}
    (hkind : ∀ slot ∈ more, IsMessageKind slot.technology) :
    Slot.anyNfcA (slots ++ more) = Slot.anyNfcA slots := by
  have hmore : Slot.anyNfcA more = false := by
    rw [Slot.anyNfcA, List.any_eq_false]
    intro slot hmem hlisted
    exact (hkind slot hmem).not_nfcA (of_decide_eq_true hlisted)
  unfold Slot.anyNfcA at hmore ⊢
  rw [List.any_append, hmore, Bool.or_false]

lemma Sound.append (h : Sound endpoint) (hkind : IsMessageKind slot.technology) :
    Sound (endpoint.append slot extras) := by
  intro other found kept hfound hread hkept
  change (endpoint.slots ++ [slot])[other]? = some found at hfound
  change (endpoint.keepExtras endpoint.slots.length extras).knownExtras? other = some kept at hkept
  change kept = found.extras (Slot.anyNfcA (endpoint.slots ++ [slot]))
  rw [anyNfcA_append _ (List.forall_mem_singleton.mpr hkind)]
  rcases Nat.lt_trichotomy other endpoint.slots.length with hbefore | hlast | hbehind
  · rw [List.getElem?_append_left hbefore] at hfound
    rw [keepExtras_known, if_neg (Nat.ne_of_lt hbefore), Option.or_none] at hkept
    exact h other found kept hfound hread hkept
  · rw [hlast, List.getElem?_concat_length] at hfound
    obtain rfl := Option.some.inj hfound
    exact absurd hkind hread.2
  · rw [List.getElem?_eq_none (by rw [List.length_append]; exact hbehind)] at hfound
    exact absurd hfound nofun

/-- The only slots that come behind those of an endpoint are slots for a message. -/
def Lengthens (before after : Endpoint) : Prop :=
  ∃ more, after.slots = before.slots ++ more ∧ ∀ slot ∈ more, IsMessageKind slot.technology

lemma lengthens_of_eq {before after : Endpoint} (h : after.slots = before.slots) :
    Lengthens before after :=
  ⟨[], by rw [h, List.append_nil], fun _ hmem => absurd hmem List.not_mem_nil⟩

lemma Lengthens.trans {first next last : Endpoint} (h₁ : Lengthens first next)
    (h₂ : Lengthens next last) : Lengthens first last := by
  obtain ⟨more, hmore, hkind⟩ := h₁
  obtain ⟨rest, hrest, hkind'⟩ := h₂
  refine ⟨more ++ rest, by rw [hrest, hmore, List.append_assoc], ?_⟩
  exact List.forall_mem_append.mpr ⟨hkind, hkind'⟩

end Endpoints

section Runs

/-- Acts that add nothing to the slots of an endpoint or to what is kept of them. -/
def SparesDetails : Act → Prop
  | .change (.endpoint _ f) => KeepsDetails f
  | _ => True

lemma sparesEndpoints_sparesDetails : ∀ act, SparesEndpoints act → SparesDetails act := by
  rintro (request | event | change) h
  · trivial
  · trivial
  · cases change with
    | endpoint number f => exact h.elim
    | _ => trivial

lemma tagWork_sparesDetails (act : Act) (h : TagWork act) : SparesDetails act :=
  sparesEndpoints_sparesDetails act (tagWork_sparesEndpoints act h)

lemma sparesDetails_plain : ∀ act, ¬Particular act → SparesDetails act := by
  rintro (request | event | change) h
  · trivial
  · trivial
  · cases change with
    | endpoint number f => exact not_not.mp h
    | _ => trivial

/-- All that is kept of slots is what their bytes give. -/
def AllSound (host : Host) : Prop := ∀ endpoint ∈ host.endpoints, Sound endpoint

/-- From one system to another slots for a message were added at most, and details stayed what the bytes
give. -/
def Preserves (s t : System σ) : Prop :=
  EndpointsBy (fun _ => Lengthens) s t ∧ (AllSound s.host → AllSound t.host)

variable {c : Controller σ} {env : Environment σ} {s t u : System σ} {number position : Nat} {slot : Slot}

lemma Preserves.trans (h₁ : Preserves s t) (h₂ : Preserves t u) : Preserves s u :=
  ⟨h₁.1.trans Lengthens.trans h₂.1, fun h => h₂.2 (h₁.2 h)⟩

/-- A slot stays where it is. -/
lemma Preserves.same_slot (h : Preserves s t) {endpoint after : Endpoint}
    (hfound : s.host.endpoint? number = some endpoint) (hslot : endpoint.slots[position]? = some slot)
    (hafter : t.host.endpoint? number = some after) : after.slots[position]? = some slot := by
  obtain ⟨last, hlast, more, hmore, -⟩ := h.1 number endpoint hfound
  obtain rfl := Option.some.inj (hlast.symm.trans hafter)
  rw [hmore, List.getElem?_append_left (List.getElem?_eq_some_iff.mp hslot).1]
  exact hslot

lemma Gains.preserves (h : Gains s.host t.host) : Preserves s t := by
  have hgrown : EndpointsBy (fun _ => Lengthens) s t :=
    endpointsBy_of_prefix (fun _ _ => lengthens_of_eq rfl) h.covers
  refine ⟨hgrown, fun hs => ?_⟩
  obtain ⟨new, hnew, hnone⟩ := h
  unfold AllSound
  rw [hnew, List.forall_mem_append]
  exact ⟨hs, fun endpoint hmem => sound_of_unknown (hnone endpoint hmem)⟩

/-- A change of one endpoint. -/
lemma mapEndpoint_preserves {f : Endpoint → Endpoint}
    (hslots : ∀ endpoint, Lengthens endpoint (f endpoint))
    (hsound : ∀ endpoint, s.host.endpoint? number = some endpoint → Sound endpoint → Sound (f endpoint)) :
    Preserves s (s.mapHost (Host.mapEndpoint number f)) := by
  refine ⟨fun other endpoint hfound => ?_, fun hs after hmem => ?_⟩
  · have hafter := mapEndpoint_endpoint number other f s.host
    rw [hfound, Option.map_some] at hafter
    refine ⟨_, hafter, ?_⟩
    split
    · exact hslots endpoint
    · exact lengthens_of_eq rfl
  · obtain ⟨other, hother⟩ := List.mem_iff_getElem?.mp hmem
    have hafter := mapEndpoint_endpoint number other f s.host
    rw [show (s.host.mapEndpoint number f).endpoint? other = some after from hother] at hafter
    obtain ⟨before, hbefore, rfl⟩ := Option.map_eq_some_iff.mp hafter.symm
    have hkept : Sound before := hs before (List.mem_iff_getElem?.mpr ⟨other, hbefore⟩)
    split
    · next hsame =>
      subst hsame
      exact hsound before hbefore hkept
    · exact hkept

lemma keepExtras_preserves (slot : Slot) {extras : Extras}
    (h : ∀ endpoint, s.host.endpoint? number = some endpoint → endpoint.slots[position]? = some slot ∧
      (ReadOff slot.technology → extras = slot.extras (Slot.anyNfcA endpoint.slots))) :
    Preserves s (s.mapHost (Host.mapEndpoint number fun endpoint => endpoint.keepExtras position extras)) := by
  refine mapEndpoint_preserves (fun endpoint => lengthens_of_eq rfl) fun endpoint hfound hs => ?_
  obtain ⟨hslot, hextras⟩ := h endpoint hfound
  exact hs.keepExtras hslot hextras

lemma steps_preserve (c : Controller σ) : FollowsSteps c SparesDetails (Preserves (σ := σ)) where
  refl _ := (gains_of_eq rfl).preserves
  trans := Preserves.trans
  queue _ _ := (gains_of_eq rfl).preserves
  deliver s happening _ := (deliver_gains c happening s).preserves
  request _ _ _ _ := (gains_of_eq rfl).preserves
  query _ := (gains_of_eq rfl).preserves
  inUse _ _ := (gains_of_eq rfl).preserves
  heldUp _ := (gains_of_eq rfl).preserves
  late _ _ _ := (gains_of_eq rfl).preserves
  selects _ _ _ := (gains_of_eq rfl).preserves
  change change s hp := by
    cases change with
    | endpoint number f =>
      exact mapEndpoint_preserves (fun endpoint => lengthens_of_eq (hp endpoint).1)
        fun endpoint _ h => KeepsDetails.sound hp h
    | waits f hf => exact (gains_of_eq (hf.endpoints s.host)).preserves
    | welcome act => exact (welcomed_gains act s.host).preserves
    | _ => exact (gains_of_eq rfl).preserves

lemma computeExtras_reads (env : Environment σ) (number : Nat) (besideNfcA : Bool) {slot : Slot}
    (h : slot.technology ≠ .mifareUltralight) (s : System σ) :
    (Endpoint.computeExtras number slot besideNfcA).run env s = (slot.extras besideNfcA, s) := by
  unfold Endpoint.computeExtras
  split
  · next hultralight => exact absurd hultralight h
  · rfl

section Operations

variable (hR : Composes SparesDetails env (Preserves (σ := σ)))

include hR

lemma extrasAt_preserves (number position : Nat) :
    Along Preserves env (Endpoint.extrasAt number position) := by
  intro s
  unfold Endpoint.extrasAt
  rw [Op.run_bind, Op.run_read]
  cases hfound : s.host.endpoint? number with
  | none => exact along_pure hR _ s
  | some endpoint =>
    dsimp only
    split
    · exact along_pure hR _ s
    · split
      · exact along_pure hR _ s
      · next slot hslot =>
        rw [Op.run_bind]
        by_cases hultralight : slot.technology = .mifareUltralight
        · -- While the tag is asked, others may add slots to the endpoint.
          obtain ⟨-, hc⟩ := tagWork_follows tagWork_sparesDetails hR
          have hasked := computeExtras_along hR hc number slot (Slot.anyNfcA endpoint.slots) s
          refine hR.trans hasked (keepExtras_preserves slot fun after hafter => ?_)
          exact ⟨hasked.same_slot hfound hslot hafter, fun hread => absurd hultralight hread.1⟩
        · rw [computeExtras_reads env number _ hultralight]
          refine keepExtras_preserves slot fun after hafter => ?_
          obtain rfl := Option.some.inj (hfound.symm.trans hafter)
          exact ⟨hslot, fun _ => rfl⟩

lemma addNdef_preserves (number : Nat) : Along Preserves env (Endpoint.addNdef number) := by
  obtain ⟨hs, hc⟩ := tagWork_follows tagWork_sparesDetails hR
  refine along_bind hR (along_read hR _) fun endpoint => ?_
  split
  · exact along_pure hR _
  · next endpoint =>
    split
    · exact along_pure hR _
    · refine along_bind hR (fun s => ?_) fun _ => along_reserving hR _ fun s => ?_
      · exact mapEndpoint_preserves (fun endpoint => lengthens_of_eq rfl) fun _ _ h => h
      · have hsearch := search_along hR hs hc (fun act _ => sparesDetails_plain act) endpoint.slots none s
        have hresult (slot : Slot) (extras : Extras) (h : ((Endpoint.search endpoint.slots none).run env s).1 =
            some (slot, extras)) := search_found env endpoint.slots none s h
        rw [Op.run_bind]
        generalize (Endpoint.search endpoint.slots none).run env s = result at hsearch hresult ⊢
        obtain ⟨result, t⟩ := result
        refine hR.trans hsearch ?_
        cases result with
        | none => exact along_pure hR _ t
        | some result =>
          obtain ⟨slot, extras⟩ := result
          obtain ⟨found, -, technology, hkind, rfl⟩ := hresult slot extras rfl
          exact mapEndpoint_preserves
            (fun endpoint => ⟨_, rfl, List.forall_mem_singleton.mpr hkind⟩) fun _ _ h => h.append hkind

end Operations

/-- However a run goes, whoever acts in it, the details that are kept are what the bytes give. -/
lemma follows_details (c : Controller σ) : FollowsRuns c SparesDetails (Preserves (σ := σ)) where
  plain := sparesDetails_plain
  evolves h := (steps_preserve c).evolves h
  trans := Preserves.trans
  occupy {s t} _ h := by
    have hback : Preserves s (t.mapHost (giveBack s.host.inUse)) := h
    exact hback.trans (release_gains c _).preserves
  selection _ hR := (tagWork_follows tagWork_sparesDetails hR).1
  content _ hR := (tagWork_follows tagWork_sparesDetails hR).2
  routing _ hR := sparesMode_followsRouting hR fun act h =>
    sparesEndpoints_sparesDetails act (sparesTag_sparesEndpoints act (sparesMode_sparesTag act h))
  endpoints _ hR := ⟨extrasAt_preserves hR, addNdef_preserves hR⟩

lemma ran_sound (c : Controller σ) (companions : List (Companion σ)) (config : Config) (x : σ)
    (deeds : List Deed) : AllSound (ran c companions config x deeds).host := by
  have hpreserves : Preserves (booted config x) (ran c companions config x deeds) := by
    have hwithin (deed : Deed) : deed.Within SparesDetails :=
      deed.within (fun _ => trivial) (fun _ => trivial) fun _ => trivial
    exact (follows_details c).runs companions (fun companion _ => within_of_all hwithin companion) deeds
      (fun deed _ => hwithin deed) (booted config x)
  exact hpreserves.2 fun endpoint hmem => absurd hmem List.not_mem_nil

end Runs

section IsoDep

variable {s : System σ} {number position : Nat} {endpoint : Endpoint} {slot : Slot}

/-- Details that are read off are the same each time, and nothing is asked for them. -/
lemma extrasAt_reads (env : Environment σ) (hs : Sound endpoint)
    (hfound : s.host.endpoint? number = some endpoint) (hslot : endpoint.slots[position]? = some slot)
    (hread : ReadOff slot.technology) :
    let asked := (Endpoint.extrasAt number position).run env s
    asked.1 = some (slot.extras (Slot.anyNfcA endpoint.slots)) ∧ asked.2.trace = s.trace := by
  cases hknown : endpoint.knownExtras? position with
  | some kept =>
    rw [extrasAt_known env hfound hknown, hs position slot kept hslot hread hknown]
    exact ⟨rfl, rfl⟩
  | none =>
    unfold Endpoint.extrasAt
    rw [Op.run_bind, Op.run_read, hfound]
    dsimp only
    rw [hknown]
    dsimp only
    rw [hslot]
    dsimp only
    rw [Op.run_bind, computeExtras_reads env number _ hread.1]
    exact ⟨rfl, rfl⟩

/-- An NFC-A slot of the same target as a slot is listed. -/
def hasNfcASibling (slots : List Slot) (slot : Slot) : Bool :=
  slots.any fun other => other.technology = .iso14443A && other.handle == slot.handle

/-- The details of an ISO-DEP slot by the slots of its own target. -/
def isoDepOfTarget (slots : List Slot) (slot : Slot) : Extras :=
  if hasNfcASibling slots slot then .isoDepA slot.act else .isoDepB slot.act

/-- In every run the details of an ISO-DEP slot go by whether any NFC-A slot is listed, whatever target it
belongs to. They are those of its own target exactly if that target has an NFC-A slot or no target has. -/
theorem iso_dep_details_by_whole_list (c : Controller σ) (companions : List (Companion σ)) (config : Config)
    (x : σ) (deeds : List Deed) (env : Environment σ)
    (hfound : (ran c companions config x deeds).host.endpoint? number = some endpoint)
    (hslot : endpoint.slots[position]? = some slot) (hisoDep : slot.technology = .iso14443Part4) :
    let asked := (Endpoint.extrasAt number position).run env (ran c companions config x deeds)
    asked.1 = some (if Slot.anyNfcA endpoint.slots then .isoDepA slot.act else .isoDepB slot.act) ∧
      asked.2.trace = (ran c companions config x deeds).trace ∧
      (asked.1 = some (isoDepOfTarget endpoint.slots slot) ↔
        hasNfcASibling endpoint.slots slot = true ∨ Slot.anyNfcA endpoint.slots = false) := by
  have hsound : Sound endpoint :=
    ran_sound c companions config x deeds endpoint (List.mem_iff_getElem?.mpr ⟨number, hfound⟩)
  have hread : ReadOff slot.technology := by
    rw [hisoDep]
    exact ⟨nofun, by rintro (h | h) <;> exact absurd h nofun⟩
  intro asked
  obtain ⟨hgiven, hquiet⟩ := extrasAt_reads env hsound hfound hslot hread
  have hgiven : asked.1 =
      some (if Slot.anyNfcA endpoint.slots then .isoDepA slot.act else .isoDepB slot.act) := by
    rw [hgiven]
    unfold Slot.extras Slot.readExtras
    rw [hisoDep]
  refine ⟨hgiven, hquiet, ?_⟩
  have hlisted : hasNfcASibling endpoint.slots slot = true → Slot.anyNfcA endpoint.slots = true := by
    intro h
    obtain ⟨other, hmem, hboth⟩ := List.any_eq_true.mp h
    exact List.any_eq_true.mpr ⟨other, hmem, (Bool.and_eq_true_iff.mp hboth).1⟩
  rw [hgiven]
  unfold isoDepOfTarget
  cases hsibling : hasNfcASibling endpoint.slots slot with
  | true => simp [hlisted hsibling]
  | false => cases Slot.anyNfcA endpoint.slots <;> simp

/-- A stack comes up and finds targets one after the other. -/
def presenting (targets : List Activation) : List Deed :=
  firstBringUp ++ reports (targets.map .activated)

def presented (targets : List Activation) : System Script :=
  ran Script.controller [] {} {} (presenting targets)

/-- The endpoint that lists the slots of all these targets, for the last of them. -/
def endpointOf (targets : List Activation) : Endpoint :=
  { slots := targets.flatMap Slot.ofActivation
    uid := (targets.getLast?.map Activation.uid).getD [] }

/-- The ISO-DEP slot of a target. -/
def isoDepSlot (target : Activation) : Slot :=
  { technology := .iso14443Part4
    handle := target.target
    protocol := target.protocol
    poll := target.pollBytes
    act := target.actBytes .iso14443Part4 }

def typeACards : List Activation := [Sample.topaz 1, Sample.isoDepCard 2]

/-- The details of an NFC-A card are its own, also where another NFC-A tag is listed. -/
theorem card_beside_topaz :
    let asked := (Endpoint.extrasAt 1 2).run Script.controller.alone (presented typeACards)
    (presented typeACards).host.endpoint? 1 = some (endpointOf typeACards) ∧
      (endpointOf typeACards).slots[2]? = some (isoDepSlot (Sample.isoDepCard 2)) ∧
      asked.1 = some (isoDepOfTarget (endpointOf typeACards).slots (isoDepSlot (Sample.isoDepCard 2))) ∧
      asked.1 = some (.isoDepA [0x80, 0x31, 0x80, 0x65]) ∧ asked.2.trace = (presented typeACards).trace := by
  have hfound : (presented typeACards).host.endpoint? 1 = some (endpointOf typeACards) := by decide +kernel
  have hslot : (endpointOf typeACards).slots[2]? = some (isoDepSlot (Sample.isoDepCard 2)) := by
    decide +kernel
  have hsibling : hasNfcASibling (endpointOf typeACards).slots (isoDepSlot (Sample.isoDepCard 2)) = true := by
    decide +kernel
  obtain ⟨-, hquiet, hown⟩ := iso_dep_details_by_whole_list Script.controller [] {} {}
    (presenting typeACards) Script.controller.alone hfound hslot rfl
  have hgiven := hown.mpr (.inl hsibling)
  refine ⟨hfound, hslot, hgiven, hgiven.trans ?_, hquiet⟩
  unfold isoDepOfTarget
  rw [if_pos hsibling]
  rfl

/-- A card that was polled in NFC-B and speaks ISO-DEP. -/
def typeBCard (target : UInt8) : Activation :=
  { target
    protocol := Protocol.isoDep
    mode := RadioMode.pollB
    interface := RadioInterface.isoDep
    tech := .b [0x50, 0x10, 0x20, 0x30, 0x40, 0x11, 0x22, 0x33, 0x00, 0x81, 0x71] [0x10, 0x20, 0x30, 0x40]
    interfaceParams := .isoDepB [0xa1, 0xb2, 0xc3]
    protocolParams := .none }

def mixedCards : List Activation := [Sample.isoDepCard 1, typeBCard 2]

/-- After an NFC-A card an NFC-B card is taken for one of NFC-A. -/
theorem type_b_card_taken_for_a :
    let asked := (Endpoint.extrasAt 1 3).run Script.controller.alone (presented mixedCards)
    (presented mixedCards).host.endpoint? 1 = some (endpointOf mixedCards) ∧
      (endpointOf mixedCards).slots[3]? = some (isoDepSlot (typeBCard 2)) ∧
      hasNfcASibling (endpointOf mixedCards).slots (isoDepSlot (typeBCard 2)) = false ∧
      isoDepOfTarget (endpointOf mixedCards).slots (isoDepSlot (typeBCard 2)) = .isoDepB [0xa1, 0xb2, 0xc3] ∧
      asked.1 = some (.isoDepA [0xa1, 0xb2, 0xc3]) :=
  ⟨by decide +kernel, by decide +kernel, by decide +kernel, by decide +kernel, by decide +kernel⟩

end IsoDep

end NfcStack.Proofs
