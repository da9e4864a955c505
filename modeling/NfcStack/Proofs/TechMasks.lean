import NfcStack.Proofs.CardBringUp

/-!
# Masks of technologies

What a mask contains is judged by its bits, and of a route only the technologies in it matter, not the states
of the device. What is asked for in bringing card emulation up routes to the configured environment exactly
what is settled to be routed off the host.
-/

namespace NfcStack.Proofs

section Masks

lemma contains_iff (mask part : TechMask) : mask.contains part = true ↔
    ∀ i, part.bits.toBitVec.getLsbD i = true → mask.bits.toBitVec.getLsbD i = true := by
  have hbits : mask.contains part = true ↔
      mask.bits.toBitVec &&& part.bits.toBitVec = part.bits.toBitVec := by
    rw [TechMask.contains, beq_iff_eq, ← UInt8.toBitVec_inj]
    rfl
  rw [hbits]
  constructor
  · intro h i hi
    rw [← h, BitVec.getLsbD_and, Bool.and_eq_true] at hi
    exact hi.1
  · refine fun h => BitVec.eq_of_getLsbD_eq fun i _ => ?_
    rw [BitVec.getLsbD_and, Bool.and_eq_right_iff_imp]
    exact h i

lemma contains_trans {mask part least : TechMask} (h₁ : mask.contains part = true)
    (h₂ : part.contains least = true) : mask.contains least = true :=
  (contains_iff _ _).mpr fun i hi => (contains_iff _ _).mp h₁ i ((contains_iff _ _).mp h₂ i hi)

lemma union_getLsbD (left right : TechMask) (i : Nat) : (left ∪ right).bits.toBitVec.getLsbD i =
    (left.bits.toBitVec.getLsbD i || right.bits.toBitVec.getLsbD i) := BitVec.getLsbD_or

lemma union_contains_left (left right : TechMask) : (left ∪ right).contains left = true := by
  refine (contains_iff _ _).mpr fun i hi => ?_
  rw [union_getLsbD, hi, Bool.true_or]

lemma union_contains_right (left right : TechMask) : (left ∪ right).contains right = true := by
  refine (contains_iff _ _).mpr fun i hi => ?_
  rw [union_getLsbD, hi, Bool.or_true]

/-- Nothing is in no mask. -/
lemma empty_contains {part : TechMask} (h : (∅ : TechMask).contains part = true) :
    part.isEmpty = true := by
  change ((0 : UInt8) &&& part.bits == part.bits) = true at h
  rw [UInt8.zero_and] at h
  exact beq_iff_eq.mpr (beq_iff_eq.mp h).symm

/-- A technology in which the host may listen is one bit. -/
lemma hostTech_bit {tech : TechMask} (h : tech ∈ CardEmulation.hostTechs) : ∃ i,
    (∀ mask : TechMask, mask.contains tech = mask.bits.toBitVec.getLsbD i) ∧
      ∀ part : TechMask, tech.contains part = true → part.isEmpty = false → part = tech := by
  have hcases : tech = TechMask.a ∨ tech = TechMask.b := by
    simpa [CardEmulation.hostTechs] using h
  have hpart (mask part : TechMask) (hmask : mask.contains part = true) :
      mask.bits.toBitVec &&& part.bits.toBitVec = part.bits.toBitVec := by
    rw [TechMask.contains, beq_iff_eq, ← UInt8.toBitVec_inj] at hmask
    exact hmask
  have hsome (part : TechMask) (hsome : part.isEmpty = false) : part.bits.toBitVec ≠ 0#8 := by
    intro hzero
    have hempty : part.bits = 0 := UInt8.toBitVec_inj.mp hzero
    rw [TechMask.isEmpty, hempty] at hsome
    exact absurd hsome nofun
  have heq (mask part : TechMask) (hbits : part.bits.toBitVec = mask.bits.toBitVec) : part = mask :=
    congrArg TechMask.mk (UInt8.toBitVec_inj.mp hbits)
  rcases hcases with rfl | rfl
  · have hbit : ∀ bits : BitVec 8, bits &&& 1#8 = 1#8 ↔ bits.getLsbD 0 = true := by decide
    have hleast : ∀ bits : BitVec 8, 1#8 &&& bits = bits → bits ≠ 0#8 → bits = 1#8 := by decide
    refine ⟨0, fun mask => ?_, fun part h hs => heq _ _ (hleast _ (hpart _ _ h) (hsome part hs))⟩
    rw [Bool.eq_iff_iff, TechMask.contains, beq_iff_eq, ← UInt8.toBitVec_inj]
    exact hbit mask.bits.toBitVec
  · have hbit : ∀ bits : BitVec 8, bits &&& 2#8 = 2#8 ↔ bits.getLsbD 1 = true := by decide
    have hleast : ∀ bits : BitVec 8, 2#8 &&& bits = bits → bits ≠ 0#8 → bits = 2#8 := by decide
    refine ⟨1, fun mask => ?_, fun part h hs => heq _ _ (hleast _ (hpart _ _ h) (hsome part hs))⟩
    rw [Bool.eq_iff_iff, TechMask.contains, beq_iff_eq, ← UInt8.toBitVec_inj]
    exact hbit mask.bits.toBitVec

lemma hostTech_some {tech : TechMask} (h : tech ∈ CardEmulation.hostTechs) : tech.isEmpty = false := by
  revert tech
  decide

lemma union_contains {tech : TechMask} (h : tech ∈ CardEmulation.hostTechs) (left right : TechMask) :
    (left ∪ right).contains tech = (left.contains tech || right.contains tech) := by
  obtain ⟨i, hbit, -⟩ := hostTech_bit h
  rw [hbit, hbit, hbit]
  exact union_getLsbD left right i

end Masks

section Routes

/-- What is routed in the states of the device. -/
def statesOf (powers : PowerRouting TechMask) : List TechMask :=
  [powers.switchOn, powers.switchOff, powers.batteryOff, powers.screenLock, powers.screenOff,
    powers.screenOffLock]

/-- A technology is routed in some state of the device. -/
def Routes (powers : PowerRouting TechMask) (tech : TechMask) : Prop :=
  ∃ mask ∈ statesOf powers, mask.contains tech = true

/-- In every state all of a mask is routed or nothing. -/
def AllOrNone (mask : TechMask) (powers : PowerRouting TechMask) : Prop :=
  ∀ state ∈ statesOf powers, state = mask ∨ state = ∅

lemma host_allOrNone (mask : TechMask) (secure : Bool) :
    AllOrNone mask (PowerRouting.host mask secure) := by
  cases secure <;> simp [AllOrNone, statesOf, PowerRouting.host]

lemma offHost_allOrNone (mask : TechMask) (secure : Bool) :
    AllOrNone mask (PowerRouting.offHost mask secure) := by
  cases secure <;> simp [AllOrNone, statesOf, PowerRouting.offHost]

lemma AllOrNone.contains {mask tech : TechMask} {powers : PowerRouting TechMask}
    (h : AllOrNone mask powers) (hroutes : Routes powers tech) (hsome : tech.isEmpty = false) :
    mask.contains tech = true := by
  obtain ⟨state, hstate, htech⟩ := hroutes
  rcases h state hstate with rfl | rfl
  · exact htech
  · rw [empty_contains htech] at hsome
    exact absurd hsome nofun

lemma routes_switchOn {powers : PowerRouting TechMask} {tech : TechMask}
    (h : powers.switchOn.contains tech = true) : Routes powers tech :=
  ⟨_, List.mem_cons_self, h⟩

end Routes

section Requests

/-- Whether a request routes technologies. -/
def setsTech : Request → Bool
  | .setTechRouting _ _ => true
  | _ => false

/-- A request that routes to the host none of what is routed off it, and to others only that. -/
def Parts (routed : TechMask) : Request → Prop
  | .setTechRouting handle powers => ∀ tech, tech.isEmpty = false → Routes powers tech →
      (handle = NfceeHandle.host ↔ routed.contains tech = false)
  | _ => True

lemma parts_of_other {request : Request} (h : setsTech request = false) (routed : TechMask) :
    Parts routed request := by
  cases request with
  | setTechRouting handle powers => exact absurd h nofun
  | _ => trivial

lemma ofId_ne_host {route : UInt8} (h : route ≠ hostRoute) : NfceeHandle.ofId route ≠ .host := by
  have hcode : ∀ id : BitVec 8, 0x400#16 ||| id.setWidth 16 = 0x400#16 → id = 0#8 := by decide
  intro hhost
  have hbits : (NfceeHandle.ofId route).code.toBitVec = NfceeHandle.host.code.toBitVec := by rw [hhost]
  exact h (UInt8.toBitVec_inj.mp (hcode route.toBitVec hbits))

/-- Adding up what is offered keeps what was there. -/
lemma offered_contains_start (announced : List NfceeAnnouncement) (routed : TechMask) :
    (announced.foldl (fun routed announced => routed ∪ CardEmulation.offeredTech announced)
      routed).contains routed = true := by
  induction announced generalizing routed with
  | nil => exact (contains_iff _ _).mpr fun _ => id
  | cons first rest ih => exact contains_trans (ih _) (union_contains_left _ _)

lemma offered_contains {announced : List NfceeAnnouncement} {one : NfceeAnnouncement}
    (h : one ∈ announced) (routed : TechMask) :
    (announced.foldl (fun routed announced => routed ∪ CardEmulation.offeredTech announced)
      routed).contains (CardEmulation.offeredTech one) = true := by
  induction announced generalizing routed with
  | nil => exact absurd h List.not_mem_nil
  | cons first rest ih =>
    rcases List.mem_cons.mp h with rfl | hrest
    · exact contains_trans (offered_contains_start rest _) (union_contains_right _ _)
    · exact ih hrest _

/-- What is routed off the host was offered by one of the environments. -/
lemma offered_contains_iff {tech : TechMask} (h : tech ∈ CardEmulation.hostTechs)
    (announced : List NfceeAnnouncement) (routed : TechMask) :
    (announced.foldl (fun routed announced => routed ∪ CardEmulation.offeredTech announced)
        routed).contains tech = true ↔
      routed.contains tech = true ∨
        ∃ one ∈ announced, (CardEmulation.offeredTech one).contains tech = true := by
  induction announced generalizing routed with
  | nil => simp
  | cons first rest ih =>
    rw [List.foldl_cons, ih, union_contains h, Bool.or_eq_true, or_assoc]
    simp only [List.mem_cons, exists_eq_or_imp]

namespace CardSetting

variable (setting : CardSetting)

lemma mem_targets {announced : NfceeAnnouncement} (h : announced ∈ setting.targets) :
    setting.routing.offHostRoute ≠ hostRoute ∧
      announced.handle = NfceeHandle.ofId setting.routing.offHostRoute := by
  unfold targets at h
  split at h
  · exact absurd h List.not_mem_nil
  · next hroute => exact ⟨hroute, of_decide_eq_true (List.mem_filter.mp h).2⟩

lemma mem_offer {announced : NfceeAnnouncement} {request : Request}
    (h : request ∈ setting.offer announced) (hsets : setsTech request = true) :
    request = .setTechRouting announced.handle
      (PowerRouting.offHost (CardEmulation.offeredTech announced) setting.secure) := by
  unfold offer at h
  dsimp only at h
  split at h
  · exact absurd h List.not_mem_nil
  · rcases List.mem_cons.mp h with rfl | h
    · exact absurd hsets nofun
    · exact List.mem_singleton.mp h

/-- Of all that is asked for in bringing card emulation up, only routing what the environments offer
routes technologies. -/
lemma mem_techRequests {request : Request} (h : request ∈ setting.techRequests)
    (hsets : setsTech request = true) : ∃ announced ∈ setting.targets, request =
      .setTechRouting announced.handle
        (PowerRouting.offHost (CardEmulation.offeredTech announced) setting.secure) := by
  rcases List.mem_append.mp h with h | h
  · obtain ⟨announced, hmem, h⟩ := List.mem_flatMap.mp h
    exact ⟨announced, hmem, setting.mem_offer h hsets⟩
  · obtain ⟨tech, -, rfl⟩ := List.mem_map.mp h
    exact absurd hsets nofun

lemma techRequests_part : ∀ request ∈ setting.techRequests, Parts setting.offHostTech request := by
  intro request h
  cases hsets : setsTech request with
  | false => exact parts_of_other hsets _
  | true =>
    obtain ⟨announced, hmem, rfl⟩ := setting.mem_techRequests h hsets
    obtain ⟨hroute, hhandle⟩ := setting.mem_targets hmem
    intro tech hsome hroutes
    have hoffered := (offHost_allOrNone _ _).contains hroutes hsome
    have hcontains : setting.offHostTech.contains tech = true :=
      contains_trans (offered_contains hmem ∅) hoffered
    rw [hhandle, hcontains]
    exact iff_of_false (ofId_ne_host hroute) nofun

/-- A technology of the host is routed off it exactly if a route for it is asked for. -/
theorem offHostTech_iff {tech : TechMask} (htech : tech ∈ CardEmulation.hostTechs) :
    setting.offHostTech.contains tech = true ↔
      ∃ handle powers, .setTechRouting handle powers ∈ setting.techRequests ∧ Routes powers tech := by
  have hnone : (∅ : TechMask).contains tech = false :=
    Bool.eq_false_iff.mpr fun hempty => by
      have hsome := hostTech_some htech
      rw [empty_contains hempty] at hsome
      exact absurd hsome nofun
  constructor
  · intro hrouted
    obtain hempty | ⟨one, hone, hoffered⟩ := (offered_contains_iff htech setting.targets ∅).mp hrouted
    · rw [hnone] at hempty
      exact absurd hempty nofun
    · have hsome : (CardEmulation.offeredTech one).isEmpty = false := by
        refine Bool.eq_false_iff.mpr fun hempty => ?_
        have hzero : CardEmulation.offeredTech one = ∅ := congrArg TechMask.mk (eq_of_beq hempty)
        rw [hzero, hnone] at hoffered
        exact absurd hoffered nofun
      have hoffer : setting.offer one =
          [.clearTechRouting one.handle (CardEmulation.offeredTech one),
            .setTechRouting one.handle
              (PowerRouting.offHost (CardEmulation.offeredTech one) setting.secure)] := by
        unfold offer
        dsimp only
        rw [hsome]
        rfl
      have hroutes : Routes (PowerRouting.offHost (CardEmulation.offeredTech one) setting.secure) tech := by
        apply routes_switchOn
        cases setting.secure with
        | true => exact hoffered
        | false => exact hoffered
      refine ⟨one.handle, _, List.mem_append_left _ (List.mem_flatMap.mpr ⟨one, hone, ?_⟩), hroutes⟩
      rw [hoffer]
      exact List.mem_cons_of_mem _ (List.mem_singleton_self _)
  · rintro ⟨handle, powers, hmem, hroutes⟩
    obtain ⟨one, hone, hrequest⟩ := setting.mem_techRequests hmem rfl
    obtain ⟨-, rfl⟩ := Request.setTechRouting.inj hrequest
    have hoffered := (offHost_allOrNone _ _).contains hroutes (hostTech_some htech)
    exact (offered_contains_iff htech setting.targets ∅).mpr (.inr ⟨one, hone, hoffered⟩)

/-- What is routed off the host and listened to is withdrawn from it. -/
lemma withdraws {tech : TechMask} (htech : tech ∈ CardEmulation.hostTechs)
    (hrouted : setting.offHostTech.contains tech = true)
    (hlistens : setting.routing.hostListenTech.contains tech = true) :
    .clearTechRouting .host tech ∈ setting.techRequests := by
  refine List.mem_append_right _ (List.mem_map.mpr ⟨tech, List.mem_filter.mpr ⟨htech, ?_⟩, rfl⟩)
  rw [hlistens, hrouted]
  rfl

end CardSetting

end Requests

end NfcStack.Proofs
