import NfcStack.Proofs.FullReconnect
import NfcStack.Proofs.SlotGrowth

/-!
# The search for a message

An endpoint is searched slot by slot. Each visit of a slot selects the tag again, and only then looks for a
message; what is found first decides. A slot at which the tag can be formatted is remembered, but counts only
if no later slot holds a message.
-/

namespace NfcStack.Proofs

variable {σ : Type} {c : Controller σ} {P : Act → Prop} {env : Environment σ}

section Visits

/-- What the visit of a slot finds. -/
inductive Finding where
  /-- The tag could not be selected. -/
  | unselected
  /-- A message is there; reading it may fail. -/
  | message (info : NdefInfo) (bytes : Option Bytes)
  /-- There is no message, but the tag can be formatted. -/
  | formattable
  | nothing
  deriving DecidableEq, Repr

/-- Examines the tag that is selected. Where a formattable slot is known already, it is not asked whether it
can be formatted. -/
def examine (known : Bool) : Op σ Finding := do
  match ← Tag.checkNdefInfo with
  | some info => return .message info (← Tag.readNdef)
  | none =>
    if known then return .nothing
    else return if ← Tag.isFormattable then .formattable else .nothing

/-- The target of a slot, in the technology of the slot. -/
def slotTarget (slot : Slot) : Connection := ⟨slot.handle, slot.protocol, slot.technology⟩

lemma target_eq (slot : Slot) : Endpoint.target slot = slotTarget slot := rfl

/-- Visits a slot: the tag is selected again, and examined if that succeeds. -/
def visit (slot : Slot) (known : Bool) : Op σ Finding := do
  if ← Tag.reconnect (slotTarget slot) false then examine known else return .unselected

/-- A visit, with the systems before and after it. -/
structure Visit (σ : Type) where
  slot : Slot
  finding : Finding
  begun : System σ
  ended : System σ

/-- The visits of a search, given whether a formattable slot is known. A message ends the search. -/
def visits (env : Environment σ) : List Slot → Bool → System σ → List (Visit σ)
  | [], _, _ => []
  | slot :: rest, known, s =>
    let visited := (visit slot known).run env s
    ⟨slot, visited.1, s, visited.2⟩ :: match visited.1 with
      | .message _ _ => []
      | .formattable => visits env rest true visited.2
      | _ => visits env rest known visited.2

/-- The number of the tag type of a protocol. MIFARE Classic has one beyond those of the NFC Forum, and what is
unknown has none. -/
def typeNumber (protocol : UInt8) : Int :=
  ([(Protocol.t1t, 1), (Protocol.t2t, 2), (Protocol.t3t, 3), (Protocol.isoDep, 4),
    (Protocol.mifare, 101)].lookup protocol).getD (-1)

lemma forumType_eq (protocol : UInt8) : forumType protocol = typeNumber protocol := by
  have hcons (first : UInt8) (number : Int) (rest : List (UInt8 × Int)) :
      (((first, number) :: rest).lookup protocol).getD (-1) =
        if protocol = first then number else (rest.lookup protocol).getD (-1) := by
    rw [List.lookup_cons]
    by_cases h : protocol = first
    · simp [h]
    · simp [beq_eq_false_iff_ne.mpr h, h]
  unfold forumType typeNumber
  simp only [hcons]
  rfl

namespace Visit

/-- The message slot that a visit gives rise to: one of the same target without raw bytes, with the message that
was read there, the type of the tag, and the size and the mode that were found. -/
def messageSlot? (v : Visit σ) : Option (Slot × Extras) :=
  match v.finding with
  | .message info bytes =>
    some (⟨.ndef, v.slot.handle, v.slot.protocol, [], []⟩,
      .ndef (bytes.getD []) (typeNumber v.slot.protocol) info.capacity info.mode)
  | _ => none

/-- The slot of a visit, if the tag can be formatted there. -/
def formattable? (v : Visit σ) : Option Slot :=
  match v.finding with
  | .formattable => some v.slot
  | _ => none

/-- The requests of callers during a visit. -/
def requests (v : Visit σ) : List Request :=
  callerRequests (v.ended.trace.drop v.begun.trace.length)

end Visit

/-- The formattable slot that a slot gives rise to: one of the same target without raw bytes or details. -/
def formattableSlot (slot : Slot) : Slot × Extras :=
  (⟨.ndefFormatable, slot.handle, slot.protocol, [], []⟩, .none)

/-- What a search comes to: the first message, or else the first slot at which the tag can be formatted. -/
def upshot (known : Option Slot) (visited : List (Visit σ)) : Option (Slot × Extras) :=
  (visited.findSome? Visit.messageSlot?).or
    ((known.or (visited.findSome? Visit.formattable?)).map formattableSlot)

/-- The system after some visits. -/
def afterVisits (s : System σ) (visited : List (Visit σ)) : System σ :=
  (visited.getLast?.map Visit.ended).getD s

lemma afterVisits_cons (s : System σ) (v : Visit σ) (rest : List (Visit σ)) :
    afterVisits s (v :: rest) = afterVisits v.ended rest := by
  unfold afterVisits
  rw [List.getLast?_cons]
  cases rest.getLast? <;> rfl

/-- A search goes on after a visit unless that found a message. -/
lemma search_cons (env : Environment σ) (slot : Slot) (rest : List Slot) (known : Option Slot)
    (s : System σ) :
    (Endpoint.search (slot :: rest) known).run env s =
      let visited := (visit slot known.isSome).run env s
      match visited.1 with
      | .message info bytes =>
        (some (⟨.ndef, slot.handle, slot.protocol, [], []⟩,
          .ndef (bytes.getD []) (typeNumber slot.protocol) info.capacity info.mode), visited.2)
      | .formattable => (Endpoint.search rest (some slot)).run env visited.2
      | _ => (Endpoint.search rest known).run env visited.2 := by
  conv_lhs => unfold Endpoint.search
  simp only [target_eq, forumType_eq]
  unfold visit examine
  rw [Op.run_bind, Op.run_bind]
  generalize (Tag.reconnect (slotTarget slot) false : Op σ Bool).run env s = selected
  obtain ⟨selected, t⟩ := selected
  cases selected with
  | false => rfl
  | true =>
    simp only [if_true, Op.run_bind]
    generalize (Tag.checkNdefInfo : Op σ (Option NdefInfo)).run env t = checked
    obtain ⟨checked, u⟩ := checked
    cases checked with
    | some info => rfl
    | none =>
      cases known with
      | some found => rfl
      | none =>
        unfold Endpoint.firstFormattable
        simp only [Op.run_bind, Option.isSome_none, Bool.false_eq_true, if_false]
        generalize (Tag.isFormattable : Op σ Bool).run env u = probed
        obtain ⟨probed, w⟩ := probed
        cases probed <;> rfl

/-- Only a slot that cannot be selected is not examined. -/
lemma examine_selected (env : Environment σ) (known : Bool) (s : System σ) :
    ((examine known).run env s).1 ≠ .unselected := by
  unfold examine
  rw [Op.run_bind]
  split
  · nofun
  · split
    · nofun
    · rw [Op.run_bind]
      change (if _ then Finding.formattable else .nothing) ≠ .unselected
      split <;> nofun

/-- Where a formattable slot is known already, no other is found. -/
lemma visit_known (env : Environment σ) (slot : Slot) (s : System σ) :
    ((visit slot true).run env s).1 ≠ .formattable := by
  unfold visit examine
  rw [Op.run_bind]
  split
  · rw [Op.run_bind]
    split <;> nofun
  · nofun

lemma upshot_skip (known : Option Slot) {v : Visit σ} (rest : List (Visit σ))
    (hmessage : v.messageSlot? = none) (hformattable : v.formattable? = none) :
    upshot known (v :: rest) = upshot known rest := by
  unfold upshot
  rw [List.findSome?_cons, List.findSome?_cons, hmessage, hformattable]

lemma upshot_formattable {v : Visit σ} {slot : Slot} (rest : List (Visit σ))
    (hmessage : v.messageSlot? = none) (hformattable : v.formattable? = some slot) :
    upshot none (v :: rest) = upshot (some slot) rest := by
  unfold upshot
  rw [List.findSome?_cons, List.findSome?_cons, hmessage, hformattable]
  rfl

/-- A search comes to what its visits come to. -/
lemma search_visits (env : Environment σ) (slots : List Slot) (known : Option Slot) (s : System σ) :
    (Endpoint.search slots known).run env s =
      (upshot known (visits env slots known.isSome s),
        afterVisits s (visits env slots known.isSome s)) := by
  induction slots generalizing known s with
  | nil => cases known <;> rfl
  | cons slot rest ih =>
    rw [search_cons]
    unfold visits
    dsimp only
    rw [afterVisits_cons]
    have hknown (h : known.isSome = true) : ((visit slot known.isSome).run env s).1 ≠ .formattable := by
      rw [h]
      exact visit_known env slot s
    generalize (visit slot known.isSome).run env s = visited at hknown ⊢
    obtain ⟨finding, t⟩ := visited
    cases finding with
    | message info bytes => rfl
    | formattable =>
      cases known with
      | some found => exact absurd rfl (hknown rfl)
      | none =>
        rw [upshot_formattable _ rfl rfl]
        exact ih (some slot) t
    | unselected =>
      rw [upshot_skip known _ rfl rfl]
      exact ih known t
    | nothing =>
      rw [upshot_skip known _ rfl rfl]
      exact ih known t

/-- The slots are visited in order, none is left out, and only a message ends the search before the last. -/
lemma visits_in_order (env : Environment σ) (slots : List Slot) (known : Bool) (s : System σ) :
    let visited := visits env slots known s
    visited.map Visit.slot = slots.take visited.length ∧
      (∀ v ∈ visited.dropLast, v.messageSlot? = none) ∧
      ((∀ v ∈ visited, v.messageSlot? = none) → visited.map Visit.slot = slots) := by
  induction slots generalizing known s with
  | nil => exact ⟨rfl, fun _ h => absurd h List.not_mem_nil, fun _ => rfl⟩
  | cons slot rest ih =>
    unfold visits
    dsimp only
    generalize (visit slot known).run env s = visited
    obtain ⟨finding, t⟩ := visited
    have hgoesOn (known : Bool) (hnone : (⟨slot, finding, s, t⟩ : Visit σ).messageSlot? = none) :
        let visited := (⟨slot, finding, s, t⟩ : Visit σ) :: visits env rest known t
        visited.map Visit.slot = (slot :: rest).take visited.length ∧
          (∀ v ∈ visited.dropLast, v.messageSlot? = none) ∧
          ((∀ v ∈ visited, v.messageSlot? = none) → visited.map Visit.slot = slot :: rest) := by
      obtain ⟨hslots, hbefore, hall⟩ := ih known t
      refine ⟨congrArg (slot :: ·) hslots, fun v hv => ?_, fun h => ?_⟩
      · cases hvisits : visits env rest known t with
        | nil =>
          rw [hvisits] at hv
          exact absurd hv List.not_mem_nil
        | cons next more =>
          rw [hvisits, List.dropLast_cons_cons] at hv
          rcases List.mem_cons.mp hv with rfl | hlater
          · exact hnone
          · exact hbefore v (by rw [hvisits]; exact hlater)
      · exact congrArg (slot :: ·) (hall fun v hv => h v (.tail _ hv))
    cases finding with
    | message info bytes =>
      refine ⟨rfl, fun _ h => absurd h List.not_mem_nil, fun h => ?_⟩
      exact absurd (h _ (.head _)) nofun
    | formattable => exact hgoesOn true rfl
    | unselected => exact hgoesOn known rfl
    | nothing => exact hgoesOn known rfl

/-- A visit is one of a slot in the system in which it began. -/
lemma visits_run (env : Environment σ) (slots : List Slot) (known : Bool) (s : System σ) {v : Visit σ}
    (h : v ∈ visits env slots known s) :
    ∃ known, (visit v.slot known).run env v.begun = (v.finding, v.ended) := by
  induction slots generalizing known s with
  | nil => exact absurd h List.not_mem_nil
  | cons slot rest ih =>
    unfold visits at h
    rcases List.mem_cons.mp h with rfl | hrest
    · exact ⟨known, rfl⟩
    · split at hrest
      · exact absurd hrest List.not_mem_nil
      · exact ih _ _ hrest
      · exact ih _ _ hrest

lemma visit_unselected {slot : Slot} {known : Bool} {s t : System σ}
    (h : (visit slot known).run env s = (.unselected, t)) :
    (Tag.reconnect (slotTarget slot) false).run env s = (false, t) := by
  unfold visit at h
  rw [Op.run_bind] at h
  generalize (Tag.reconnect (slotTarget slot) false : Op σ Bool).run env s = selected at h ⊢
  obtain ⟨selected, u⟩ := selected
  cases selected with
  | false => exact congrArg (false, ·) (congrArg Prod.snd h)
  | true =>
    have hexamined : (examine known).run env u = (.unselected, t) := h
    exact absurd (congrArg Prod.fst hexamined) (examine_selected env known u)

lemma visit_keepsTo (ho : Orderly P env) (ht : ∀ act, TagWork act → P act) (slot : Slot) (known : Bool) :
    KeepsTo P env (visit slot known : Op σ Finding) := by
  obtain ⟨hselects, hworks⟩ := tagWork_follows ht ho.composes
  refine keepsTo_bind (hselects.reconnect _ _) fun selected => ?_
  split
  · unfold examine
    refine keepsTo_bind (checkNdefInfo_along ho.composes fun act h _ => ht act (handling_tagWork act h))
      fun info => ?_
    split
    · exact keepsTo_bind hworks.readNdef fun _ => keepsTo_pure _
    · split
      · exact keepsTo_pure _
      · exact keepsTo_bind (isFormattable_along ho.composes hworks) fun _ => keepsTo_pure _
  · exact keepsTo_pure _

/-- What is asked for during a search is what is asked for during its visits. -/
lemma visits_asks (c : Controller σ) (slots : List Slot) (known : Bool) (s : System σ) :
    let visited := visits c.alone slots known s
    Asks s (afterVisits s visited) (visited.flatMap Visit.requests) := by
  induction slots generalizing known s with
  | nil => exact asks_of_trace_eq rfl
  | cons slot rest ih =>
    have hvisit : Evolves c (fun _ => True) s ((visit slot known).run c.alone s).2 :=
      visit_keepsTo (orderly_alone _ c) (fun _ _ => trivial) slot known s
    unfold visits
    dsimp only
    rw [afterVisits_cons, List.flatMap_cons]
    generalize (visit slot known).run c.alone s = visited at hvisit ⊢
    obtain ⟨finding, t⟩ := visited
    obtain ⟨requests, hasks⟩ := hvisit.asks
    have hfirst : Asks s t (Visit.requests ⟨slot, finding, s, t⟩) := by
      unfold Visit.requests
      rw [hasks.made]
      exact hasks
    refine hfirst.trans ?_
    cases finding with
    | message info bytes => exact asks_of_trace_eq rfl
    | formattable => exact ih true t
    | unselected => exact ih known t
    | nothing => exact ih known t

/-- Where a slot cannot be selected the tag is not searched. -/
lemma unselected_requests (c : Controller σ) (slots : List Slot) (known : Bool) (s : System σ) {v : Visit σ}
    (h : v ∈ visits c.alone slots known s) (hunselected : v.finding = .unselected) :
    v.requests <+:
      [.deactivate true, selectionRequest (slotTarget v.slot), .deactivate false] := by
  obtain ⟨known, hrun⟩ := visits_run c.alone slots known s h
  rw [hunselected] at hrun
  have hselect := visit_unselected hrun
  obtain ⟨requests, hasks, hprefix⟩ := tag_reconnect_requests c (slotTarget v.slot) false v.begun
  rw [hselect] at hasks
  unfold Visit.requests
  rw [hasks.made]
  exact hprefix

end Visits

section Endpoints

/-- An endpoint that is searched is marked first. -/
def marked (endpoint : Endpoint) : Endpoint := { endpoint with ndefAdded := true }

/-- What the search makes of an endpoint: a slot that was found comes last, and its details are kept. -/
def withFound (endpoint : Endpoint) : Option (Slot × Extras) → Endpoint
  | some (slot, extras) =>
    { endpoint with
      slots := endpoint.slots ++ [slot]
      extras := endpoint.extras ++ [(endpoint.slots.length, extras)]
      ndefAdded := true }
  | none => { endpoint with ndefAdded := true }

/-- The system in which an endpoint is searched. -/
def searching (number : Nat) (s : System σ) : System σ :=
  reserved (.endpoint number) (s.mapHost (Host.mapEndpoint number marked))

/-- Searches slots and appends what is found to an endpoint. -/
def searchAndAppend (number : Nat) (slots : List Slot) : Op σ Unit := do
  match ← Endpoint.search slots none with
  | some (slot, extras) => Endpoint.update number fun endpoint => endpoint.append slot extras
  | none => return ()

variable {s : System σ} {number : Nat} {endpoint : Endpoint}

/-- An endpoint stays as it is when a resource is given back. -/
lemma returned_endpoint {resource : Resource} {t : System σ} (h : t.host.endpoint? number = some endpoint) :
    (returned c resource s t).host.endpoint? number = some endpoint := by
  unfold returned
  split
  · exact h
  · have hkept : EndpointsBy (fun _ before after => after = before) _ _ :=
      endpointsBy_of_prefix (fun _ _ => rfl) (release_gains c (t.mapHost (giveBack s.host.inUse))).covers
    obtain ⟨after, hafter, rfl⟩ := hkept number endpoint h
    exact hafter

/-- The first search of an endpoint. -/
lemma addNdef_first (hfound : s.host.endpoint? number = some endpoint)
    (hfresh : endpoint.ndefAdded = false) :
    (Endpoint.addNdef number).run c.alone s =
      (Op.reserving (.endpoint number) (searchAndAppend number endpoint.slots)).run c.alone
        (s.mapHost (Host.mapEndpoint number marked)) := by
  unfold Endpoint.addNdef
  rw [Op.run_bind, Op.run_read, hfound]
  simp only [hfresh, Bool.false_eq_true, if_false]
  rfl

lemma searchAndAppend_gives (c : Controller σ) (slots : List Slot)
    (hfound : s.host.endpoint? number = some (marked endpoint)) :
    let visited := visits c.alone slots false s
    let ended := ((searchAndAppend number slots).run c.alone s).2
    ended.host.endpoint? number = some (withFound endpoint (upshot none visited)) ∧
      Asks s ended (visited.flatMap Visit.requests) := by
  intro visited ended
  have hsearch : (Endpoint.search slots none).run c.alone s =
      (upshot none visited, afterVisits s visited) := search_visits c.alone slots none s
  have hkept : (afterVisits s visited).host.endpoint? number = some (marked endpoint) := by
    have hevolves : Evolves c SparesEndpoints s ((Endpoint.search slots none).run c.alone s).2 :=
      search_keepsTo (orderly_alone _ c) tagWork_sparesEndpoints slots none s
    rw [hsearch] at hevolves
    exact hevolves.same_endpoint hfound
  have hasks : Asks s (afterVisits s visited) (visited.flatMap Visit.requests) :=
    visits_asks c slots false s
  have hended : ended = _ := congrArg Prod.snd (congrArg (fun result : _ × System σ =>
    (match result.1 with
      | some (slot, extras) => Endpoint.update number fun endpoint => endpoint.append slot extras
      | none => return () : Op σ Unit).run c.alone result.2) hsearch)
  rw [hended]
  cases upshot none visited with
  | none => exact ⟨hkept, hasks⟩
  | some found =>
    obtain ⟨slot, extras⟩ := found
    have hwritten := mapEndpoint_endpoint number number (fun endpoint => endpoint.append slot extras)
      (afterVisits s visited).host
    rw [hkept, Option.map_some, if_pos rfl] at hwritten
    have hwhole := hasks.trans (asks_of_trace_eq (t := (afterVisits s visited).mapHost
      (Host.mapEndpoint number fun endpoint => endpoint.append slot extras)) rfl)
    rw [List.append_nil] at hwhole
    exact ⟨hwritten, hwhole⟩

end Endpoints

/-- The first search of an endpoint visits its slots in order and ends at the first that holds a message. That
slot gives rise to one message slot, with the message that was read there and with the size and the mode that
were found; if no slot holds a message, the first at which the tag can be formatted gives rise to one formattable
slot, and if there is none either nothing is added. What is asked for is what the visits ask for; at a slot that
cannot be selected that is no more than to put the tag to sleep, to select it and to let it go. -/
theorem first_message_slot_wins (c : Controller σ) {s : System σ} {number : Nat} {endpoint : Endpoint}
    (hfound : s.host.endpoint? number = some endpoint) (hfresh : endpoint.ndefAdded = false) :
    let visited := visits c.alone endpoint.slots false (searching number s)
    let after := ((Endpoint.addNdef number).run c.alone s).2
    after.host.endpoint? number = some (withFound endpoint
        ((visited.findSome? Visit.messageSlot?).or
          ((visited.findSome? Visit.formattable?).map formattableSlot))) ∧
      (visited.map Visit.slot = endpoint.slots.take visited.length ∧
        (∀ v ∈ visited.dropLast, v.messageSlot? = none) ∧
        ((∀ v ∈ visited, v.messageSlot? = none) → visited.map Visit.slot = endpoint.slots)) ∧
      Asks s after (visited.flatMap Visit.requests) ∧
      ∀ v ∈ visited, v.finding = .unselected → v.requests <+:
        [.deactivate true, selectionRequest (slotTarget v.slot), .deactivate false] := by
  intro visited after
  have hmarked : (searching number s).host.endpoint? number = some (marked endpoint) := by
    have hwritten := mapEndpoint_endpoint number number marked s.host
    rw [hfound, Option.map_some, if_pos rfl] at hwritten
    unfold searching reserved
    split
    · exact hwritten
    · exact hwritten
  have hafter : after = _ := congrArg Prod.snd (addNdef_first (c := c) hfound hfresh)
  obtain ⟨hended, hasks⟩ := searchAndAppend_gives c endpoint.slots hmarked
  refine ⟨?_, visits_in_order c.alone endpoint.slots false _, ?_, fun v hv hunselected =>
    unselected_requests c endpoint.slots false _ hv hunselected⟩
  · rw [hafter, reserving_run]
    exact returned_endpoint hended
  · have hmarking : Asks s (s.mapHost (Host.mapEndpoint number marked)) [] := asks_of_trace_eq rfl
    rw [hafter]
    exact hmarking.trans (reserving_asks c (.endpoint number) _ hasks)

/-- Two targets are in the field; only the one that was found last holds a message. -/
def twoTargets : System Script :=
  ran Script.controller [] {}
    { detections := [⟨.failed, Protocol.t1t, 0, 0, ⟨0⟩⟩]
      detection := ⟨.ok, Protocol.t2t, 144, 10, ⟨0⟩⟩
      message := [1, 2, 3]
      lastTarget := some (Sample.ultralight 2)
      reactivates := true }
    [.move (.call (.host (.setListener .recording))), .move (.call (.host .bringUp)),
      .move (.event (.activated (Sample.topaz 1))), .move (.event (.activated (Sample.ultralight 2)))]

/-- The endpoint that lists both. -/
def twoTargetsEndpoint : Endpoint := Endpoint.ofSession twoTargets.host.session (Sample.ultralight 2)

/-- The slot of the first target could be formatted, but the message slot is that of the second. -/
theorem later_message_wins :
    let after := ((Endpoint.addNdef 1).run Script.controller.alone twoTargets).2
    twoTargets.host.endpoint? 1 = some twoTargetsEndpoint ∧ twoTargetsEndpoint.ndefAdded = false ∧
      (visits Script.controller.alone twoTargetsEndpoint.slots false (searching 1 twoTargets)).map
          Visit.finding = [.formattable, .message ⟨144, .readWrite⟩ (some [1, 2, 3])] ∧
      (after.host.endpoint? 1).map (fun endpoint => endpoint.slots.drop 2) =
        some [⟨.ndef, 2, Protocol.t2t, [], []⟩] ∧
      (after.host.endpoint? 1).map (·.extras) = some [(2, .ndef [1, 2, 3] 2 144 .readWrite)] ∧
      callerRequests (after.trace.drop twoTargets.trace.length) =
        [.deactivate true, .select 1 Protocol.t1t 0x01, .detectNdef,
          .deactivate true, .select 2 Protocol.t2t 0x01, .detectNdef, .readNdef] := by
  have hfound : twoTargets.host.endpoint? 1 = some twoTargetsEndpoint := rfl
  have hfresh : twoTargetsEndpoint.ndefAdded = false := rfl
  obtain ⟨hafter, -⟩ := first_message_slot_wins Script.controller hfound hfresh
  refine ⟨hfound, hfresh, by decide +kernel, ?_, ?_, by decide +kernel⟩
  · rw [hafter]
    decide +kernel
  · rw [hafter]
    decide +kernel

end NfcStack.Proofs
