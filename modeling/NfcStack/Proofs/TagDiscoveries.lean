import NfcStack.Bench.Sample
import NfcStack.Proofs.Tidings

/-!
# Discoveries of tags

What a listener hears of tags after the stack was brought up for the first time. Slots gather while tags
stay in the field and are gone when it is empty; each eligible activation that finds room makes an
endpoint of all that has gathered.
-/

namespace NfcStack.Proofs

variable {σ : Type}

section Histories

/-- Neither a peer device, nor a target that the stack answers to, nor one of a secure element. -/
def isEligible (act : Activation) : Bool :=
  act.protocol != Protocol.nfcDep && act.mode < 0x80 && act.interface != RadioInterface.direct

def isTag : Event → Bool
  | .activated act => isEligible act
  | _ => false

/-- The tag left the field for good. -/
def emptiesField : Event → Bool
  | .deactivated false => true
  | _ => false

/-- What takes a tag out of the reach of the reader without its leaving the field. -/
def disturbs : Event → Bool
  | .deactivated true => true
  | .transportError => true
  | .controllerTimeout => true
  | _ => false

/-- Whether an activation is eligible and finds room among the slots. -/
def isAccepted (slots : List Slot) (act : Activation) : Bool :=
  isEligible act && slots.length < Technology.tableSize

/-- The slots after an event that does not empty the field. -/
def gather (slots : List Slot) : Event → List Slot
  | .activated act => if isAccepted slots act then slots ++ Slot.ofActivation act else slots
  | _ => slots

/-- The slots of the accepted activations since the field was empty. -/
def gathered (history : List Event) : List Slot := (sinceLast emptiesField history).foldl gather []

/-- The identifier of a target: that of its radio technology if the mode is one of that, and of an ISO 15693
target, which comes last byte first, rather that of the protocol. -/
def identifierOf (act : Activation) : Bytes :=
  if act.mode ∈ [0x00, 0x03, 0x80, 0x83] then
    match act.tech with
    | .a _ nfcid1 _ => nfcid1
    | _ => []
  else if act.mode ∈ [0x01, 0x74, 0x81, 0xf4] then
    match act.tech with
    | .b _ nfcid0 => nfcid0
    | _ => []
  else if act.mode ∈ [0x02, 0x05, 0x82, 0x85] then
    match act.tech with
    | .f _ nfcid2 => nfcid2
    | _ => []
  else if act.mode ∈ [0x06, 0x86] then
    match act.protocolParams, act.tech with
    | .t5t uid _ _, _ => uid.reverse
    | _, .v uid _ _ => uid.reverse
    | _, _ => []
  else []

/-- The endpoint of an activation, given what gathered before it. -/
def endpointFor (slots : List Slot) (act : Activation) : Endpoint :=
  { slots := slots ++ Slot.ofActivation act, uid := identifierOf act }

/-- The endpoint that an event makes. -/
def discovered? (before : List Event) : Event → Option Endpoint
  | .activated act =>
    if isAccepted (gathered before) act then some (endpointFor (gathered before) act) else none
  | _ => none

/-- What the listener is told of an endpoint. -/
def discoveryOf (index : Nat) (endpoint : Endpoint) : Notification :=
  .tagDiscovered index ((endpoint.slots.head?.map Slot.handle).getD 0) endpoint.uid
    (endpoint.slots.map fun slot => slot.technology.kind)

def isTagDiscovery : Notification → Bool
  | .tagDiscovered _ _ _ _ => true
  | _ => false

lemma foreign_iff (act : Activation) : isForeign act = !isEligible act := by
  unfold isForeign isEligible RadioMode.isPoll
  simp only [Bool.not_and, bne, Bool.not_not]
  rfl

lemma modes_iff (mode : UInt8) :
    (mode ∈ [0x00, 0x03, 0x80, 0x83] ↔ RadioMode.isA mode = true) ∧
      (mode ∈ [0x01, 0x74, 0x81, 0xf4] ↔ RadioMode.isB mode = true) ∧
      (mode ∈ [0x02, 0x05, 0x82, 0x85] ↔ RadioMode.isF mode = true) ∧
      (mode ∈ [0x06, 0x86] ↔ RadioMode.isV mode = true) := by
  unfold RadioMode.isA RadioMode.isB RadioMode.isF RadioMode.isV
  exact ⟨by simp [or_assoc], by simp [or_assoc], by simp [or_assoc], by simp⟩

/-- A mode belongs to at most one radio technology. -/
lemma modes_apart (mode : UInt8) :
    (RadioMode.isA mode = true →
        RadioMode.isB mode = false ∧ RadioMode.isF mode = false ∧ RadioMode.isV mode = false) ∧
      (RadioMode.isB mode = true → RadioMode.isF mode = false ∧ RadioMode.isV mode = false) ∧
      (RadioMode.isF mode = true → RadioMode.isV mode = false) := by
  unfold RadioMode.isA RadioMode.isB RadioMode.isF RadioMode.isV
  simp only [Bool.or_eq_true, decide_eq_true_iff, or_assoc]
  refine ⟨?_, ?_, ?_⟩
  · rintro (rfl | rfl | rfl | rfl) <;> decide
  · rintro (rfl | rfl | rfl | rfl) <;> decide
  · rintro (rfl | rfl | rfl | rfl) <;> decide

lemma identifierOf_uid (act : Activation) : identifierOf act = act.uid := by
  obtain ⟨hA, hB, hF, hV⟩ := modes_iff act.mode
  obtain ⟨hapartA, hapartB, hapartF⟩ := modes_apart act.mode
  unfold identifierOf Activation.uid Activation.vicinity?
  simp only [hA, hB, hF, hV]
  cases ha : RadioMode.isA act.mode with
  | true =>
    obtain ⟨hb, hf, hv⟩ := hapartA ha
    rw [hb, hf, hv]
    cases act.tech <;> rfl
  | false =>
    cases hb : RadioMode.isB act.mode with
    | true =>
      obtain ⟨hf, hv⟩ := hapartB hb
      rw [hf, hv]
      cases act.tech <;> rfl
    | false =>
      cases hf : RadioMode.isF act.mode with
      | true =>
        rw [hapartF hf]
        cases act.tech <;> rfl
      | false =>
        cases RadioMode.isV act.mode with
        | true => cases act.protocolParams <;> cases act.tech <;> rfl
        | false => cases act.tech <;> rfl

lemma discoveryOf_eq (index : Nat) (endpoint : Endpoint) :
    discoveryOf index endpoint = .tagDiscovered index endpoint.handle endpoint.uid endpoint.kinds := by
  have hhandle : (endpoint.slots.head?.map Slot.handle).getD 0 = endpoint.handle := by
    unfold Endpoint.handle
    cases endpoint.slots <;> rfl
  unfold discoveryOf
  rw [hhandle]
  rfl

lemma gathered_emptied {event : Event} (h : emptiesField event = true) (history : List Event) :
    gathered (history ++ [event]) = [] := by
  unfold gathered
  rw [sinceLast_self h]
  rfl

lemma gathered_snoc {event : Event} (h : emptiesField event = false) (history : List Event) :
    gathered (history ++ [event]) = gather (gathered history) event := by
  unfold gathered
  rw [sinceLast_other h, List.foldl_append]
  rfl

end Histories

section Hosts

/-- What a host knows of tags and who hears of them. -/
structure Acquaintance where
  listener : Listener
  disabling : Bool
  reconnecting : Bool
  tagActive : Bool
  slots : List Slot
  endpoints : List Endpoint

def acquaintanceOf (host : Host) : Acquaintance where
  listener := host.listener
  disabling := host.flags.disabling
  reconnecting := host.flags.reconnecting
  tagActive := host.flags.tagActive
  slots := host.session.slots
  endpoints := host.endpoints

/-- What a history makes a host know that is up and whose listener listens. -/
def acquaintanceBy (history : List Event) : Acquaintance where
  listener := .recording
  disabling := false
  reconnecting := false
  tagActive := (sinceLast emptiesField history).any isTag
  slots := gathered history
  endpoints := readOff discovered? [] history

lemma routine_acquaintance {change : Change} (h : Routine (.change change)) (host : Host) :
    acquaintanceOf (change.apply host) = acquaintanceOf host := by
  change acquaintanceOf (groundOf (change.apply host)) = acquaintanceOf (groundOf host)
  rw [routine_ground h]

lemma acquaintanceBy_snoc {event : Event} (h : emptiesField event = false) (history : List Event) :
    acquaintanceBy (history ++ [event]) =
      { acquaintanceBy history with
        tagActive := (acquaintanceBy history).tagActive || isTag event
        slots := gather (gathered history) event
        endpoints := readOff discovered? [] history ++ (discovered? history event).toList } := by
  unfold acquaintanceBy
  rw [gathered_snoc h, sinceLast_other h, List.any_append, readOff_snoc, List.nil_append]
  simp

lemma acquaintanceBy_emptied (history : List Event) :
    acquaintanceBy (history ++ [.deactivated false]) =
      { acquaintanceBy history with tagActive := false, slots := [] } := by
  have hgone : emptiesField (.deactivated false) = true := rfl
  unfold acquaintanceBy
  rw [gathered_emptied hgone, sinceLast_self hgone, readOff_snoc]
  simp [discovered?]

def matters : Event → Bool
  | .activated _ => true
  | .deactivated false => true
  | _ => false

lemma acquaintanceBy_other {event : Event} (h : matters event = false) (history : List Event) :
    acquaintanceBy (history ++ [event]) = acquaintanceBy history := by
  have hsame (he : emptiesField event = false) (ht : isTag event = false)
      (hg : gather (gathered history) event = gathered history) (hd : discovered? history event = none) :
      acquaintanceBy (history ++ [event]) = acquaintanceBy history := by
    rw [acquaintanceBy_snoc he, ht, hg, hd, Bool.or_false, Option.toList_none, List.append_nil]
    rfl
  cases event with
  | activated act => exact absurd h nofun
  | deactivated sleep =>
    cases sleep with
    | false => exact absurd h nofun
    | true => exact hsame rfl rfl rfl rfl
  | _ => exact hsame rfl rfl rfl rfl

variable {host : Host} {history : List Event}

lemma hearNotice_acquaintance (notice : DiscoveryNotice) (host : Host) :
    acquaintanceOf (hearNotice notice host) = acquaintanceOf host := by
  have hcollect : (host.session.collect notice).2.slots = host.session.slots := by
    unfold Session.collect
    dsimp only
    split
    · rfl
    · rfl
  have hkept : acquaintanceOf (host.mapSession fun _ => (host.session.collect notice).2) =
      acquaintanceOf host := by
    unfold acquaintanceOf
    rw [Host.mapSession_session, hcollect]
    rfl
  unfold hearNotice
  dsimp only
  split
  · exact hkept
  · split
    · exact hkept
    · exact hkept

def withTag (host : Host) : Host := host.mapFlags fun flags => { flags with tagActive := true }

/-- What a host that is up makes of an activation: nothing unless it is eligible, an endpoint if there is
room, and otherwise only that there is a tag. -/
inductive Welcomes (act : Activation) (host : Host) : Prop where
  | ignores (h : isEligible act = false) (hhost : hearActivation act host = host)
      (htold : activationTidings act host = [])
  | fills (h : isEligible act = true) (hfull : Technology.tableSize ≤ host.session.slots.length)
      (hhost : hearActivation act host = withTag host) (htold : activationTidings act host = [])
  | discovers (h : isEligible act = true) (hroom : host.session.slots.length < Technology.tableSize)
      (session : Session) (hslots : session.slots = host.session.slots ++ Slot.ofActivation act)
      (hhost : hearActivation act host = keepEndpoint (endpointFor host.session.slots act)
        ((withTag host).mapSession fun _ => session))
      (htold : activationTidings act host =
        [discoveryOf host.endpoints.length (endpointFor host.session.slots act)])

lemma welcomes (act : Activation) {host : Host} (hup : host.flags.disabling = false)
    (hfresh : host.flags.reconnecting = false) : Welcomes act host := by
  have hagain : ¬(withTag host).flags.reconnecting = true := Bool.eq_false_iff.mp hfresh
  have htold : activationTidings act host = if isForeign act then [] else
      (host.session.admit? act).elim [] fun session =>
        [discoveryOf host.endpoints.length (Endpoint.ofSession session act)] := by
    unfold activationTidings
    rw [hup, hfresh, Bool.false_or, Bool.or_false]
    cases host.session.admit? act with
    | none => rfl
    | some session =>
      dsimp only [Option.elim_some]
      rw [discoveryOf_eq]
  have hheard : hearActivation act host = if isForeign act then host else
      (host.session.admit? act).elim (withTag host) fun session =>
        keepEndpoint (Endpoint.ofSession session act) ((withTag host).mapSession fun _ => session) := by
    unfold hearActivation
    rw [hup, Bool.false_or]
    split
    · rfl
    · refine (if_neg hagain).trans ?_
      split
      · next hnone =>
        have hfull : host.session.admit? act = none := hnone
        rw [hfull]
        rfl
      · next session hsome =>
        have hadmitted : host.session.admit? act = some session := hsome
        rw [hadmitted]
        rfl
  rw [foreign_iff] at htold hheard
  cases heligible : isEligible act with
  | false =>
    rw [heligible] at htold hheard
    exact .ignores heligible hheard htold
  | true =>
    rw [heligible] at htold hheard
    by_cases hfull : Technology.tableSize ≤ host.session.slots.length
    · have hnone : host.session.admit? act = none := if_pos hfull
      rw [hnone] at htold hheard
      exact .fills heligible hfull hheard htold
    · obtain ⟨session, hsome, hslots⟩ : ∃ session, host.session.admit? act = some session ∧
          session.slots = host.session.slots ++ Slot.ofActivation act := ⟨_, if_neg hfull, rfl⟩
      have hendpoint : Endpoint.ofSession session act = endpointFor host.session.slots act := by
        unfold Endpoint.ofSession endpointFor
        rw [hslots, identifierOf_uid]
      rw [hsome] at htold hheard
      refine .discovers heligible (Nat.lt_of_not_le hfull) session hslots ?_ ?_
      · rw [hheard, ← hendpoint]
        rfl
      · rw [htold, ← hendpoint]
        rfl

lemma keepEndpoint_acquaintance (endpoint : Endpoint) {host : Host}
    (hlistens : host.listener = .recording) :
    acquaintanceOf (keepEndpoint endpoint host) =
      { acquaintanceOf host with endpoints := host.endpoints ++ [endpoint] } := by
  unfold keepEndpoint
  split
  · rfl
  · next hdeaf => exact absurd hlistens hdeaf

lemma isAccepted_iff (slots : List Slot) (act : Activation) :
    isAccepted slots act = true ↔ isEligible act = true ∧ slots.length < Technology.tableSize := by
  unfold isAccepted
  rw [Bool.and_eq_true, decide_eq_true_iff]

lemma acquaintanceBy_rejected {act : Activation} (h : ¬isAccepted (gathered history) act = true) :
    discovered? history (.activated act) = none ∧
      acquaintanceBy (history ++ [.activated act]) =
        { acquaintanceBy history with
          tagActive := (acquaintanceBy history).tagActive || isEligible act } := by
  have hnone : discovered? history (.activated act) = none := if_neg h
  have hsame : gather (gathered history) (.activated act) = gathered history := if_neg h
  refine ⟨hnone, ?_⟩
  rw [acquaintanceBy_snoc rfl, hnone, hsame, Option.toList_none, List.append_nil]
  rfl

lemma acquaintanceBy_accepted {act : Activation} (h : isAccepted (gathered history) act = true) :
    discovered? history (.activated act) = some (endpointFor (gathered history) act) ∧
      acquaintanceBy (history ++ [.activated act]) =
        { acquaintanceBy history with
          tagActive := true
          slots := gathered history ++ Slot.ofActivation act
          endpoints := readOff discovered? [] history ++ [endpointFor (gathered history) act] } := by
  have hsome : discovered? history (.activated act) = some (endpointFor (gathered history) act) :=
    if_pos h
  have hmore : gather (gathered history) (.activated act) = gathered history ++ Slot.ofActivation act :=
    if_pos h
  have htag : isTag (.activated act) = true := ((isAccepted_iff _ act).mp h).1
  refine ⟨hsome, ?_⟩
  rw [acquaintanceBy_snoc rfl, hsome, hmore, htag, Bool.or_true]
  rfl

lemma hearActivation_acquaintance (h : acquaintanceOf host = acquaintanceBy history)
    (act : Activation) :
    acquaintanceOf (hearActivation act host) = acquaintanceBy (history ++ [.activated act]) ∧
      activationTidings act host =
        ((discovered? history (.activated act)).map (discoveryOf host.endpoints.length)).toList := by
  have hslots : host.session.slots = gathered history := congrArg Acquaintance.slots h
  have hlistens : host.listener = .recording := congrArg Acquaintance.listener h
  have hmarked : acquaintanceOf (withTag host) = { acquaintanceBy history with tagActive := true } := by
    rw [← h]
    rfl
  -- A full session still takes note of the tag; only an endpoint is not made.
  rcases welcomes act (congrArg Acquaintance.disabling h) (congrArg Acquaintance.reconnecting h) with
    ⟨heligible, hhost, htold⟩ | ⟨heligible, hfull, hhost, htold⟩ |
      ⟨heligible, hroom, session, hsession, hhost, htold⟩
  · have hrejected : ¬isAccepted (gathered history) act = true := by
      rw [isAccepted_iff, heligible]
      simp
    obtain ⟨hnone, hby⟩ := acquaintanceBy_rejected hrejected
    rw [hhost, htold, hnone, hby, heligible, Bool.or_false]
    exact ⟨h, rfl⟩
  · have hrejected : ¬isAccepted (gathered history) act = true := by
      rw [isAccepted_iff, ← hslots]
      omega
    obtain ⟨hnone, hby⟩ := acquaintanceBy_rejected hrejected
    rw [hhost, htold, hnone, hby, heligible, Bool.or_true]
    exact ⟨hmarked, rfl⟩
  · have haccepted : isAccepted (gathered history) act = true := by
      rw [isAccepted_iff, ← hslots]
      exact ⟨heligible, hroom⟩
    obtain ⟨hsome, hby⟩ := acquaintanceBy_accepted haccepted
    have hkept : acquaintanceOf ((withTag host).mapSession fun _ => session) =
        { acquaintanceOf (withTag host) with slots := session.slots } := rfl
    have hlistens' : ((withTag host).mapSession fun _ => session).listener = .recording := hlistens
    have hendpoints : ((withTag host).mapSession fun _ => session).endpoints =
        readOff discovered? [] history := congrArg Acquaintance.endpoints h
    rw [hhost, htold, hsome, hby, keepEndpoint_acquaintance _ hlistens', hkept, hmarked, hsession,
      hslots, hendpoints]
    exact ⟨rfl, rfl⟩

lemma hear_acquaintance (h : acquaintanceOf host = acquaintanceBy history) {event : Event}
    (hd : disturbs event = false) :
    acquaintanceOf (hear event host) = acquaintanceBy (history ++ [event]) := by
  have hup : { acquaintanceBy history with disabling := false } = acquaintanceBy history := rfl
  cases event with
  | activated act => exact (hearActivation_acquaintance h act).1
  | deactivated sleep =>
    cases sleep with
    | true => exact absurd hd nofun
    | false =>
      change { acquaintanceOf host with reconnecting := false, tagActive := false, slots := [] } = _
      rw [acquaintanceBy_emptied, h]
      rfl
  | transportError => exact absurd hd nofun
  | controllerTimeout => exact absurd hd nofun
  | enabled status =>
    rw [acquaintanceBy_other rfl, ← hup, ← h]
    rfl
  | disabled =>
    rw [acquaintanceBy_other rfl, ← hup, ← h]
    rfl
  | discovered status notice =>
    rw [acquaintanceBy_other rfl, ← h]
    change acquaintanceOf (if status.isOk then _ else _) = _
    split
    · exact hearNotice_acquaintance notice host
    · rfl
  | data status bytes =>
    rw [acquaintanceBy_other rfl, ← h]
    cases status <;> rfl
  | _ =>
    rw [acquaintanceBy_other rfl, ← h]
    rfl

end Hosts

section Told

lemma tidings_discoveries {host : Host} {history : List Event}
    (h : acquaintanceOf host = acquaintanceBy history) (infos : Except Status (List NfceeInfo))
    (event : Event) :
    (tidings infos event host).filter isTagDiscovery =
      ((discovered? history event).map (discoveryOf host.endpoints.length)).toList := by
  cases event with
  | activated act =>
    change (activationTidings act host).filter isTagDiscovery = _
    rw [(hearActivation_acquaintance h act).2]
    cases discovered? history (.activated act) <;> rfl
  | field status on => exact tidings_field infos host rfl rfl status on
  | cardData status bytes => cases status <;> rfl
  | hciReceived pipe code payload => exact tidings_pipe infos host (fun _ => rfl) pipe code payload
  | _ => rfl

/-- As long as nothing disturbed the host, it and its listener know of tags what the history says. -/
def Follows (host : Host) (history : List Event) (told : List Notification) : Prop :=
  (∀ event ∈ history, disturbs event = false) →
    acquaintanceOf host = acquaintanceBy history ∧
      told.filter isTagDiscovery = (readOff discovered? [] history).mapIdx discoveryOf

lemma Follows.of_same {host other : Host} {history : List Event} {told : List Notification}
    (hsame : acquaintanceOf other = acquaintanceOf host) (h : Follows host history told) :
    Follows other history told := by
  intro hcalm
  obtain ⟨hknown, htold⟩ := h hcalm
  exact ⟨hsame.trans hknown, htold⟩

lemma Follows.hear {host : Host} {history : List Event} {told : List Notification}
    (h : Follows host history told) (infos : Except Status (List NfceeInfo)) (event : Event) :
    Follows (hear event host) (history ++ [event])
      (told ++ heardBy host.listener (tidings infos event host)) := by
  intro hcalm
  obtain ⟨hknown, htold⟩ := h fun other hmem => hcalm other (List.mem_append_left _ hmem)
  have hlistens : host.listener = .recording := congrArg Acquaintance.listener hknown
  have hendpoints : host.endpoints = readOff discovered? [] history :=
    congrArg Acquaintance.endpoints hknown
  refine ⟨hear_acquaintance hknown (hcalm event (by simp)), ?_⟩
  rw [heardBy_recording hlistens, List.filter_append, htold, tidings_discoveries hknown, readOff_snoc,
    List.nil_append, hendpoints]
  cases discovered? history event with
  | none => simp
  | some endpoint => simp [List.mapIdx_append]

/-- Acts of bringing a stack up, and of its controller. -/
def Opening : Act → Prop
  | .change change => Routine (.change change)
  | _ => True

lemma routine_opening : ∀ act, Routine act → Opening act := by
  rintro (request | event | change) h
  · trivial
  · trivial
  · exact h

lemma follows_tracks (c : Controller σ) : Tracks c Opening Follows where
  change _ hp _ _ _ h := h.of_same (routine_acquaintance hp _)
  waits f hf host _ _ h := by
    have hroutine : Routine (.change (.waits f hf)) := trivial
    exact h.of_same (routine_acquaintance hroutine host)
  inUse _ _ _ _ h := h.of_same rfl
  connect _ _ _ _ h := h.of_same rfl
  hear event x _ _ _ h := h.hear (c.nfcees x) event

end Told

section Bringing

variable {c : Controller σ}

/-- Bringing up a stack that is not enabled makes the host receive events, whatever the controller
answers. -/
lemma bringUp_receiver {s : System σ} (h : s.host.flags.enabled = false) :
    ((Lifecycle.bringUp : Op σ Bool).run c.alone s).2.receiver = .host := by
  have ho : Orderly (fun _ => True) c.alone := orderly_alone _ c
  have hopen : Leads c (fun s => s.host.flags.enabled = false) (Op.send .adaptationOpen)
      fun _ _ => True := fun _ _ => trivial
  have hasked : Leads c (fun _ => True) (Op.callForever Venue.enable .enable)
      fun _ t => t.receiver = .host := by
    intro s _
    rw [callForever_alone]
    dsimp only
    split
    · exact (follows_receiver c).attend _
    · rfl
  have hanswered (outcome : Outcome Status) := answered_keepsTo ho (fun _ _ => trivial) trivial outcome
  have hbody : Leads c (fun s => s.host.flags.enabled = false) (do
      if ← Op.read (·.flags.enabled) then return true
      else do
        let _ ← Op.send .adaptationOpen
        let outcome ← Op.callForever Venue.enable .enable
        let enabled ← Op.read (·.flags.enabled)
        if outcome.status.isOk && enabled then do
          Lifecycle.establish
          return true
        else do
          if enabled then do
            let _ ← Op.send (.disable false)
          let _ ← Op.send .adaptationClose
          return false : Op σ Bool) fun _ t => t.receiver = .host := by
    refine leads_known false (fun _ hs => hs) ?_
    rw [if_neg Bool.false_ne_true]
    refine hopen.bind fun _ => hasked.bind fun outcome => ?_
    exact fun s hs => (hanswered outcome s).stays_host hs
  unfold Lifecycle.bringUp
  rw [reserving_alone]
  split
  · exact hbody s h
  · dsimp only
    rw [release_receiver]
    exact hbody (s.mapHost (takeResource .lifecycle)) h

/-- The deeds by which a listener comes to hear of tags. -/
def firstBringUp : List Deed :=
  [.move (.call (.host (.setListener .recording))), .move (.call (.host .bringUp))]

lemma opening_keepsTo (events : List Event) :
    KeepsTo Opening c.alone
      (Deed.runAll (.move (.call (.host .bringUp)) :: reports events) : Op σ Unit) := by
  have ho : Orderly Opening c.alone := orderly_alone _ c
  have hcall : KeepsTo Opening c.alone (HostCall.bringUp.run : Op σ Answer) :=
    keepsTo_map _ (bringUp_keepsTo ho routine_opening trivial trivial)
  have hmove : KeepsTo Opening c.alone ((Deed.move (.call (.host .bringUp))).run : Op σ Unit) :=
    keepsTo_bind (keepsTo_bind hcall fun _ => keepsTo_bind keepsTo_attend fun _ => keepsTo_pure _)
      fun _ => keepsTo_pure _
  exact keepsTo_bind hmove fun _ => reports_keepsTo (fun _ => trivial) events

end Bringing

/-- After a first bring-up all events that the controller reports are delivered, and as long as none of
the delivered events disturbs the host, what it and its listener know of tags follows from them: one
endpoint for each eligible activation that found room, made of all slots gathered since the field was
empty, and told of in order; the slots that have gathered; and whether an eligible activation came since.
When the list of slots is full an activation leaves the session alone. -/
theorem tags_discovered (c : Controller σ) (config : Config) (x : σ) (events : List Event) :
    let t := ran c [] config x (firstBringUp ++ reports events)
    let history := eventsOf t.trace
    events.Sublist history ∧
      ((∀ event ∈ history, disturbs event = false) →
        t.host.endpoints = readOff discovered? [] history ∧
          (System.notificationsOf t.trace).filter isTagDiscovery =
            (readOff discovered? [] history).mapIdx discoveryOf ∧
          t.host.session.slots = gathered history ∧
          (t.host.flags.tagActive = true ↔
            ∃ act, .activated act ∈ sinceLast emptiesField history ∧ isEligible act = true) ∧
          ∀ act, Technology.tableSize ≤ (gathered history).length →
            (c.deliver (.event (.activated act)) t).host.session = t.host.session) := by
  intro t history
  let s : System σ := (booted config x).mapHost fun host => { host with listener := .recording }
  let u : System σ := ran c [] config x firstBringUp
  have hevolves : Evolves c Opening s t := opening_keepsTo events s
  have hu : u.receiver = .host := by
    have hup : ((Lifecycle.bringUp : Op σ Bool).run c.alone s).2.receiver = .host := bringUp_receiver rfl
    exact ((follows_receiver c).attend _).trans hup
  have hreports : t = afterDeeds c (reports events) u := rfl
  obtain ⟨delivered, hsub, htrace⟩ :=
    reports_delivered (c := c) events (ran_free c [] config x firstBringUp) (receives_of_host hu)
  have hstart : HoldsOf Follows s := fun _ => ⟨rfl, rfl⟩
  have hfollows : Follows t.host history (System.notificationsOf t.trace) :=
    (hevolves.carries (follows_tracks c) nofun).2 hstart
  refine ⟨?_, fun hcalm => ?_⟩
  · have hhistory : history = eventsOf u.trace ++ delivered := htrace
    rw [hhistory]
    exact hsub.trans (List.sublist_append_right _ _)
  · obtain ⟨hknown, htold⟩ := hfollows hcalm
    have hslots : t.host.session.slots = gathered history := congrArg Acquaintance.slots hknown
    refine ⟨congrArg Acquaintance.endpoints hknown, htold, hslots, ?_, fun act hfull => ?_⟩
    · have hactive : t.host.flags.tagActive = (sinceLast emptiesField history).any isTag :=
        congrArg Acquaintance.tagActive hknown
      rw [hactive, List.any_eq_true]
      constructor
      · rintro ⟨event, hmem, htag⟩
        cases event with
        | activated act => exact ⟨act, hmem, htag⟩
        | _ => exact absurd htag nofun
      · rintro ⟨act, hmem, heligible⟩
        exact ⟨.activated act, hmem, heligible⟩
    · have ht : t.receiver = .host := by
        rw [hreports]
        exact (reports_evolves (c := c) events u).stays_host hu
      rw [(deliver_host c ht _).host]
      change (hearActivation act t.host).session = t.host.session
      have hup : t.host.flags.disabling = false := congrArg Acquaintance.disabling hknown
      have hfresh : t.host.flags.reconnecting = false := congrArg Acquaintance.reconnecting hknown
      cases welcomes act hup hfresh with
      | ignores h hhost htold => rw [hhost]
      | fills h hfull hhost htold =>
        rw [hhost]
        rfl
      | discovers h hroom session hsession hhost htold =>
        rw [hslots] at hroom
        omega

/-- Two tags come into the field, with a peer device between them; the field is left, and a third comes. -/
def comingAndGoing : List Event :=
  [.activated (Sample.ultralight 1), .activated { Sample.bare 2 with protocol := Protocol.nfcDep },
    .activated (Sample.felica 3 0x12fc), .deactivated false, .activated (Sample.isoDepCard 4)]

/-- The listener hears of the three tags, the second time with the slot of the first, and of no more. -/
theorem three_tags_discovered :
    let t := ran Script.controller [] {} {} (firstBringUp ++ reports comingAndGoing)
    let first : Slot := ⟨.mifareUltralight, 1, Protocol.t2t, [0x44, 0x00], [0x00]⟩
    (∀ event ∈ eventsOf t.trace, disturbs event = false) ∧
      (System.notificationsOf t.trace).filter isTagDiscovery =
        (readOff discovered? [] (eventsOf t.trace)).mapIdx discoveryOf ∧
      (System.notificationsOf t.trace).filter isTagDiscovery =
        [.tagDiscovered 0 1 [0x04, 0x11, 0x22, 0x33, 0x44, 0x55, 0x66] [.mifareUltralight],
          .tagDiscovered 1 1 [0x01, 0x2e, 0x4c, 0x7a, 0x1b, 0x09, 0x33, 0x21] [.mifareUltralight, .felica],
          .tagDiscovered 2 4 [0x04, 0x5a, 0x31, 0x22, 0x7c, 0x10, 0x80] [.isoDep, .isoDep]] ∧
      t.host.endpoints =
        [{ slots := [first], uid := [0x04, 0x11, 0x22, 0x33, 0x44, 0x55, 0x66] },
          { slots := [first, ⟨.felica, 3, Protocol.t3t,
              [0x03, 0x01, 0x4b, 0x02, 0x4f, 0x49, 0x93, 0xff, 0x12, 0xfc], []⟩]
            uid := [0x01, 0x2e, 0x4c, 0x7a, 0x1b, 0x09, 0x33, 0x21] },
          { slots := [⟨.iso14443A, 4, Protocol.isoDep, [0x04, 0x00], [0x20]⟩,
              ⟨.iso14443Part4, 4, Protocol.isoDep, [0x04, 0x00], [0x80, 0x31, 0x80, 0x65]⟩]
            uid := [0x04, 0x5a, 0x31, 0x22, 0x7c, 0x10, 0x80] }] := by
  have hcalm : ∀ event ∈ eventsOf (ran Script.controller [] {} {}
      (firstBringUp ++ reports comingAndGoing)).trace, disturbs event = false := by decide
  obtain ⟨-, hknown⟩ := tags_discovered Script.controller {} {} comingAndGoing
  obtain ⟨-, htold, -⟩ := hknown hcalm
  exact ⟨hcalm, htold, by decide +kernel, by decide +kernel⟩

end NfcStack.Proofs
