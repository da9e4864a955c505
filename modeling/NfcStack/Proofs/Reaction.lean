import Mathlib.Tactic.Lemma
import NfcStack.System.Delivery

/-!
# Reactions

What becomes of the host by an event is a function of the event and the host alone. To the rest of the
system a reaction does one of three things: it adds to the trace, it keeps a notice back for later, or it
makes one request.
-/

namespace NfcStack.Proofs

variable {σ : Type} (c : Controller σ)

section Projections

variable (origin : Origin) (request : Request) (s : System σ)

lemma issue_receiver (h : request ≠ .enable) :
    (c.issue origin request s).2.receiver = s.receiver := if_neg h

/-- A notification is at most one more entry of the trace. -/
lemma notify_cases (notification : Notification) :
    s.notify notification = s ∨ s.notify notification = s.record (.notified notification) := by
  unfold System.notify
  split
  · exact .inr rfl
  · exact .inl rfl

end Projections

section Hearing

/-- The controller failed: a stack that is up is on its way down, any other is down. -/
def hearFailure (host : Host) : Host :=
  { host with
    session := host.session.abort
    polling := host.polling.abort
    enable := host.enable.abort
    disable := host.disable.abort
    flags :=
      { host.flags with
        enabled := host.flags.active
        disabling := host.flags.active
        discovery := false
        polling := false } }

/-- Peer devices and targets of a listening mode or of a secure element. -/
def isForeign (act : Activation) : Bool :=
  act.protocol == Protocol.nfcDep || !RadioMode.isPoll act.mode
    || act.interface == RadioInterface.direct

/-- Whoever listens keeps the endpoint. -/
def keepEndpoint (endpoint : Endpoint) (host : Host) : Host :=
  match host.listener with
  | .recording => { host with endpoints := host.endpoints ++ [endpoint] }
  | _ => host

def hearActivation (act : Activation) (host : Host) : Host :=
  if host.flags.disabling || isForeign act then host
  else
    let host := host.mapFlags fun flags => { flags with tagActive := true }
    if host.flags.reconnecting then
      host.mapSession fun session => { session with activated := session.activated.notify () }
    else match host.session.admit? act with
      | none => host
      | some session =>
        keepEndpoint (Endpoint.ofSession session act) (host.mapSession fun _ => session)

/-- A target that was selected for a notice is taken for connected. -/
def connectTo (target : DiscoveryNotice) (host : Host) : Host :=
  host.mapSession fun session =>
    { session with connection := some ⟨target.target, target.protocol, .unknown⟩ }

def hearNotice (notice : DiscoveryNotice) (host : Host) : Host :=
  let (found, session) := host.session.collect notice
  let host := host.mapSession fun _ => session
  match found with
  | none => host
  | some target => if host.usesField then host else connectTo target host

/-- What becomes of the host by an event. -/
def hear (event : Event) (host : Host) : Host :=
  match event with
  | .enabled status =>
    { host with
      flags := { host.flags with enabled := status.isOk, disabling := false }
      enable := host.enable.notify status }
  | .disabled =>
    { host with
      flags := { host.flags with enabled := false, disabling := false }
      disable := host.disable.notify () }
  | .field _ _ => host
  | .transportError => hearFailure host
  | .controllerTimeout => hearFailure host
  | .parameterSet status => Venue.parameter.map (·.notify status) host
  | .powerSubStateSet status => Venue.powerSubState.map (·.notify status) host
  | .pollingEnabled status => Venue.polling.map (·.notify status) host
  | .pollingDisabled status => Venue.polling.map (·.notify status) host
  | .discoveryStarted status => Venue.polling.map (·.notify status) host
  | .discoveryStopped status => Venue.polling.map (·.notify status) host
  | .activated act => hearActivation act host
  | .deactivated true =>
    { host with
      flags := { host.flags with reconnecting := true }
      session := { host.session with deactivated := host.session.deactivated.notify () } }
  | .deactivated false =>
    { host with
      flags := { host.flags with tagActive := false, reconnecting := false }
      session := host.session.forget }
  | .discovered status notice => if status.isOk then hearNotice notice host else host
  | .nfceesRegistered status => Venue.register.map (·.notify status) host
  | .techRouted status => Venue.routing.map (·.notify status) host
  | .techCleared status => Venue.routing.map (·.notify status) host
  | .protocolRouted status => Venue.routing.map (·.notify status) host
  | .protocolCleared status => Venue.routing.map (·.notify status) host
  | .aidAdded status => Venue.aid.map (·.notify status) host
  | .aidRemoved status => Venue.aid.map (·.notify status) host
  | .routingCommitted => Venue.commit.map (·.notify ()) host
  | .nfceesAnnounced _ announced => host.mapRouter fun router => { router with announced }
  | .nfceeModeSet status => Venue.mode.map (·.notify status) host
  | .remaining size => Venue.remaining.map (·.notify size) host
  | .cardActivated _ => host.mapRouter fun router => { router with apdu := router.apdu.reset }
  | .cardDeactivated => host.mapRouter fun router => { router with apdu := router.apdu.reset }
  | .cardData status bytes =>
    host.mapRouter fun router => { router with apdu := (host.router.apdu.push status bytes).2 }
  | .hciReceived _ _ _ => host
  | .hciOther _ => host
  | other => host.mapSession (·.receive other)

/-- What becomes of a host whose tag session runs without it. -/
def hearAlone (event : Event) (host : Host) : Host :=
  match event with
  | .activated _ => Venue.activated.map (·.notify ()) host
  | .deactivated _ => Venue.deactivated.map (·.notify ()) host
  | .discovered status notice => if status.isOk then hearNotice notice host else host
  | other => host.mapSession (·.receive other)

/-- What becomes of a host by a happening. -/
def hearHappening : Happening → Host → Host
  | .event event, host => hear event host
  | .abortAll, host => host.abortAll
  | .abortSession, host => host.mapSession Session.abort

lemma collect_shape (session : Session) (notice : DiscoveryNotice) :
    ∃ notices, (session.collect notice).2 = { session with notices } := by
  unfold Session.collect
  dsimp only
  split
  · exact ⟨_, rfl⟩
  · exact ⟨_, rfl⟩

lemma admit_shape {session : Session} {act : Activation} {admitted : Session}
    (h : session.admit? act = some admitted) :
    ∃ protocol topazCapacity signatures slots present,
      admitted = { session with protocol, topazCapacity, signatures, slots, present } := by
  unfold Session.admit? at h
  split at h
  · exact absurd h nofun
  · exact ⟨_, _, _, _, _, (Option.some.inj h).symm⟩

lemma keepEndpoint_session (endpoint : Endpoint) (host : Host) :
    (keepEndpoint endpoint host).session = host.session := by
  unfold keepEndpoint
  split
  · rfl
  · rfl

/-- What becomes of the session by an activation: nothing, or it completes a selection, or it is taken in. -/
lemma hearActivation_session {P : Session → Prop} (act : Activation) (host : Host)
    (hsame : P host.session)
    (hagain : P { host.session with activated := host.session.activated.notify () })
    (hadmitted : ∀ session, host.session.admit? act = some session → P session) :
    P (hearActivation act host).session := by
  unfold hearActivation
  split
  · exact hsame
  · dsimp only
    split
    · exact hagain
    · split
      · exact hsame
      · next session hsession =>
        rw [keepEndpoint_session]
        exact hadmitted session hsession

/-- An activation only concerns the tag in the field and the endpoints. -/
lemma hearActivation_shape (act : Activation) (host : Host) :
    ∃ tagActive session endpoints, hearActivation act host =
      { host with flags := { host.flags with tagActive }, session, endpoints } := by
  unfold hearActivation
  split
  · exact ⟨_, _, _, rfl⟩
  · dsimp only
    split
    · exact ⟨_, _, _, rfl⟩
    · split
      · exact ⟨_, _, _, rfl⟩
      · unfold keepEndpoint
        split
        · exact ⟨_, _, _, rfl⟩
        · exact ⟨_, _, _, rfl⟩

/-- A notice only concerns the tag session. -/
lemma hearNotice_shape (notice : DiscoveryNotice) (host : Host) :
    ∃ session, hearNotice notice host = { host with session } := by
  unfold hearNotice
  dsimp only
  split
  · exact ⟨_, rfl⟩
  · split
    · exact ⟨_, rfl⟩
    · exact ⟨_, rfl⟩

lemma discovered_shape (status : Status) (notice : DiscoveryNotice) (host : Host) :
    ∃ session, hear (.discovered status notice) host = { host with session } := by
  change ∃ session, (if status.isOk then hearNotice notice host else host) = { host with session }
  split
  · exact hearNotice_shape notice host
  · exact ⟨_, rfl⟩

def concernsTag : Event → Bool
  | .activated _ => true
  | .discovered _ _ => true
  | .deactivated _ => true
  | _ => false

lemma hear_tag {event : Event} (h : concernsTag event = true) (host : Host) :
    ∃ flags session endpoints, hear event host = { host with flags, session, endpoints } := by
  cases event with
  | activated act =>
    obtain ⟨tagActive, session, endpoints, hshape⟩ := hearActivation_shape act host
    exact ⟨_, _, _, hshape⟩
  | discovered status notice =>
    obtain ⟨session, hshape⟩ := discovered_shape status notice host
    exact ⟨_, _, _, hshape⟩
  | deactivated sleep => cases sleep <;> exact ⟨_, _, _, rfl⟩
  | _ => exact absurd h nofun

/-- What becomes of a host by happenings, one after the other. -/
def hearAll (happenings : List Happening) (host : Host) : Host :=
  happenings.foldl (fun host happening => hearHappening happening host) host

lemma hearAll_cons (first : Happening) (rest : List Happening) (host : Host) :
    hearAll (first :: rest) host = hearAll rest (hearHappening first host) := rfl

lemma hearAll_append (first rest : List Happening) (host : Host) :
    hearAll (first ++ rest) host = hearAll rest (hearAll first host) :=
  List.foldl_append

end Hearing

section Effects

/-- What a reaction may leave in the trace. Reactions make three sorts of requests. -/
def OfReaction (entry : Entry) : Prop :=
  match entry.passage with
  | .notified _ => True
  | .request .reaction (.disable false) _ => True
  | .request .reaction (.select _ _ _) _ => True
  | .request .reaction .queryNfcees _ => True
  | _ => False

/-- What a reaction may leave in the trace that asks nothing of a tag or the life cycle. -/
def OfTelling (entry : Entry) : Prop :=
  match entry.passage with
  | .notified _ => True
  | .request .reaction .queryNfcees _ => True
  | _ => False

lemma OfTelling.ofReaction {entry : Entry} (h : OfTelling entry) : OfReaction entry := by
  unfold OfTelling at h
  unfold OfReaction
  split at h
  · next hp => simp only [hp]
  · next hp => simp only [hp]
  · exact h.elim

/-- A discovery that was reported for good. -/
def isDiscovery : Event → Bool
  | .discovered status _ => status.isOk
  | _ => false

def isFailure : Event → Bool
  | .transportError => true
  | .controllerTimeout => true
  | _ => false

/-- What a reaction asks for: a failed controller is to be disabled, and a discovered target selected. -/
inductive AskedFor : Event → Request → Prop where
  | disable {event : Event} (h : isFailure event = true) : AskedFor event (.disable false)
  | select {event : Event} (h : isDiscovery event = true) (target protocol interface : UInt8) :
      AskedFor event (.select target protocol interface)

/-- Nothing happens to a system but what becomes of the host and what joins the trace. -/
def Tells (s : System σ) (after : Host) (t : System σ) : Prop :=
  ∃ new, (∀ entry ∈ new, OfTelling entry) ∧ t = { s with host := after, trace := s.trace ++ new }

/-- What a reaction does to a system, given what becomes of the host. -/
inductive Reacts (event : Event) (s : System σ) (after : Host) : System σ → Prop where
  | tells {t : System σ} (h : Tells s after t) : Reacts event s after t
  | holds (notice : LateNotice) (h : isDiscovery event = true) (hu : s.host.usesField = true) :
      Reacts event s after { s with host := after, late := some notice }
  | asks (host : Host) {request : Request} (h : AskedFor event request) :
      Reacts event s after { (c.issue .reaction request { s with host }).2 with host := after }

variable {c} {event : Event} {s t : System σ} {after : Host}

lemma tells_nothing (s : System σ) (after : Host) : Tells s after { s with host := after } := by
  refine ⟨[], fun _ hmem => absurd hmem List.not_mem_nil, ?_⟩
  rw [List.append_nil]

lemma Tells.record (h : Tells s after t) (passage : Passage)
    (hp : ∀ flags, OfTelling ⟨passage, flags⟩) : Tells s after (t.record passage) := by
  obtain ⟨new, hnew, rfl⟩ := h
  refine ⟨new ++ [⟨passage, after.flags⟩], fun entry hmem => ?_, ?_⟩
  · rcases List.mem_append.mp hmem with hold | hlast
    · exact hnew entry hold
    · rw [List.mem_singleton.mp hlast]
      exact hp after.flags
  · rw [← List.append_assoc]
    rfl

lemma Tells.notify (h : Tells s after t) (notification : Notification) :
    Tells s after (t.notify notification) := by
  rcases notify_cases t notification with hsame | hrecorded
  · rw [hsame]
    exact h
  · rw [hrecorded]
    exact h.record (.notified notification) fun _ => trivial

lemma Tells.query (h : Tells s after t) : Tells s after (c.queryNfcees .reaction t).2 :=
  h.record (.request .reaction .queryNfcees _) fun _ => trivial

lemma tells_announce (endpoint : Endpoint) (s : System σ) (after : Host) :
    Tells s (keepEndpoint endpoint after) (System.announce endpoint { s with host := after }) := by
  unfold System.announce keepEndpoint
  cases hl : after.listener with
  | absent => exact tells_nothing s after
  | silent => exact tells_nothing s after
  | recording =>
    dsimp only [System.mapHost]
    rw [hl]
    exact (tells_nothing s _).record (.notified _) fun _ => trivial

lemma Reacts.host (h : Reacts c event s after t) : t.host = after := by
  cases h with
  | tells h =>
    obtain ⟨new, -, rfl⟩ := h
    rfl
  | holds notice h hu => rfl
  | asks host h => rfl

lemma Reacts.receiver (h : Reacts c event s after t) : t.receiver = s.receiver := by
  cases h with
  | tells h =>
    obtain ⟨new, -, rfl⟩ := h
    rfl
  | holds notice h hu => rfl
  | asks host h =>
    cases h with
    | disable h => rfl
    | select h => rfl

/-- Whether a stack ignores an activation. -/
lemma ignored_eq (disabling : Bool) (act : Activation) :
    (disabling || act.protocol == Protocol.nfcDep || !RadioMode.isPoll act.mode
      || act.interface == RadioInterface.direct) = (disabling || isForeign act) := by
  unfold isForeign
  rw [Bool.or_assoc, Bool.or_assoc, Bool.or_assoc]

lemma reactToActivation_reacts (act : Activation) (s : System σ) :
    Reacts c event s (hearActivation act s.host) (Controller.reactToActivation act s) := by
  unfold Controller.reactToActivation hearActivation
  rw [ignored_eq]
  by_cases hignored : (s.host.flags.disabling || isForeign act) = true
  · rw [if_pos hignored, if_pos hignored]
    exact .tells (tells_nothing s _)
  · rw [if_neg hignored, if_neg hignored]
    dsimp only [System.mapHost]
    by_cases hagain : (s.host.mapFlags fun flags => { flags with tagActive := true }).flags.reconnecting
        = true
    · rw [if_pos hagain, if_pos hagain]
      exact .tells (tells_nothing s _)
    · rw [if_neg hagain, if_neg hagain]
      generalize s.host.mapFlags (fun flags => { flags with tagActive := true }) = marked
      cases marked.session.admit? act with
      | none => exact .tells (tells_nothing s _)
      | some session => exact .tells (tells_announce _ s _)

lemma selectDiscovered_reacts (hd : isDiscovery event = true) (target : DiscoveryNotice) (host : Host)
    (s : System σ) : Reacts c event s (connectTo target host)
      (c.selectDiscovered target { s with host }) :=
  .asks host (.select hd _ _ _)

lemma reactToNotice_reacts (hd : isDiscovery event = true) (notice : DiscoveryNotice) (s : System σ) :
    Reacts c event s (hearNotice notice s.host) (c.reactToNotice notice s) := by
  unfold Controller.reactToNotice hearNotice
  dsimp only [System.mapHost]
  cases (s.host.session.collect notice).1 with
  | none => exact .tells (tells_nothing s _)
  | some target =>
    dsimp only
    by_cases hu : s.host.usesField = true
    · have hu' : (s.host.mapSession fun _ => (s.host.session.collect notice).2).usesField = true := hu
      rw [if_pos hu', if_pos hu']
      split
      · exact .holds _ hd hu
      · exact .tells (tells_nothing s _)
    · have hu' : ¬(s.host.mapSession fun _ => (s.host.session.collect notice).2).usesField = true := hu
      rw [if_neg hu', if_neg hu']
      exact selectDiscovered_reacts hd _ _ s

/-- The controller of an active stack is disabled, and the stack is on its way down. -/
lemma reactToFailure_active {s : System σ} (hactive : s.host.flags.active = true) :
    ∃ host, c.reactToFailure s =
      { (c.issue .reaction (.disable false) { s with host }).2 with host := hearFailure s.host } := by
  have henabled : s.host.flags.enabled = true := by
    unfold Flags.active at hactive
    exact (Bool.and_eq_true_iff.mp hactive).1
  have hnow : Flags.active { s.host.flags with discovery := false, polling := false } = true := hactive
  have hdown : ({ s.host.flags with
      enabled := s.host.flags.active
      disabling := s.host.flags.active
      discovery := false
      polling := false } : Flags) =
        { s.host.flags with disabling := true, discovery := false, polling := false } := by
    dsimp only
    rw [hactive, henabled]
  unfold Controller.reactToFailure hearFailure
  dsimp only [System.mapHost]
  rw [if_pos hnow, hdown]
  exact ⟨_, rfl⟩

lemma reactToFailure_reacts (hf : isFailure event = true) (s : System σ) :
    Reacts c event s (hearFailure s.host) (c.reactToFailure s) := by
  by_cases hactive : s.host.flags.active = true
  · obtain ⟨host, hasked⟩ := reactToFailure_active (c := c) hactive
    rw [hasked]
    exact .asks host (.disable hf)
  · have hnow : ¬Flags.active { s.host.flags with discovery := false, polling := false } = true := hactive
    unfold Controller.reactToFailure hearFailure
    dsimp only [System.mapHost]
    rw [if_neg hnow, Bool.eq_false_iff.mpr hactive]
    exact .tells (tells_nothing s _)

lemma reactToPipe_tells (pipe code : UInt8) (payload : Bytes) (s : System σ) :
    Tells s s.host (c.reactToPipe pipe code payload s) := by
  have hnothing : Tells s s.host s := tells_nothing s s.host
  unfold Controller.reactToPipe
  split
  · by_cases hf : (OffHostTransaction.family? s.host.config.pipes pipe).isSome
    · simp only [hf, if_true]
      split
      · exact hnothing.query.notify _
      · exact hnothing.query
    · simp only [hf]
      split
      · exact hnothing.notify _
      · exact hnothing
  · exact hnothing

lemma reactToCardData_tells (status : Status) (bytes : Bytes) (s : System σ) :
    Tells s (hear (.cardData status bytes) s.host) (Controller.reactToCardData status bytes s) := by
  have hkept := tells_nothing s (hear (.cardData status bytes) s.host)
  unfold Controller.reactToCardData
  dsimp only
  split
  · exact hkept.notify _
  · exact hkept

/-- Every reaction does to the host what the event says. -/
theorem react_reacts (event : Event) (s : System σ) :
    Reacts c event s (hear event s.host) (c.react event s) := by
  cases event with
  | field status on =>
    have hnothing : Tells s s.host s := tells_nothing s s.host
    change Reacts c _ s s.host (if status.isOk then _ else _)
    split
    · exact .tells (hnothing.notify _)
    · exact .tells hnothing
  | transportError => exact reactToFailure_reacts rfl s
  | controllerTimeout => exact reactToFailure_reacts rfl s
  | activated act => exact reactToActivation_reacts act s
  | deactivated sleep => cases sleep <;> exact .tells (tells_nothing s _)
  | discovered status notice =>
    change Reacts c _ s (if status.isOk then _ else _) (if status.isOk then _ else _)
    by_cases hok : status.isOk = true
    · have hd : isDiscovery (.discovered status notice) = true := hok
      rw [if_pos hok, if_pos hok]
      exact reactToNotice_reacts hd notice s
    · rw [if_neg hok, if_neg hok]
      exact .tells (tells_nothing s _)
  | nfceesAnnounced status announced => exact .tells ((tells_nothing s _).notify .nfceesChanged)
  | cardActivated protocol => exact .tells ((tells_nothing s _).notify _)
  | cardDeactivated => exact .tells ((tells_nothing s _).notify _)
  | cardData status bytes => exact .tells (reactToCardData_tells status bytes s)
  | hciReceived pipe code payload => exact .tells (reactToPipe_tells pipe code payload s)
  | _ => exact .tells (tells_nothing s _)

lemma reactAlone_reacts (event : Event) (s : System σ) :
    Reacts c event s (hearAlone event s.host) (c.reactAlone event s) := by
  cases event with
  | discovered status notice =>
    change Reacts c _ s (if status.isOk then _ else _) (if status.isOk then _ else _)
    by_cases hok : status.isOk = true
    · have hd : isDiscovery (.discovered status notice) = true := hok
      rw [if_pos hok, if_pos hok]
      exact reactToNotice_reacts hd notice s
    · rw [if_neg hok, if_neg hok]
      exact .tells (tells_nothing s _)
  | _ => exact .tells (tells_nothing s _)

end Effects

end NfcStack.Proofs
