import Mathlib.Data.List.DropRight
import NfcStack.Bench.Script
import NfcStack.Proofs.Company
import NfcStack.Proofs.Cooperation

/-!
# What the listener is told

A listener that listens is told of an event as it is delivered, and of nothing else. What it is told, and
what the host makes of the events, can be read off the history of delivered events by an invariant that
no act breaks.
-/

namespace NfcStack.Proofs

variable {σ α : Type}

section Tidings

/-- What there is to tell of an activation: a new tag, if it is one and the session has room for it. -/
def activationTidings (act : Activation) (host : Host) : List Notification :=
  if host.flags.disabling || isForeign act || host.flags.reconnecting then []
  else match host.session.admit? act with
    | none => []
    | some session =>
      let endpoint := Endpoint.ofSession session act
      [.tagDiscovered host.endpoints.length endpoint.handle endpoint.uid endpoint.kinds]

/-- What there is to tell of a message on a pipe: a transaction that can be read. -/
def pipeTidings (pipes : PipeConfig) (infos : Except Status (List NfceeInfo)) (pipe code : UInt8)
    (payload : Bytes) : List Notification :=
  if code = OffHostTransaction.eventCode then
    match OffHostTransaction.decode pipes infos pipe payload with
    | .ok found => [.transaction found]
    | .error _ => []
  else []

/-- What there is to tell of an event, when the controller would give this answer about its execution
environments. -/
def tidings (infos : Except Status (List NfceeInfo)) (event : Event) (host : Host) :
    List Notification :=
  match event with
  | .field status on => if status.isOk then [if on then .fieldOn else .fieldOff] else []
  | .activated act => activationTidings act host
  | .nfceesAnnounced _ _ => [.nfceesChanged]
  | .cardActivated _ => [.cardActivated TechMask.a]
  | .cardDeactivated => [.cardDeactivated TechMask.a]
  | .cardData status bytes =>
    ((host.router.apdu.push status bytes).1.map (.cardData TechMask.a)).toList
  | .hciReceived pipe code payload => pipeTidings host.config.pipes infos pipe code payload
  | _ => []

/-- Only a listener that listens is told anything. -/
def heardBy : Listener → List Notification → List Notification
  | .recording, notifications => notifications
  | _, _ => []

lemma heardBy_nil (listener : Listener) : heardBy listener [] = [] := by
  cases listener <;> rfl

lemma heardBy_recording {listener : Listener} (h : listener = .recording)
    (notifications : List Notification) : heardBy listener notifications = notifications := by
  rw [h]
  rfl

section Kinds

variable {kind : Notification → Bool} (infos : Except Status (List NfceeInfo)) (host : Host)

lemma tidings_field (hon : kind .fieldOn = false) (hoff : kind .fieldOff = false) (status : Status)
    (on : Bool) : (tidings infos (.field status on) host).filter kind = [] := by
  unfold tidings
  dsimp only
  split
  · cases on
    · simp [hoff]
    · simp [hon]
  · rfl

lemma tidings_pipe (h : ∀ found, kind (.transaction found) = false) (pipe code : UInt8)
    (payload : Bytes) : (tidings infos (.hciReceived pipe code payload) host).filter kind = [] := by
  change (pipeTidings _ infos pipe code payload).filter kind = []
  unfold pipeTidings
  split
  · split
    · simp [h]
    · rfl
  · rfl

end Kinds

variable (c : Controller σ) (s : System σ)

lemma notificationsOf_append (first rest : List Entry) :
    System.notificationsOf (first ++ rest) =
      System.notificationsOf first ++ System.notificationsOf rest :=
  List.filterMap_append

lemma record_request_tells (origin : Origin) (request : Request) (verdict : Status) :
    System.notificationsOf (s.record (.request origin request verdict)).trace =
      System.notificationsOf s.trace := by
  rw [System.record_trace, notificationsOf_append]
  exact List.append_nil _

lemma issue_tells (origin : Origin) (request : Request) :
    System.notificationsOf (c.issue origin request s).2.trace = System.notificationsOf s.trace := by
  change System.notificationsOf (s.trace ++ [_]) = _
  rw [notificationsOf_append]
  exact List.append_nil _

lemma record_notified_tells (notification : Notification) :
    System.notificationsOf (s.record (.notified notification)).trace =
      System.notificationsOf s.trace ++ [notification] := by
  rw [System.record_trace, notificationsOf_append]
  rfl

lemma notify_tells (notification : Notification) :
    System.notificationsOf (s.notify notification).trace =
      System.notificationsOf s.trace ++ heardBy s.host.listener [notification] := by
  unfold System.notify
  cases s.host.listener with
  | recording => exact record_notified_tells s notification
  | absent => exact (List.append_nil _).symm
  | silent => exact (List.append_nil _).symm

lemma announce_tells (endpoint : Endpoint) :
    System.notificationsOf (s.announce endpoint).trace = System.notificationsOf s.trace ++
      heardBy s.host.listener [.tagDiscovered s.host.endpoints.length endpoint.handle endpoint.uid
        endpoint.kinds] := by
  unfold System.announce
  cases s.host.listener with
  | recording => exact record_notified_tells _ _
  | absent => exact (List.append_nil _).symm
  | silent => exact (List.append_nil _).symm

lemma tells_of_eq {t : System σ} {listener : Listener}
    (h : System.notificationsOf t.trace = System.notificationsOf s.trace) :
    System.notificationsOf t.trace = System.notificationsOf s.trace ++ heardBy listener [] := by
  rw [h, heardBy_nil, List.append_nil]

lemma reactToActivation_tells (act : Activation) :
    System.notificationsOf (Controller.reactToActivation act s).trace =
      System.notificationsOf s.trace ++ heardBy s.host.listener (activationTidings act s.host) := by
  unfold Controller.reactToActivation activationTidings
  rw [ignored_eq]
  by_cases hignored : (s.host.flags.disabling || isForeign act) = true
  · rw [if_pos hignored, hignored, Bool.true_or, if_pos rfl]
    exact tells_of_eq s rfl
  · rw [if_neg hignored, Bool.eq_false_iff.mpr hignored, Bool.false_or]
    dsimp only [System.mapHost, Host.mapFlags]
    by_cases hagain : s.host.flags.reconnecting = true
    · rw [if_pos hagain, if_pos hagain]
      exact tells_of_eq s rfl
    · rw [if_neg hagain, if_neg hagain]
      cases s.host.session.admit? act with
      | none => exact tells_of_eq s rfl
      | some session => exact announce_tells _ _

lemma reactToNotice_tells (notice : DiscoveryNotice) :
    System.notificationsOf (c.reactToNotice notice s).trace = System.notificationsOf s.trace := by
  unfold Controller.reactToNotice
  dsimp only [System.mapHost]
  split
  · rfl
  · split
    · split
      · rfl
      · rfl
    · exact issue_tells c _ _ _

lemma reactToFailure_tells :
    System.notificationsOf (c.reactToFailure s).trace = System.notificationsOf s.trace := by
  unfold Controller.reactToFailure
  dsimp only
  split
  · exact issue_tells c _ _ _
  · rfl

lemma reactToCardData_tidings (status : Status) (bytes : Bytes) :
    System.notificationsOf (Controller.reactToCardData status bytes s).trace =
      System.notificationsOf s.trace ++ heardBy s.host.listener
        ((s.host.router.apdu.push status bytes).1.map (.cardData TechMask.a)).toList := by
  unfold Controller.reactToCardData
  dsimp only
  cases (s.host.router.apdu.push status bytes).1 with
  | none => exact tells_of_eq s rfl
  | some command => exact notify_tells _ _

lemma decode_unknown {pipes : PipeConfig} {pipe : UInt8}
    (h : OffHostTransaction.family? pipes pipe = none) (infos : Except Status (List NfceeInfo))
    (payload : Bytes) :
    OffHostTransaction.decode pipes infos pipe payload = .error (.unknownPipe pipe) := by
  unfold OffHostTransaction.decode
  rw [h]

lemma reactToPipe_tidings (pipe code : UInt8) (payload : Bytes) :
    System.notificationsOf (c.reactToPipe pipe code payload s).trace =
      System.notificationsOf s.trace ++ heardBy s.host.listener
        (pipeTidings s.host.config.pipes (c.nfcees s.controller) pipe code payload) := by
  unfold Controller.reactToPipe pipeTidings
  split
  · cases hfamily : OffHostTransaction.family? s.host.config.pipes pipe with
    | none =>
      simp only [Option.isSome_none, Bool.false_eq_true, if_false, decode_unknown hfamily]
      exact tells_of_eq s rfl
    | some family =>
      have hasked : System.notificationsOf (c.queryNfcees .reaction s).2.trace =
          System.notificationsOf s.trace := record_request_tells s _ _ _
      simp only [Option.isSome_some, if_true]
      change System.notificationsOf (match OffHostTransaction.decode s.host.config.pipes
          (c.nfcees s.controller) pipe payload with
        | .ok found => (c.queryNfcees .reaction s).2.notify (.transaction found)
        | .error _ => (c.queryNfcees .reaction s).2).trace = _
      cases OffHostTransaction.decode s.host.config.pipes (c.nfcees s.controller) pipe payload with
      | ok found =>
        rw [notify_tells, hasked]
        rfl
      | error failure =>
        rw [hasked, heardBy_nil, List.append_nil]
  · exact tells_of_eq s rfl

lemma react_tells (event : Event) :
    System.notificationsOf (c.react event s).trace = System.notificationsOf s.trace ++
      heardBy s.host.listener (tidings (c.nfcees s.controller) event s.host) := by
  cases event with
  | field status on =>
    unfold Controller.react tidings
    dsimp only
    split
    · exact notify_tells s _
    · exact tells_of_eq s rfl
  | transportError => exact tells_of_eq s (reactToFailure_tells c s)
  | controllerTimeout => exact tells_of_eq s (reactToFailure_tells c s)
  | activated act => exact reactToActivation_tells s act
  | deactivated sleep => cases sleep <;> exact tells_of_eq s rfl
  | discovered status notice =>
    refine tells_of_eq s ?_
    unfold Controller.react
    dsimp only
    split
    · exact reactToNotice_tells c s notice
    · rfl
  | nfceesAnnounced status announced => exact notify_tells _ _
  | cardActivated protocol => exact notify_tells _ _
  | cardDeactivated => exact notify_tells _ _
  | cardData status bytes => exact reactToCardData_tidings s status bytes
  | hciReceived pipe code payload => exact reactToPipe_tidings c s pipe code payload
  | _ => exact tells_of_eq s rfl

variable {s}

/-- The listener is told of an event when it is delivered. -/
lemma deliver_tells (hr : s.receiver = .host) (event : Event) :
    System.notificationsOf (c.deliver (.event event) s).trace = System.notificationsOf s.trace ++
      heardBy s.host.listener (tidings (c.nfcees s.controller) event s.host) := by
  have hrecorded : System.notificationsOf (s.record (.delivered event)).trace =
      System.notificationsOf s.trace := by
    rw [System.record_trace, notificationsOf_append]
    exact List.append_nil _
  have hdeliver : c.deliver (.event event) s = c.react event (s.record (.delivered event)) := by
    simp only [Controller.deliver, hr]
  rw [hdeliver, react_tells, hrecorded]
  rfl

lemma deliver_eventsOf (hn : s.receiver ≠ .nobody) (event : Event) :
    eventsOf (c.deliver (.event event) s).trace = eventsOf s.trace ++ [event] := by
  obtain ⟨new, htrace, hevents⟩ := deliver_events c hn event
  rw [htrace, eventsOf_append, hevents]

end Tidings

section Histories

variable {c : Controller σ} {P : Act → Prop} {s t u : System σ}
  {J : Host → List Event → List Notification → Prop}

/-- A property of the host, of the events it was told and of what it told its listener, which neither an
act nor a delivery breaks. -/
structure Tracks (c : Controller σ) (P : Act → Prop)
    (J : Host → List Event → List Notification → Prop) : Prop where
  change : ∀ change, P (.change change) → ∀ {host events told}, J host events told →
    J (change.apply host) events told
  waits : ∀ f, OnlyWaits f → ∀ {host events told}, J host events told → J (f host) events told
  inUse : ∀ resources {host events told}, J host events told →
    J { host with inUse := resources } events told
  connect : ∀ target {host events told}, J host events told → J (connectTo target host) events told
  hear : ∀ event x {host events told}, J host events told →
    J (hear event host) (events ++ [event])
      (told ++ heardBy host.listener (tidings (c.nfcees x) event host))

/-- A property holds of a system and of all that passed in it. -/
def HoldsOf (J : Host → List Event → List Notification → Prop) (s : System σ) : Prop :=
  J s.host (eventsOf s.trace) (System.notificationsOf s.trace)

/-- From one system to another a property was kept, whoever the host is that receives the events. -/
def Carries (J : Host → List Event → List Notification → Prop) (s t : System σ) : Prop :=
  s.receiver ≠ .session → t.receiver ≠ .session ∧ (HoldsOf J s → HoldsOf J t)

lemma Carries.refl (s : System σ) : Carries J s s := fun hs => ⟨hs, id⟩

lemma Carries.trans (h₁ : Carries J s t) (h₂ : Carries J t u) : Carries J s u := by
  intro hs
  obtain ⟨ht, hfirst⟩ := h₁ hs
  obtain ⟨hu, hrest⟩ := h₂ ht
  exact ⟨hu, fun h => hrest (hfirst h)⟩

lemma carries_mapHost {f : Host → Host}
    (hf : ∀ {events told}, J s.host events told → J (f s.host) events told) :
    Carries J s (s.mapHost f) :=
  fun hs => ⟨hs, fun h => hf h⟩

lemma carries_request (hr : s.receiver ≠ .session → t.receiver ≠ .session)
    {entry : Entry} (ht : t.trace = s.trace ++ [entry]) (hhost : t.host = s.host)
    {origin : Origin} {request : Request} {verdict : Status}
    (hentry : entry.passage = .request origin request verdict) : Carries J s t := by
  intro hs
  have hevents : eventsOf t.trace = eventsOf s.trace := by
    rw [ht, eventsOf_append]
    simp [eventsOf, hentry]
  have htold : System.notificationsOf t.trace = System.notificationsOf s.trace := by
    rw [ht, notificationsOf_append]
    simp [System.notificationsOf, hentry]
  refine ⟨hr hs, fun h => ?_⟩
  unfold HoldsOf
  rw [hhost, hevents, htold]
  exact h

lemma issue_carries (origin : Origin) (request : Request) (s : System σ) :
    Carries J s (c.issue origin request s).2 :=
  carries_request (issue_not_session origin request s) rfl rfl rfl

lemma Tracks.selectDiscovered (hJ : Tracks c P J) (target : DiscoveryNotice) (s : System σ) :
    Carries J s (c.selectDiscovered target s) :=
  (issue_carries .reaction _ s).trans (carries_mapHost fun h => hJ.connect target h)

lemma Tracks.deliver (hJ : Tracks c P J) (happening : Happening) (s : System σ) :
    Carries J s (c.deliver happening s) := by
  cases happening with
  | abortAll => exact carries_mapHost fun h => hJ.waits _ waits_only_abortAll h
  | abortSession => exact carries_mapHost fun h => hJ.waits _ waits_only_abortSession h
  | event event =>
    intro hs
    cases hr : s.receiver with
    | session => exact absurd hr hs
    | nobody =>
      rw [deliver_nobody c hr]
      exact ⟨hs, id⟩
    | host =>
      have hn : s.receiver ≠ .nobody := receives_of_host hr
      rw [deliver_receiver]
      refine ⟨hs, fun h => ?_⟩
      unfold HoldsOf
      rw [(deliver_host c hr event).host, deliver_eventsOf c hn, deliver_tells c hr]
      exact hJ.hear event s.controller h

lemma Tracks.follows (hJ : Tracks c P J) : FollowsDeliveries c (Carries J) where
  refl := Carries.refl
  trans := Carries.trans
  queue _ _ := fun hs => ⟨hs, id⟩
  deliver s happening _ := hJ.deliver happening s

lemma Tracks.steps (hJ : Tracks c P J) : FollowsSteps c P (Carries J) where
  toFollowsDeliveries := hJ.follows
  request request s _ _ := issue_carries .caller request s
  query _ := carries_request id rfl rfl rfl
  change change _ hp := carries_mapHost fun h => hJ.change change hp h
  inUse resources _ := carries_mapHost fun h => hJ.inUse resources h
  heldUp _ := fun hs => ⟨hs, id⟩
  late _ _ _ := fun hs => ⟨hs, id⟩
  selects notice s _ := by
    have hdropped : Carries J s { s with late := none } := fun hs => ⟨hs, id⟩
    exact hdropped.trans (hJ.selectDiscovered notice.target _)

/-- Whatever is done, a property that no act and no delivery breaks is kept. -/
theorem Evolves.carries (hJ : Tracks c P J) (h : Evolves c P s t) : Carries J s t := hJ.steps.evolves h

end Histories

section Reports

variable {c : Controller σ} {P : Act → Prop} {s : System σ}

/-- What a history says event by event, each in the light of those before it. -/
def readOff (f : List Event → Event → Option α) (before : List Event) : List Event → List α
  | [] => []
  | event :: rest => (f before event).toList ++ readOff f (before ++ [event]) rest

lemma readOff_snoc (f : List Event → Event → Option α) (before events : List Event) (event : Event) :
    readOff f before (events ++ [event]) =
      readOff f before events ++ (f (before ++ events) event).toList := by
  induction events generalizing before with
  | nil => simp [readOff]
  | cons first rest ih =>
    rw [List.cons_append, readOff, ih, readOff, List.append_assoc, List.append_assoc]
    rfl

/-- What came since the last one of a kind. -/
def sinceLast (kind : α → Bool) (items : List α) : List α := items.rtakeWhile fun item => !kind item

lemma sinceLast_self {kind : α → Bool} {item : α} (h : kind item = true) (items : List α) :
    sinceLast kind (items ++ [item]) = [] :=
  List.rtakeWhile_concat_neg (fun item => !kind item) items item (by simp [h])

lemma sinceLast_other {kind : α → Bool} {item : α} (h : kind item = false) (items : List α) :
    sinceLast kind (items ++ [item]) = sinceLast kind items ++ [item] :=
  List.rtakeWhile_concat_pos (fun item => !kind item) items item (by simp [h])

/-- What came before the next one of a kind. -/
def beforeNext (kind : α → Bool) (items : List α) : List α := items.takeWhile fun item => !kind item

lemma beforeNext_append {kind : α → Bool} (first rest : List α) :
    beforeNext kind (first ++ rest) =
      if first.any kind then beforeNext kind first else first ++ beforeNext kind rest := by
  unfold beforeNext
  induction first with
  | nil => rfl
  | cons item others ih =>
    cases hkind : kind item with
    | true => simp [hkind]
    | false =>
      rw [List.cons_append, List.takeWhile_cons_of_pos (by simp [hkind]), ih,
        List.takeWhile_cons_of_pos (by simp [hkind]), List.any_cons, hkind, Bool.false_or]
      split
      · rfl
      · rfl

/-- Events that the controller reports one by one. What is in flight after one is delivered before the
next. -/
def reports (events : List Event) : List Deed := events.map fun event => .move (.event event)

/-- Acts of the controller alone. -/
def OnlyReports : Act → Prop
  | .report _ => True
  | _ => False

lemma report_keepsTo {env : Environment σ} (hp : ∀ event, P (.report event)) (event : Event) :
    KeepsTo P env ((Deed.move (.event event)).run : Op σ Unit) := by
  have harrive : KeepsTo P env ((Move.event event).run : Op σ Answer) :=
    fun _ => .report event (hp event)
  have hperform : KeepsTo P env ((Move.event event).perform : Op σ Answer) :=
    keepsTo_bind harrive fun _ => keepsTo_bind keepsTo_attend fun _ => keepsTo_pure _
  exact keepsTo_bind hperform fun _ => keepsTo_pure _

lemma reports_keepsTo {env : Environment σ} (hp : ∀ event, P (.report event)) (events : List Event) :
    KeepsTo P env (Deed.runAll (reports events) : Op σ Unit) := by
  induction events with
  | nil => exact keepsTo_pure _
  | cons event rest ih => exact keepsTo_bind (report_keepsTo hp event) fun _ => ih

lemma reports_evolves (events : List Event) (s : System σ) :
    Evolves c OnlyReports s (afterDeeds c (reports events) s) := by
  have hkeeps : KeepsTo OnlyReports c.alone (Deed.runAll (reports events) : Op σ Unit) :=
    reports_keepsTo (fun _ => trivial) events
  exact hkeeps s

lemma afterDeeds_report (event : Event) (rest : List Event) :
    afterDeeds c (reports (event :: rest)) s =
      afterDeeds c (reports rest) (c.attend (s.arrive event)) := rfl

lemma takeIn_events (happenings : List Happening) (hf : Free s) (hn : s.receiver ≠ .nobody) :
    eventsOf (c.takeIn happenings s).trace = eventsOf s.trace ++ eventsAmong happenings := by
  induction happenings generalizing s with
  | nil => exact (List.append_nil _).symm
  | cons first rest ih =>
    have hn' : (c.deliver first s).receiver ≠ .nobody := by
      rw [deliver_receiver]
      exact hn
    unfold Controller.takeIn
    rw [if_neg (not_kept_back hf.1), ih (deliver_free first hf) hn']
    cases first with
    | abortAll => rfl
    | abortSession => rfl
    | event event =>
      rw [deliver_eventsOf c hn, List.append_assoc]
      rfl

lemma round_events (hf : Free s) (hn : s.receiver ≠ .nobody) :
    eventsOf (c.round s).trace = eventsOf s.trace ++ eventsAmong s.queue :=
  takeIn_events (s := { s with queue := [] }) s.queue hf hn

lemma attend_free (hf : Free s) : Free (c.attend s) :=
  (Evolves.attend (c := c) (P := fun _ => True) s).free hf

lemma arrive_received (hn : s.receiver ≠ .nobody) (event : Event) :
    s.arrive event = { s with queue := s.queue ++ [.event event] } := if_neg hn

lemma report_delivered (hf : Free s) (hn : s.receiver ≠ .nobody) (event : Event) :
    ∃ delivered, eventsOf (c.attend (s.arrive event)).trace = eventsOf s.trace ++ delivered ∧
      event ∈ delivered := by
  have hfree : Free (c.round (s.arrive event)) := by
    have harrived : Free (s.arrive event) := (Evolves.report (P := fun _ => True) (c := c) event trivial).free hf
    exact (Evolves.round (P := fun _ => True)).free harrived
  have hfirst : eventsOf (c.round (s.arrive event)).trace =
      eventsOf s.trace ++ eventsAmong (s.queue ++ [.event event]) := by
    rw [arrive_received hn]
    exact round_events (s := { s with queue := s.queue ++ [.event event] }) hf hn
  have hn' : (c.round (s.arrive event)).receiver ≠ .nobody := by
    rw [(follows_receiver c).round, arrive_received hn]
    exact hn
  refine ⟨eventsAmong (s.queue ++ [.event event]) ++ eventsAmong (c.round (s.arrive event)).queue, ?_, ?_⟩
  · unfold Controller.attend
    rw [round_events hfree hn', hfirst, List.append_assoc]
  · simp [eventsAmong]

lemma report_receiver (event : Event) (s : System σ) :
    (c.attend (s.arrive event)).receiver = s.receiver := by
  rw [(follows_receiver c).attend]
  unfold System.arrive
  split
  · rfl
  · rfl

/-- Where nothing is in flight, a report that the host does not answer is delivered and nothing else
happens. -/
lemma report_still {event : Event} (hr : s.receiver = .host) (hq : s.queue = []) (hl : s.late = none)
    (hasks : asksBack (.event event) = false) :
    c.attend (s.arrive event) = c.deliver (.event event) s := by
  have harrived : s.arrive event = { s with queue := [.event event] } := by
    rw [arrive_received (receives_of_host hr), hq]
    rfl
  have hempty : { s with queue := [] } = s := by rw [← hq]
  have hfirst : c.round (s.arrive event) = c.deliver (.event event) s := by
    rw [harrived]
    change c.takeIn [.event event] { s with queue := [] } = _
    rw [hempty, Controller.takeIn, if_neg (not_kept_back hl)]
    rfl
  have hheard : OnlyHears s (c.deliver (.event event) s) := deliver_onlyHears hasks s
  unfold Controller.attend
  rw [hfirst]
  unfold Controller.round
  rw [hheard.queue, hq]
  change { c.deliver (.event event) s with queue := [] } = _
  rw [← hq, ← hheard.queue]

lemma ran_free (c : Controller σ) (companions : List (Companion σ)) (config : Config) (x : σ)
    (deeds : List Deed) : Free (ran c companions config x deeds) := by
  obtain ⟨hidle, hlate, -⟩ := ran_at_rest c companions config x deeds
  exact free_of_idle hlate hidle

/-- All reports are delivered, in order. -/
theorem reports_delivered (events : List Event) (hf : Free s) (hn : s.receiver ≠ .nobody) :
    ∃ delivered, events.Sublist delivered ∧
      eventsOf (afterDeeds c (reports events) s).trace = eventsOf s.trace ++ delivered := by
  -- The host may ask for more in answer to a report, so that more may come in between two of them.
  induction events generalizing s with
  | nil => exact ⟨[], List.Sublist.refl _, (List.append_nil _).symm⟩
  | cons event rest ih =>
    obtain ⟨first, hfirst, hmem⟩ := report_delivered (c := c) hf hn event
    have hfree : Free (c.attend (s.arrive event)) :=
      attend_free ((Evolves.report (P := fun _ => True) (c := c) event trivial).free hf)
    have hn' : (c.attend (s.arrive event)).receiver ≠ .nobody := by
      rw [report_receiver]
      exact hn
    obtain ⟨others, hothers, htrace⟩ := ih hfree hn'
    refine ⟨first ++ others, ?_, ?_⟩
    · have hone : [event].Sublist first := List.singleton_sublist.mpr hmem
      exact hone.append hothers
    · rw [afterDeeds_report, htrace, hfirst, List.append_assoc]

/-- A stack that is up, with a listener that listens. -/
def listeningStack : System Script :=
  ran Script.controller [] {} {}
    [.move (.call (.host (.setListener .recording))), .move (.call (.host .bringUp))]

end Reports

end NfcStack.Proofs
