import NfcStack.Proofs.CardBringUp
import NfcStack.Proofs.CommitGuard
import NfcStack.Proofs.DepartedTags
import NfcStack.Proofs.WaysDown

/-!
# Taking the stack down

Taking an active stack down goes through to its end. What is asked of the controller on the way does not
depend on what it refuses, leaves without completion or fails to do, and when the last request is made no
flag of the stack or of its discovery is left.
-/

namespace NfcStack.Proofs

variable {σ : Type} {c : Controller σ} {P : σ → Prop} {s t u : System σ}

section Ceasing

/-- The requests that put the running environments to rest, if there is a route off the host at all. -/
def restingRequests (c : Controller σ) (s : System σ) : List Request :=
  if s.host.config.routing.offHostRoute = hostRoute then []
  else .queryNfcees :: match c.nfcees s.controller with
    | .ok infos =>
      (infos.filter (CardEmulation.isRunning (c.version s.controller == Controller.version1))).map
        fun info => .setNfceeMode info.handle CardEmulation.deactivateMode
    | .error _ => []

lemma deactivateRunning_posed (s : System σ) :
    Posed c s ((CardEmulation.deactivateRunning : Op σ Unit).run c.alone s).2 (restingRequests c s) := by
  unfold CardEmulation.deactivateRunning restingRequests
  rw [Op.run_bind, Op.run_read]
  dsimp only
  by_cases hroute : s.host.config.routing.offHostRoute = hostRoute
  · rw [if_pos hroute, if_pos hroute]
    exact posed_of_eq s
  · rw [if_neg hroute, if_neg hroute, Op.run_bind, Op.run_queryNfcees]
    apply (query_posed s).cons
    change Posed c _ ((match c.nfcees s.controller with
      | .ok infos => _
      | .error _ => _ : Op σ Unit).run c.alone _).2 _
    cases c.nfcees s.controller with
    | error status => exact posed_of_eq _
    | ok infos => exact poses_forEach (fun info => poses_setMode _ _) _

lemma cards_takeDown_posed (s : System σ) :
    Posed c s ((CardEmulation.takeDown : Op σ Unit).run c.alone s).2
      (restingRequests c s ++ [.deregisterNfcees]) :=
  (deactivateRunning_posed s).trans (poses_send .deregisterNfcees trivial _)

/-- Requests and waits leave the mark of radio discovery as it is. -/
lemma Posed.rf {requests : List Request} (h : Posed c s t requests) :
    t.host.flags.rf = s.host.flags.rf := by
  have hsteps : FollowsSteps c Ordering fun s t => t.host.flags.rf = s.host.flags.rf :=
    { refl := fun _ => rfl
      trans := fun h₁ h₂ => h₂.trans h₁
      queue := fun _ _ => rfl
      deliver := fun s happening _ => rf_of_steady (deliver_steady c happening s)
      request := fun _ _ _ _ => rfl
      query := fun _ => rfl
      change := fun change s hp => by
        cases change with
        | waits f hf => exact congrArg Flags.rf (hf.flags s.host)
        | _ => exact hp.elim
      inUse := fun _ _ => rfl
      heldUp := fun _ => rfl
      late := fun _ _ _ => rfl
      selects := fun _ _ _ => rfl }
  exact hsteps.evolves h.evolves

lemma stopDiscovery_asks (hs : s.receiver ≠ .session) :
    Asks s ((Radio.stopDiscovery : Op σ Bool).run c.alone s).2 [.stopDiscovery] := by
  unfold Radio.stopDiscovery
  exact (radio_alone c .stopDiscovery _ s Request.noConfusion hs).1

/-- Before it comes to the controller itself, taking the stack down puts the environments to rest, and stops
radio discovery if it runs. -/
lemma ceasing_asks (hs : Attended s) :
    Asks s ((ceasing : Op σ Unit).run c.alone s).2
      (restingRequests c s ++ .deregisterNfcees :: if s.host.flags.rf then [.stopDiscovery] else []) := by
  let begun := s.mapHost Change.disabling.apply
  let rested := ((CardEmulation.takeDown : Op σ Unit).run c.alone begun).2
  have hrested : Posed c begun rested (restingRequests c s ++ [.deregisterNfcees]) :=
    cards_takeDown_posed begun
  have hbegun : Asks s begun [] := asks_of_trace_eq rfl
  have hcards : Asks s rested (restingRequests c s ++ [.deregisterNfcees]) := hbegun.trans hrested.asks
  have hrf : rested.host.flags.rf = s.host.flags.rf := hrested.rf
  have hrun : (ceasing : Op σ Unit).run c.alone s = (if rested.host.flags.rf then do
      let _ ← Radio.stopDiscovery
      else return () : Op σ Unit).run c.alone rested := rfl
  rw [hrun, hrf, List.append_cons]
  split
  · have hreceiver : rested.receiver ≠ .session := (hrested.evolves.attended hs).not_session
    rw [Op.run_bind, Op.run_pure]
    exact hcards.trans (stopDiscovery_asks hreceiver)
  · rw [List.append_nil]
    exact hcards

end Ceasing

section StayingDown

/-- News that raises a flag of a stack that is down. -/
def raises : Event → Bool
  | .enabled status => status.isOk
  | .activated _ => true
  | .deactivated asleep => asleep
  | _ => false

lemma AllDown.inactive {flags : Flags} (h : AllDown flags) : flags.active = false := by
  unfold Flags.active
  rw [h.enabled]
  rfl

lemma hearFailure_down {host : Host} (h : AllDown host.flags) : AllDown (hearFailure host).flags :=
  ⟨h.inactive, h.inactive, h.rf, rfl, rfl, h.tagActive, h.reconnecting⟩

lemma hear_down {event : Event} (hevent : raises event = false) {host : Host} (h : AllDown host.flags) :
    AllDown (hear event host).flags := by
  cases event with
  | enabled status => exact ⟨hevent, rfl, h.rf, h.discovery, h.polling, h.tagActive, h.reconnecting⟩
  | disabled => exact ⟨rfl, rfl, h.rf, h.discovery, h.polling, h.tagActive, h.reconnecting⟩
  | transportError => exact hearFailure_down h
  | controllerTimeout => exact hearFailure_down h
  | activated act => exact absurd hevent nofun
  | deactivated asleep =>
    cases asleep with
    | true => exact absurd hevent nofun
    | false => exact ⟨h.enabled, h.disabling, h.rf, h.discovery, h.polling, rfl, rfl⟩
  | discovered status notice =>
    obtain ⟨session, hshape⟩ := discovered_shape status notice host
    rw [hshape]
    exact h
  | _ => exact h

lemma hearAlone_flags (event : Event) (host : Host) : (hearAlone event host).flags = host.flags := by
  cases event with
  | discovered status notice =>
    obtain ⟨session, hshape⟩ := discovered_shape status notice host
    change (hear (.discovered status notice) host).flags = host.flags
    rw [hshape]
  | _ => rfl

lemma deliver_down {event : Event} (hevent : raises event = false) (h : AllDown s.host.flags) :
    AllDown (c.deliver (.event event) s).host.flags := by
  by_cases hn : s.receiver = .nobody
  · rw [deliver_nobody c hn]
    exact h
  · rw [(deliver_reacts c hn event).host]
    cases s.receiver with
    | nobody => exact h
    | host => exact hear_down hevent h
    | session =>
      change AllDown (hearAlone event s.host).flags
      rw [hearAlone_flags]
      exact h

/-- One system comes out of another by deliveries, and a stack that was down is down unless there was news
that raises a flag. -/
def StaysDown (s t : System σ) : Prop :=
  ∃ new, t.trace = s.trace ++ new ∧ (∀ entry ∈ new, OfDelivery entry) ∧
    ((∀ event ∈ eventsOf new, raises event = false) → AllDown s.host.flags → AllDown t.host.flags)

lemma staysDown_of_eq (htrace : t.trace = s.trace) (hflags : t.host.flags = s.host.flags) :
    StaysDown s t := by
  refine ⟨[], by rw [htrace, List.append_nil], fun _ hmem => absurd hmem List.not_mem_nil, ?_⟩
  rw [hflags]
  exact fun _ h => h

lemma StaysDown.trans (h₁ : StaysDown s t) (h₂ : StaysDown t u) : StaysDown s u := by
  obtain ⟨new₁, htrace₁, hof₁, hdown₁⟩ := h₁
  obtain ⟨new₂, htrace₂, hof₂, hdown₂⟩ := h₂
  refine ⟨new₁ ++ new₂, by rw [htrace₂, htrace₁, List.append_assoc], ?_, fun hnews h => ?_⟩
  · exact fun entry hentry => (List.mem_append.mp hentry).elim (hof₁ entry) (hof₂ entry)
  · rw [eventsOf_append] at hnews
    apply hdown₂ fun event hevent => hnews event (List.mem_append_right _ hevent)
    exact hdown₁ (fun event hevent => hnews event (List.mem_append_left _ hevent)) h

lemma deliver_staysDown (happening : Happening) (s : System σ) :
    StaysDown s (c.deliver happening s) := by
  obtain ⟨new, htrace, hof⟩ := deliver_adds c happening s
  refine ⟨new, htrace, hof, fun hnews h => ?_⟩
  cases happening with
  | abortAll => exact h
  | abortSession => exact h
  | event event =>
    by_cases hn : s.receiver = .nobody
    · rw [deliver_nobody c hn]
      exact h
    · have hevents : eventsOf new = [event] := by
        have hall := deliver_eventsOf c hn event
        rw [htrace, eventsOf_append] at hall
        exact List.append_cancel_left hall
      rw [hevents] at hnews
      exact deliver_down (hnews event (List.mem_singleton_self _)) h

lemma follows_staysDown : FollowsDeliveries c (StaysDown (σ := σ)) where
  refl _ := staysDown_of_eq rfl rfl
  trans := StaysDown.trans
  queue _ _ := staysDown_of_eq rfl rfl
  deliver s happening _ := deliver_staysDown happening s

lemma release_staysDown (s : System σ) : StaysDown s (c.release s) := by
  refine follows_staysDown.release (fun notice s _ => ?_) s
  refine ⟨_, rfl, fun entry hentry => ?_, fun _ h => h⟩
  rw [List.mem_singleton.mp hentry]
  exact .inr trivial

end StayingDown

section ShuttingOff

/-- The verdicts on the requests of callers to disable the controller gracefully. -/
def gracefulVerdicts (trace : List Entry) : List Status :=
  trace.filterMap fun entry => match entry.passage with
    | .request .caller (.disable true) verdict => some verdict
    | _ => none

lemma gracefulVerdicts_append (first rest : List Entry) :
    gracefulVerdicts (first ++ rest) = gracefulVerdicts first ++ gracefulVerdicts rest :=
  List.filterMap_append

lemma gracefulVerdicts_unasked {trace : List Entry} (h : .disable true ∉ callerRequests trace) :
    gracefulVerdicts trace = [] := by
  rw [gracefulVerdicts, List.filterMap_eq_nil_iff]
  intro entry hentry
  split
  · next verdict hpassage =>
    refine absurd (List.mem_filterMap.mpr ⟨entry, hentry, ?_⟩) h
    rw [hpassage]
  · rfl

/-- What a caller asked for and the verdict, of an operation that may disable the controller. -/
structure Disabling (s : System σ) (done : Bool × System σ) (new : List Entry) : Prop where
  trace : done.2.trace = s.trace ++ new
  asked : callerRequests new = if s.host.flags.enabled then [.disable true] else []
  verdict : done.1 = (gracefulVerdicts new).all (·.isOk)

/-- The request that disables the controller gracefully, and the system right after it. -/
def askedToDisable (c : Controller σ) (s : System σ) : Status × System σ :=
  c.issue .caller (.disable true) (s.mapHost (Venue.disable.map .arm))

/-- Whoever asks for the controller to be disabled waits until it is, unless it refuses. -/
lemma disabling_alone (s : System σ) :
    (Op.callForever Venue.disable (.disable true)).run c.alone s =
      if (askedToDisable c s).1.isOk then
        ((Venue.disable.view (c.attend (askedToDisable c s).2).host).unboundedOutcome,
          (c.attend (askedToDisable c s).2).mapHost (Venue.disable.map .disarm))
      else (.rejected (askedToDisable c s).1,
        (askedToDisable c s).2.mapHost (Venue.disable.map .disarm)) :=
  callForever_alone Venue.disable (.disable true) s

/-- Only a refusal counts against a graceful way down. -/
lemma disableGracefully_alone (s : System σ) :
    (Lifecycle.disableGracefully : Op σ Bool).run c.alone s =
      if s.host.flags.enabled then
        ((askedToDisable c s).1.isOk, (if (askedToDisable c s).1.isOk then
          c.attend (askedToDisable c s).2 else (askedToDisable c s).2).mapHost (Venue.disable.map .disarm))
      else (true, s) := by
  unfold Lifecycle.disableGracefully
  rw [Op.run_bind, Op.run_read]
  dsimp only
  split
  · rw [Op.run_bind, disabling_alone]
    by_cases hok : (askedToDisable c s).1.isOk = true
    · rw [if_pos hok, if_pos hok, hok]
      unfold Rendezvous.unboundedOutcome
      cases (Venue.disable.view (c.attend (askedToDisable c s).2).host).value with
      | some value => rfl
      | none => rfl
    · rw [if_neg hok, if_neg hok, Bool.eq_false_iff.mpr hok]
      rfl
  · rfl

lemma disableGracefully_goes (s : System σ) :
    ∃ new, Disabling s ((Lifecycle.disableGracefully : Op σ Bool).run c.alone s) new := by
  rw [disableGracefully_alone]
  by_cases henabled : s.host.flags.enabled = true
  · rw [if_pos henabled]
    let entry : Entry := ⟨.request .caller (.disable true) (askedToDisable c s).1, s.host.flags⟩
    -- What the wait of an accepted request leaves behind it is of deliveries.
    have hwait : Adds OfDelivery (askedToDisable c s).2 (if (askedToDisable c s).1.isOk then
        c.attend (askedToDisable c s).2 else (askedToDisable c s).2) := by
      split
      · exact (follows_adds c).attend _
      · exact adds_of_trace_eq rfl
    obtain ⟨late, htrace, hlate⟩ := hwait
    have hnone : callerRequests late = [] := callerRequests_delivery hlate
    have hunasked : gracefulVerdicts late = [] := by
      apply gracefulVerdicts_unasked
      rw [hnone]
      exact List.not_mem_nil
    refine ⟨entry :: late, ?_, ?_, ?_⟩
    · change System.trace (if _ then _ else _) = _
      rw [htrace]
      exact List.append_assoc s.trace [entry] late
    · change .disable true :: callerRequests late = _
      rw [hnone, if_pos henabled]
    · change (askedToDisable c s).1.isOk = ((askedToDisable c s).1 :: gracefulVerdicts late).all (·.isOk)
      rw [hunasked]
      exact (Bool.and_true _).symm
  · rw [if_neg henabled]
    exact ⟨[], (List.append_nil _).symm, (if_neg henabled).symm, rfl⟩

/-- From one system on callers made these requests, and at last the one that closes the adaptation, when no
flag of the stack was left. Only a refusal to be disabled counts as a failure. -/
structure Closes (s : System σ) (done : Bool × System σ) (requests : List Request) (before : List Entry)
    (last : Entry) (late : List Entry) : Prop where
  trace : done.2.trace = s.trace ++ (before ++ last :: late)
  asked : callerRequests before = requests
  verdict : done.1 = (gracefulVerdicts before).all (·.isOk)
  closes : ∃ verdict, last.passage = .request .caller .adaptationClose verdict
  down : AllDown last.flags
  heard : ∀ entry ∈ late, OfDelivery entry
  stays : (∀ event ∈ eventsOf late, raises event = false) → AllDown done.2.host.flags

section Closing

variable {done : Bool × System σ} {requests : List Request} {before late : List Entry} {last : Entry}

/-- From the last request on callers ask for nothing else. -/
lemma Closes.ending (h : Closes s done requests before last late) :
    callerRequests (last :: late) = [.adaptationClose] := by
  obtain ⟨verdict, hlast⟩ := h.closes
  have hsplit : callerRequests (last :: late) = callerRequests [last] ++ callerRequests late :=
    callerRequests_append [last] late
  rw [hsplit, callerRequests_delivery h.heard, List.append_nil]
  simp [callerRequests, hlast]

lemma Closes.made (h : Closes s done requests before last late) :
    callerRequests (done.2.trace.drop s.trace.length) = requests ++ [.adaptationClose] := by
  rw [trace_since h.trace, callerRequests_append, h.asked, h.ending]

lemma Closes.judged (h : Closes s done requests before last late) :
    done.1 = (gracefulVerdicts (done.2.trace.drop s.trace.length)).all (·.isOk) := by
  have hending : gracefulVerdicts (last :: late) = [] := by
    apply gracefulVerdicts_unasked
    rw [h.ending]
    simp
  rw [trace_since h.trace, gracefulVerdicts_append, hending, List.append_nil]
  exact h.verdict

/-- Requests made before, none of them to disable the controller. -/
lemma Closes.prepend {first : List Request} (h : Closes t done requests before last late)
    (hasks : Asks s t first) (hunasked : .disable true ∉ first) :
    ∃ before, Closes s done (first ++ requests) before last late := by
  obtain ⟨new, htrace, hnew⟩ := hasks
  have hnone : gracefulVerdicts new = [] := by
    apply gracefulVerdicts_unasked
    rw [hnew]
    exact hunasked
  refine ⟨new ++ before, ?_, ?_, ?_, h.closes, h.down, h.heard, h.stays⟩
  · rw [h.trace, htrace, List.append_assoc, List.append_assoc]
  · rw [callerRequests_append, hnew, h.asked]
  · rw [gracefulVerdicts_append, hnone, List.nil_append, h.verdict]

/-- Deliveries after the last request. -/
lemma Closes.append (h : Closes s done requests before last late) (hafter : StaysDown done.2 t) :
    ∃ late, Closes s (done.1, t) requests before last late := by
  obtain ⟨new, htrace, hnew, hdown⟩ := hafter
  refine ⟨late ++ new, ?_, h.asked, h.verdict, h.closes, h.down, ?_, fun hnews => ?_⟩
  · change t.trace = _
    rw [htrace, h.trace]
    simp only [List.append_assoc, List.cons_append]
  · intro entry hentry
    rcases List.mem_append.mp hentry with hold | hlast
    · exact h.heard entry hold
    · exact hnew entry hlast
  · rw [eventsOf_append] at hnews
    apply hdown fun event hevent => hnews event (List.mem_append_right _ hevent)
    exact h.stays fun event hevent => hnews event (List.mem_append_left _ hevent)

end Closing

lemma shuttingOff_closes (s : System σ) : ∃ before last late,
    Closes s ((shuttingOff : Op σ Bool).run c.alone s)
      (if s.host.flags.enabled then [.disable true] else []) before last late := by
  let disabled := (Lifecycle.disableGracefully : Op σ Bool).run c.alone s
  let down := disabled.2.mapHost Change.down.apply
  let asked := c.issue .caller .adaptationClose down
  let last : Entry := ⟨.request .caller .adaptationClose asked.1, down.host.flags⟩
  have hrun : (shuttingOff : Op σ Bool).run c.alone s = (disabled.1, c.attend asked.2) := rfl
  obtain ⟨before, hbefore⟩ := disableGracefully_goes (c := c) s
  have hdown : AllDown down.host.flags := ⟨rfl, rfl, rfl, rfl, rfl, rfl, rfl⟩
  obtain ⟨late, htrace, hlate, hstays⟩ := follows_staysDown.attend (c := c) asked.2
  refine ⟨before, last, late, ?_, hbefore.asked, hbefore.verdict, ⟨asked.1, rfl⟩, hdown, hlate,
    fun hnews => hstays hnews hdown⟩
  have hasked : asked.2.trace = disabled.2.trace ++ [last] := rfl
  rw [hrun, htrace, hasked, hbefore.trace, List.append_assoc, List.append_assoc]
  rfl

/-- The system in which taking the stack down comes to the controller itself. -/
def ceased (c : Controller σ) (s : System σ) : System σ :=
  ((ceasing : Op σ Unit).run c.alone (inLifecycle s)).2

/-- All that is asked for before the last request. -/
def requestsDown (c : Controller σ) (s : System σ) : List Request :=
  restingRequests c s ++ .deregisterNfcees :: (if s.host.flags.rf then [.stopDiscovery] else []) ++
    if (ceased c s).host.flags.enabled then [.disable true] else []

/-- None of the requests of the first part disables the controller. -/
lemma ceased_asks (hs : Attended s) :
    let first := restingRequests c s ++ .deregisterNfcees ::
      if s.host.flags.rf then [.stopDiscovery] else []
    Asks s (ceased c s) first ∧ .disable true ∉ first := by
  refine ⟨ceasing_asks (c := c) (s := inLifecycle s) hs, ?_⟩
  unfold restingRequests
  rw [List.mem_append, not_or]
  constructor
  · split
    · exact List.not_mem_nil
    · split
      · simp
      · simp
  · split
    · simp
    · simp

lemma ceasing_keepsTo : KeepsTo (fun _ => True) c.alone (ceasing : Op σ Unit) := by
  have hro : Orderly (fun _ => True) c.alone := orderly_alone (fun _ => True) c
  have hbegun : KeepsTo (fun _ => True) c.alone (Op.update Change.disabling.apply : Op σ Unit) :=
    keepsTo_change .disabling trivial
  have hcards : KeepsTo (fun _ => True) c.alone (CardEmulation.takeDown : Op σ Unit) :=
    cards_takeDown_keepsTo hro fun _ _ => trivial
  have hstop : KeepsTo (fun _ => True) c.alone (Radio.stopDiscovery : Op σ Bool) :=
    stopDiscovery_keepsTo hro fun _ _ => trivial
  refine keepsTo_bind hbegun fun _ => keepsTo_bind hcards fun _ =>
    keepsTo_bind (keepsTo_read _) fun running => ?_
  cases running with
  | true => exact keepsTo_bind hstop fun _ => keepsTo_pure _
  | false => exact keepsTo_pure _

lemma ceased_receives (hr : s.receiver = .host) : (ceased c s).receiver = .host := by
  have hevolves : Evolves c (fun _ => True) (inLifecycle s) (ceased c s) := ceasing_keepsTo (inLifecycle s)
  exact hevolves.stays_host hr

/-- Where nothing is in use an active stack is taken down in two parts, and then the life cycle is free. -/
lemma takeDown_alone (hidle : s.host.inUse = []) (hactive : s.host.flags.active = true) :
    (Lifecycle.takeDown : Op σ Bool).run c.alone s =
      (((shuttingOff : Op σ Bool).run c.alone (ceased c s)).1,
        c.release (((shuttingOff : Op σ Bool).run c.alone (ceased c s)).2.mapHost (giveBack []))) := by
  have hfree : ¬s.host.inUse.contains .lifecycle = true := by
    rw [hidle]
    nofun
  rw [takeDown_active hactive, reserving_alone, if_neg hfree, Op.run_bind, hidle]
  rfl

lemma takeDown_closes (hs : AtRest s) (hactive : s.host.flags.active = true) : ∃ before last late,
    Closes s ((Lifecycle.takeDown : Op σ Bool).run c.alone s) (requestsDown c s) before last late := by
  obtain ⟨hasks, hunasked⟩ := ceased_asks (c := c) hs.attended
  obtain ⟨before, last, late, hoff⟩ := shuttingOff_closes (c := c) (ceased c s)
  rw [takeDown_alone hs.idle hactive]
  generalize (shuttingOff : Op σ Bool).run c.alone (ceased c s) = done at hoff ⊢
  obtain ⟨before, hwhole⟩ := hoff.prepend hasks hunasked
  have hback : StaysDown done.2 (done.2.mapHost (giveBack [])) := staysDown_of_eq rfl rfl
  have hreleased : StaysDown done.2 (c.release (done.2.mapHost (giveBack []))) :=
    hback.trans (release_staysDown _)
  obtain ⟨late, hend⟩ := hwhole.append hreleased
  exact ⟨before, last, late, hend⟩

end ShuttingOff

section Finishing

/-- A discreet controller that completes a graceful request to disable it, once it has accepted it. -/
structure Finishing (c : Controller σ) (P : σ → Prop) : Prop extends Discreet c P where
  finishes : ∀ x, P x → (c.respond (.disable true) x).1.verdict.isOk = true →
    .event .disabled ∈ (c.respond (.disable true) x).1.happenings

/-- Whoever waits for the controller to be disabled hears that it is, unless it refuses. -/
lemma Finishing.disabling_ends (hc : Finishing c P) (hs : Quiet P s) (hr : s.receiver = .host) :
    let outcome := ((Op.callForever Venue.disable (.disable true)).run c.alone s).1
    outcome = .completed () ∨ ∃ status, outcome = .rejected status := by
  have harmed : Quiet P (s.mapHost (Venue.disable.map .arm)) := hs.mapHost _
  have hasked : Answering P (.disable true) (askedToDisable c s).2 :=
    hc.issue_answering .caller (.disable true) Request.noConfusion harmed
  intro outcome
  have houtcome : outcome = if (askedToDisable c s).1.isOk then
      (Venue.disable.view (c.attend (askedToDisable c s).2).host).unboundedOutcome
      else .rejected (askedToDisable c s).1 := by
    change ((Op.callForever Venue.disable (.disable true)).run c.alone s).1 = _
    rw [disabling_alone]
    exact apply_ite Prod.fst _ _ _
  rw [houtcome]
  by_cases hok : (askedToDisable c s).1.isOk = true
  · have hdisabled : .event .disabled ∈ (askedToDisable c s).2.queue :=
      mem_issue_accepted .caller hr hok (hc.finishes s.controller hs.controller hok)
    obtain ⟨-, -, hheard⟩ := hasked.still.attend (c := c)
    have hanswer : ((eventsAmong (askedToDisable c s).2.queue).filterMap disableAnswer).getLast? =
        some () := lastAnswer_of_all (fun _ _ _ _ => rfl) hdisabled rfl
    have hkept := (hears_disable.all (askedToDisable c s).2.queue (askedToDisable c s).2.host rfl).2
    rw [hanswer] at hkept
    rw [if_pos hok, hheard]
    left
    unfold Rendezvous.unboundedOutcome
    rw [hkept]
    rfl
  · rw [if_neg hok]
    exact .inr ⟨_, rfl⟩

end Finishing

/-- Taking an active stack down goes through to its end. Whatever the controller does, it is asked to put
the environments to rest and to forget the host, to stop radio discovery exactly if that ran, to be disabled
gracefully if it is still enabled, and last that the adaptation be closed, when no flag of the stack is left;
only a refusal to be disabled counts as a failure. Unless there is news after that which raises a flag, the
stack stays down and taking it down once more asks for nothing. There is none with a controller that tells
of its life cycle and of tags only when it is asked to; if that completes a graceful request to disable it
once it has accepted it, the wait for that ends too. -/
theorem takes_down_to_the_end (c : Controller σ) (companions : List (Companion σ)) (config : Config) (x : σ)
    (deeds : List Deed) (hactive : (ran c companions config x deeds).host.flags.active = true) :
    let s := ran c companions config x deeds
    let done := (Lifecycle.takeDown : Op σ Bool).run c.alone s
    let new := done.2.trace.drop s.trace.length
    let waited := (Op.callForever Venue.disable (.disable true)).run c.alone (ceased c s)
    callerRequests new = restingRequests c s ++ .deregisterNfcees ::
      (if s.host.flags.rf then [.stopDiscovery] else []) ++
        (if (ceased c s).host.flags.enabled then [.disable true] else []) ++ [.adaptationClose] ∧
    done.1 = (gracefulVerdicts new).all (·.isOk) ∧
    (∃ before last late, new = before ++ last :: late ∧
      (∃ verdict, last.passage = .request .caller .adaptationClose verdict) ∧ AllDown last.flags ∧
      (∀ entry ∈ late, OfDelivery entry) ∧
      ((∀ event ∈ eventsOf late, raises event = false) → AllDown done.2.host.flags ∧
        (Lifecycle.takeDown : Op σ Bool).run c.alone done.2 = (true, done.2))) ∧
    ∀ P : σ → Prop, Finishing c P → P s.controller →
      (waited.1 = .completed () ∨ ∃ status, waited.1 = .rejected status) ∧
      AllDown done.2.host.flags ∧
      (Lifecycle.takeDown : Op σ Bool).run c.alone done.2 = (true, done.2) := by
  have hrest : AtRest (ran c companions config x deeds) := ran_at_rest c companions config x deeds
  have hevolves : Evolves c (fun _ => True) (booted config x) (ran c companions config x deeds) :=
    ran_evolves (fun _ => trivial) c companions config x deeds
  have hwoken : Woken (ran c companions config x deeds) := hevolves.woken fun _ => rfl
  dsimp only
  generalize ran c companions config x deeds = s at *
  have hr : s.receiver = .host := active_receives hactive hrest.attended hwoken
  obtain ⟨before, last, late, hcloses⟩ := takeDown_closes (c := c) hrest hactive
  refine ⟨hcloses.made, hcloses.judged, ⟨before, last, late, trace_since hcloses.trace,
    hcloses.closes, hcloses.down, hcloses.heard, fun hnews => ?_⟩, fun P hc hx => ?_⟩
  · have hdown : AllDown ((Lifecycle.takeDown : Op σ Bool).run c.alone s).2.host.flags := hcloses.stays hnews
    exact ⟨hdown, takeDown_inactive hdown.inactive⟩
  have hreceptive : Receptive P s := ⟨hx, hrest.attended, free_of_idle hrest.late hrest.idle⟩
  have hbegun : Receptive P (inLifecycle s) := hreceptive.mapHost rfl
  have hquiet : Quiet P (ceased c s) := hc.ceasing_leads (inLifecycle s) hbegun
  have hdown : Down P ((Lifecycle.takeDown : Op σ Bool).run c.alone s).2 :=
    hc.takeDown_leads s ⟨⟨hreceptive, hactive⟩, hrest.idle⟩
  exact ⟨hc.disabling_ends hquiet (ceased_receives hr), hdown.2, takeDown_inactive hdown.2.inactive⟩

section Scripted

/-- What comes of a request completes it. -/
lemma respond_events (request : Request) (script : Script) {happening : Happening}
    (h : happening ∈ (script.respond request).1.happenings) :
    ∃ other event, event ∈ (Script.complete other request).1 ∧ happening = .event event := by
  unfold Script.respond at h
  split at h
  · exact absurd h List.not_mem_nil
  · dsimp only at h
    split at h
    · dsimp only at h
      split at h
      · exact absurd h List.not_mem_nil
      · obtain ⟨event, hevent, rfl⟩ := List.mem_map.mp h
        exact ⟨_, event, hevent, rfl⟩
    · exact absurd h List.not_mem_nil

/-- A scripted controller reports only what it is asked for, whatever its script, and a script that does not
keep back the answer completes a request to disable the controller. -/
lemma script_finishing :
    Finishing Script.controller fun script => script.silenced.contains .disable = false where
  stays request script h := by
    have hsilenced : (script.respond request).2.silenced = script.silenced :=
      Untouched.respond ⟨fun _ _ => rfl, fun _ _ => rfl, fun _ _ => rfl, fun _ _ => rfl⟩ request script
    change (script.respond request).2.silenced.contains .disable = false
    rw [hsilenced]
    exact h
  quiet request script _ hreq happening hmem := by
    obtain ⟨other, event, hevent, rfl⟩ := respond_events request script hmem
    exact complete_events other hreq event hevent
  finishes script h hok := by
    have hkept : (script.verdict .disable).2.silenced.contains .disable = false := by
      have hsilenced : (script.verdict .disable).2.silenced = script.silenced :=
        Untouched.verdict ⟨fun _ _ => rfl, fun _ _ => rfl, fun _ _ => rfl, fun _ _ => rfl⟩ script .disable
      rw [hsilenced]
      exact h
    have hrespond : Script.controller.respond (.disable true) script =
        if (script.verdict .disable).1.isOk then
          (⟨.ok, if (script.verdict .disable).2.silenced.contains .disable then [] else [.event .disabled]⟩,
            (script.verdict .disable).2)
        else (⟨(script.verdict .disable).1, []⟩, (script.verdict .disable).2) := rfl
    rw [hrespond] at hok ⊢
    by_cases haccepted : (script.verdict .disable).1.isOk = true
    · rw [if_pos haccepted, hkept]
      exact List.mem_singleton_self _
    · rw [if_neg haccepted] at hok
      exact absurd hok haccepted

/-- A controller with an element that runs, which accepts to stop radio discovery and to put the element to
rest but completes neither, and refuses to forget the host and to be disabled. -/
def resisting : Script :=
  { nfcees := .ok elements
    standing := [(.deregisterNfcees, .rejected), (.disable, .failed)]
    silenced := [.setNfceeMode, .stopDiscovery] }

/-- A stack over such a controller, with radio discovery running. -/
def resisted : System Script :=
  ran Script.controller [] { routing := { offHostRoute := 0x81 } } resisting
    [.move (.call (.host .bringUp)), .move (.call (.host (.enableDiscovery none false false false)))]

/-- Nothing of what the controller is asked for is done, and yet the stack goes down. -/
theorem resisted_goes_down :
    let done := (Lifecycle.takeDown : Op Script Bool).run Script.controller.alone resisted
    resisted.host.flags.active = true ∧ resisted.host.flags.rf = true ∧ done.1 = false ∧
      callerRequests (done.2.trace.drop resisted.trace.length) =
        [.queryNfcees, .setNfceeMode (.ofId 0x81) CardEmulation.deactivateMode, .deregisterNfcees,
          .stopDiscovery, .disable true, .adaptationClose] ∧
      AllDown done.2.host.flags ∧
      (Lifecycle.takeDown : Op Script Bool).run Script.controller.alone done.2 = (true, done.2) := by
  have hactive : resisted.host.flags.active = true := rfl
  obtain ⟨hrequests, hverdict, -, hfinishing⟩ := takes_down_to_the_end Script.controller []
    { routing := { offHostRoute := 0x81 } } resisting
    [.move (.call (.host .bringUp)), .move (.call (.host (.enableDiscovery none false false false)))] hactive
  obtain ⟨-, hdown, hagain⟩ := hfinishing _ script_finishing rfl
  refine ⟨hactive, rfl, hverdict.trans ?_, hrequests.trans ?_, hdown, hagain⟩
  · decide +kernel
  · decide +kernel

/-- A controller that goes by a script, and brings a card into the field when the adaptation is closed. -/
def parting : Controller Script :=
  { Script.controller with
    respond := fun request script =>
      if request = .adaptationClose then (⟨.ok, [.event (.activated (Sample.isoDepCard 1))]⟩, script)
      else script.respond request }

/-- A controller that does all it is asked for reports a card right after the last request. The card is announced
by a stack that is down and stays marked, and taking the stack down once more does not clear the mark. -/
theorem parting_card_stays :
    let s := ran parting [] {} {} firstBringUp
    let done := (Lifecycle.takeDown : Op Script Bool).run parting.alone s
    (∀ script : Script, script.silenced = [] → (parting.respond (.disable true) script).1.verdict.isOk = true →
        .event .disabled ∈ (parting.respond (.disable true) script).1.happenings) ∧
      s.host.flags.active = true ∧ s.controller.silenced = [] ∧ done.1 = true ∧
      callerRequests (done.2.trace.drop s.trace.length) = [.deregisterNfcees, .disable true, .adaptationClose] ∧
      done.2.host.flags.enabled = false ∧ done.2.host.flags.tagActive = true ∧
      (System.notificationsOf (done.2.trace.drop s.trace.length)).length = 1 ∧
      (Lifecycle.takeDown : Op Script Bool).run parting.alone done.2 = (true, done.2) := by
  intro s done
  have hcompletes (script : Script) (h : script.silenced = [])
      (hok : (parting.respond (.disable true) script).1.verdict.isOk = true) :
      .event .disabled ∈ (parting.respond (.disable true) script).1.happenings :=
    script_finishing.finishes script (by rw [h]; rfl) hok
  have hinactive : done.2.host.flags.active = false := by decide +kernel
  exact ⟨hcompletes, rfl, rfl, by decide +kernel, by decide +kernel, by decide +kernel, by decide +kernel,
    by decide +kernel, takeDown_inactive hinactive⟩

end Scripted

end NfcStack.Proofs
