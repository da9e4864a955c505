import NfcStack.Proofs.CommitGuard
import NfcStack.Proofs.TagDiscoveries

/-!
# Orders of the radio

Four requests of the radio wait at one venue. Whichever of them is waited for, it is the last completion of
any of the four that decides whether it counts as confirmed, and its mark changes only then. No other event
touches these marks, but that the mark of polling falls when the controller fails.
-/

namespace NfcStack.Proofs

variable {σ : Type} {c : Controller σ} {s t u : System σ}

section Marks

lemma hear_polling {event : Event} (h : isFailure event = false) (host : Host) :
    (hear event host).flags.polling = host.flags.polling := by
  cases event with
  | transportError => exact absurd h.symm Bool.false_ne_true
  | controllerTimeout => exact absurd h.symm Bool.false_ne_true
  | activated act =>
    obtain ⟨tagActive, session, endpoints, hshape⟩ := hearActivation_shape act host
    change (hearActivation act host).flags.polling = _
    rw [hshape]
  | discovered status notice =>
    obtain ⟨session, hshape⟩ := discovered_shape status notice host
    rw [hshape]
  | deactivated sleep => cases sleep <;> rfl
  | _ => rfl

lemma hearAs_polling (receiver : Receiver) {event : Event} (h : isFailure event = false) (host : Host) :
    (hearAs receiver event host).flags.polling = host.flags.polling := by
  cases receiver with
  | nobody => rfl
  | host => exact hear_polling h host
  | session =>
    cases event with
    | discovered status notice => exact hear_polling h host
    | _ => rfl

/-- From one system to another the marks of the radio stayed, but that a failure of the controller may
have cleared the mark of polling. -/
def MarksStay (s t : System σ) : Prop :=
  ∃ new, t.trace = s.trace ++ new ∧ t.host.flags.rf = s.host.flags.rf ∧
    ((∀ event ∈ eventsOf new, isFailure event = false) →
      t.host.flags.polling = s.host.flags.polling)

lemma marksStay_of_eq (htrace : t.trace = s.trace) (hflags : t.host.flags = s.host.flags) :
    MarksStay s t :=
  ⟨[], by rw [htrace, List.append_nil], by rw [hflags], fun _ => by rw [hflags]⟩

lemma MarksStay.trans (h₁ : MarksStay s t) (h₂ : MarksStay t u) : MarksStay s u := by
  obtain ⟨new₁, htrace₁, hrf₁, hpolling₁⟩ := h₁
  obtain ⟨new₂, htrace₂, hrf₂, hpolling₂⟩ := h₂
  refine ⟨new₁ ++ new₂, by rw [htrace₂, htrace₁, List.append_assoc], hrf₂.trans hrf₁, fun hsound => ?_⟩
  rw [eventsOf_append, List.forall_mem_append] at hsound
  exact (hpolling₂ hsound.2).trans (hpolling₁ hsound.1)

lemma issue_marks (origin : Origin) (request : Request) (s : System σ) :
    MarksStay s (c.issue origin request s).2 :=
  ⟨[_], rfl, rfl, fun _ => rfl⟩

lemma deliver_marks (happening : Happening) (s : System σ) :
    MarksStay s (c.deliver happening s) := by
  cases happening with
  | abortAll => exact marksStay_of_eq rfl rfl
  | abortSession => exact marksStay_of_eq rfl rfl
  | event event =>
    by_cases hn : s.receiver = .nobody
    · rw [deliver_nobody c hn]
      exact marksStay_of_eq rfl rfl
    · obtain ⟨new, htrace, hevents⟩ := deliver_events c hn event
      refine ⟨new, htrace, rf_of_steady (deliver_steady c _ s), fun hsound => ?_⟩
      rw [hevents] at hsound
      rw [(deliver_reacts c hn event).host]
      exact hearAs_polling _ (hsound event (List.mem_singleton_self event)) _

lemma follows_marks (c : Controller σ) : FollowsDeliveries c MarksStay where
  refl _ := marksStay_of_eq rfl rfl
  trans := .trans
  queue _ _ := marksStay_of_eq rfl rfl
  deliver s happening _ := deliver_marks happening s

lemma selectDiscovered_marks (target : DiscoveryNotice) (s : System σ) :
    MarksStay s (c.selectDiscovered target s) := by
  have hselect : MarksStay s (c.issue .reaction (.select target.target target.protocol
      (RadioInterface.forProtocol target.protocol)) s).2 := issue_marks _ _ s
  exact hselect.trans (marksStay_of_eq rfl rfl)

lemma release_marks (s : System σ) : MarksStay s (c.release s) := by
  refine (follows_marks c).release (fun notice s _ => ?_) s
  have hkept : MarksStay s { s with late := none } := marksStay_of_eq rfl rfl
  exact hkept.trans (selectDiscovered_marks notice.target _)

lemma left_marks (s t : System σ) : MarksStay t (left c s t) := by
  unfold left
  dsimp only
  split
  · exact marksStay_of_eq rfl rfl
  · have hback : MarksStay t ((t.mapHost fun host => { host with fieldBound := s.host.fieldBound }).mapHost
        (giveBack s.host.inUse)) := marksStay_of_eq rfl rfl
    exact hback.trans (release_marks _)

/-- A call of the radio leaves the marks as they are. -/
lemma call_marks (request : Request) (s : System σ) :
    MarksStay s ((Op.call Venue.polling request).run c.alone s).2 := by
  let x := exchange c Venue.polling request s
  have hasked : MarksStay s x.asked := (marksStay_of_eq rfl rfl).trans (issue_marks .caller request _)
  have hended : MarksStay x.asked x.ended :=
    (follows_marks c).duringCall (fun _ _ => marksStay_of_eq rfl rfl) Venue.polling request s
  rw [call_alone]
  exact (hasked.trans hended).trans (marksStay_of_eq rfl rfl)

end Marks

section Orders

/-- What is asked of the radio, and waited for. -/
inductive RadioOrder where
  | startDiscovery
  | stopDiscovery
  | startPolling (mask : TechMask)
  | stopPolling

namespace RadioOrder

def request : RadioOrder → Request
  | .startDiscovery => .startDiscovery
  | .stopDiscovery => .stopDiscovery
  | .startPolling mask => .enablePolling mask
  | .stopPolling => .disablePolling

/-- What a confirmation changes. -/
def settled : RadioOrder → Flags → Flags
  | .startDiscovery, flags => { flags with rf := true }
  | .stopDiscovery, flags => { flags with rf := false }
  | .startPolling _, flags => { flags with polling := true }
  | .stopPolling, flags => { flags with polling := false }

/-- The completion that the controller means for the order. -/
def answer : RadioOrder → Event → Option Status
  | .startDiscovery, .discoveryStarted status => some status
  | .stopDiscovery, .discoveryStopped status => some status
  | .startPolling _, .pollingEnabled status => some status
  | .stopPolling, .pollingDisabled status => some status
  | _, _ => none

def run : RadioOrder → Op σ Bool
  | .startDiscovery => Radio.startDiscovery
  | .stopDiscovery => Radio.stopDiscovery
  | .startPolling mask => Radio.startPolling mask
  | .stopPolling => Radio.stopPolling

/-- The exchange by which the order is given. -/
def exchange (c : Controller σ) (order : RadioOrder) (s : System σ) : Exchange σ :=
  Proofs.exchange c Venue.polling order.request (entered Host.waitBound s)

variable (order : RadioOrder)

lemma run_eq : (order.run : Op σ Bool) = (Op.holdingField Host.waitBound do
    let outcome ← Op.call Venue.polling order.request
    Radio.settle outcome order.settled) := by
  cases order with
  | startDiscovery => rfl
  | stopDiscovery => rfl
  | startPolling mask => rfl
  | stopPolling => rfl

lemma request_ne_enable : order.request ≠ .enable := by
  cases order with
  | startDiscovery => nofun
  | stopDiscovery => nofun
  | startPolling mask => nofun
  | stopPolling => nofun

/-- Where the marks stay before a confirmation and after it, the confirmation alone changes them. -/
lemma settled_marks (h₁ : MarksStay s t)
    (h₂ : MarksStay (t.mapHost (Host.mapFlags order.settled)) u) :
    u.host.flags.rf = (order.settled s.host.flags).rf ∧
      ((∀ event ∈ eventsOf (u.trace.drop s.trace.length), isFailure event = false) →
        u.host.flags.polling = (order.settled s.host.flags).polling) := by
  obtain ⟨new₁, htrace₁, hrf₁, hpolling₁⟩ := h₁
  obtain ⟨new₂, htrace₂, hrf₂, hpolling₂⟩ := h₂
  rw [System.mapHost_trace] at htrace₂
  have hsince : u.trace.drop s.trace.length = new₁ ++ new₂ :=
    trace_since (by rw [htrace₂, htrace₁, List.append_assoc])
  have hrf : (order.settled t.host.flags).rf = (order.settled s.host.flags).rf := by
    cases order with
    | startDiscovery => rfl
    | stopDiscovery => rfl
    | startPolling mask => exact hrf₁
    | stopPolling => exact hrf₁
  refine ⟨hrf₂.trans hrf, fun hsound => ?_⟩
  rw [hsince, eventsOf_append, List.forall_mem_append] at hsound
  have hpolling : (order.settled t.host.flags).polling = (order.settled s.host.flags).polling := by
    cases order with
    | startDiscovery => exact hpolling₁ hsound.1
    | stopDiscovery => exact hpolling₁ hsound.1
    | startPolling mask => rfl
    | stopPolling => rfl
  exact (hpolling₂ hsound.2).trans hpolling

/-- An order is one request. It reports success exactly if the request is acknowledged. -/
lemma confirmed_iff (hs : s.receiver ≠ .session) :
    let result := order.run.run c.alone s
    Asks s result.2 [order.request] ∧ (order.exchange c s).ended.trace <+: result.2.trace ∧
      (result.1 = true ↔ Acknowledged (order.exchange c s)) := by
  obtain ⟨hasks, hcovered, -, hconfirmed⟩ :=
    radio_alone c order.request order.settled s order.request_ne_enable hs
  rw [run_eq]
  exact ⟨hasks, hcovered, hconfirmed⟩

/-- The flags that an order leaves behind it, going by what it reports. -/
def flagsAfter (success : Bool) (flags : Flags) : Flags :=
  if success then order.settled flags else flags

lemma flags_after (s : System σ) :
    let result := order.run.run c.alone s
    let expected := order.flagsAfter result.1 s.host.flags
    result.2.host.flags.rf = expected.rf ∧
      ((∀ event ∈ eventsOf (result.2.trace.drop s.trace.length), isFailure event = false) →
        result.2.host.flags.polling = expected.polling) := by
  dsimp only
  rw [run_eq, holdingField_alone, Op.run_bind, settle_run]
  have hentered : MarksStay s (entered Host.waitBound s) := marksStay_of_eq rfl (entered_flags _ s)
  have hcalled := hentered.trans (call_marks (c := c) order.request (entered Host.waitBound s))
  generalize (Op.call Venue.polling order.request).run c.alone (entered Host.waitBound s) = call at *
  split
  · exact order.settled_marks hcalled (left_marks s _)
  · obtain ⟨new, htrace, hrf, hpolling⟩ := hcalled.trans (left_marks (c := c) s call.2)
    refine ⟨hrf, fun hsound => hpolling ?_⟩
    rw [trace_since htrace] at hsound
    exact hsound

/-- Where only completions of its own arrive, an order goes by them. -/
lemma own_completions (h : ∀ event ∈ (order.exchange c s).events, order.answer event = radioAnswer event) :
    (order.exchange c s).answer? radioAnswer = (order.exchange c s).answer? order.answer := by
  unfold Exchange.answer?
  rw [List.filterMap_congr h]

end RadioOrder

/-- An order of the radio reports success exactly if it was accepted and the last completion of any of the
four orders that arrived in its wait was `ok`. The marks of the radio change as the order says if it reports
success, and otherwise stay, unless the controller failed. Where only completions of its own arrive, an
order so goes by them alone. -/
theorem order_goes_by_last_completion (c : Controller σ) {s : System σ} (hs : s.receiver ≠ .session)
    (order : RadioOrder) :
    let x := order.exchange c s
    let result := order.run.run c.alone s
    let expected := order.flagsAfter result.1 s.host.flags
    (Asks s result.2 [order.request] ∧ x.ended.trace <+: result.2.trace) ∧
      (result.1 = true ↔ x.accepted ∧ x.answer? radioAnswer = some .ok) ∧
      result.2.host.flags.rf = expected.rf ∧
      ((∀ event ∈ eventsOf (result.2.trace.drop s.trace.length), isFailure event = false) →
        result.2.host.flags.polling = expected.polling) ∧
      ((∀ event ∈ x.events, order.answer event = radioAnswer event) →
        (result.1 = true ↔ x.accepted ∧ x.answer? order.answer = some .ok)) := by
  intro x result expected
  obtain ⟨hasks, hcovered, hconfirmed⟩ := order.confirmed_iff (c := c) hs
  obtain ⟨hrf, hpolling⟩ := order.flags_after (c := c) s
  refine ⟨⟨hasks, hcovered⟩, hconfirmed, hrf, hpolling, fun hown => ?_⟩
  rw [← order.own_completions hown]
  exact hconfirmed

/-- A stack that was brought up, over a controller that goes by a script. -/
def upWith (script : Script) : System Script := ran Script.controller [] {} script firstBringUp

/-- A controller that takes the order to start discovery and never completes it. -/
def unanswering : System Script := upWith { silenced := [.startDiscovery] }

/-- Where no completion arrives an order fails, and nothing is recorded. -/
theorem unanswered_order_fails :
    let result := RadioOrder.startDiscovery.run.run Script.controller.alone unanswering
    unanswering.receiver ≠ .session ∧ result.1 = false ∧ result.2.host.flags.rf = false := by
  intro result
  have hreceiver : unanswering.receiver = .host := rfl
  have hs : unanswering.receiver ≠ .session := by
    rw [hreceiver]
    nofun
  obtain ⟨-, hresult, hrf, -⟩ := order_goes_by_last_completion Script.controller hs .startDiscovery
  have hnothing : (RadioOrder.startDiscovery.exchange Script.controller unanswering).answer? radioAnswer =
      none := rfl
  have hfailed : result.1 = false := by
    rw [Bool.eq_false_iff]
    intro hdone
    exact absurd (hnothing.symm.trans (hresult.mp hdone).2) nofun
  refine ⟨hs, hfailed, hrf.trans ?_⟩
  change (RadioOrder.startDiscovery.flagsAfter result.1 unanswering.host.flags).rf = false
  rw [hfailed]
  rfl

/-- A completion of a request that was given up before comes in while the start of discovery is waited
for. -/
def straggling : Companion Script where
  meanwhile request _ :=
    if request = .startDiscovery then [.move (.event (.pollingDisabled .ok))] else []
  afterwards _ := []

/-- The start of discovery is taken for confirmed although the controller never confirmed it. -/
theorem foreign_completion_confirms :
    let result :=
      (Radio.startDiscovery : Op Script Bool).run (company Script.controller [straggling]) unanswering
    eventsOf (result.2.trace.drop unanswering.trace.length) = [.pollingDisabled .ok] ∧
      result.1 = true ∧ unanswering.host.flags.rf = false ∧ result.2.host.flags.rf = true :=
  ⟨rfl, rfl, rfl, rfl⟩

end Orders

end NfcStack.Proofs
