import NfcStack.Proofs.RestartActive
import NfcStack.Proofs.Tidings

/-!
# Controllers that complete what they are asked for

With such a controller nothing in flight ever makes the host ask back, and between two requests the
flags of the stack stand still. What operations do to these flags and which requests they make for the
mode of discovery can then be told operation by operation.
-/

namespace NfcStack.Proofs

variable {σ α : Type} {c : Controller σ} {P : σ → Prop} {s t : System σ}

section Happenings

/-- A happening that neither announces a target nor ends a wait of the radio without success. -/
def isClear : Happening → Bool
  | .event event => !isDiscovery event && (radioAnswer event).all (·.isOk)
  | _ => true

/-- In states of a kind the controller obliges, takes and completes requests for polling, completes
requests of the radio with `ok` only, and announces no targets. -/
structure Completing (c : Controller σ) (P : σ → Prop) : Prop extends Obliging c P where
  takes : ∀ mask x, P x → (c.respond (.enablePolling mask) x).1.verdict.isOk = true
  polls : ∀ mask x, P x →
    .event (.pollingEnabled .ok) ∈ (c.respond (.enablePolling mask) x).1.happenings
  clear : ∀ request x, P x → ∀ happening ∈ (c.respond request x).1.happenings,
    isClear happening = true

lemma asksBack_clear {happening : Happening} (hclear : isClear happening = true)
    (ht : isTame happening = true) : asksBack happening = false := by
  cases happening with
  | event event =>
    have hdiscovery : isDiscovery event = false := by
      have hboth := (Bool.and_eq_true_iff.mp hclear).1
      simpa using hboth
    exact Bool.or_eq_false_iff.mpr ⟨not_failure_of_tame ht, hdiscovery⟩
  | _ => rfl

lemma radioAnswer_clear {happenings : List Happening}
    (hclear : ∀ happening ∈ happenings, isClear happening = true)
    (hmem : .event (.pollingEnabled .ok) ∈ happenings) :
    ((eventsAmong happenings).filterMap radioAnswer).getLast? = some .ok := by
  have hanswers (event : Event) (hevent : .event event ∈ happenings) (status : Status)
      (hanswer : radioAnswer event = some status) : status = .ok := by
    have hok := (Bool.and_eq_true_iff.mp (hclear _ hevent)).2
    rw [hanswer] at hok
    exact of_decide_eq_true hok
  exact lastAnswer_of_all hanswers hmem rfl

end Happenings

section Bearings

/-- What a host makes of the life cycle and of the mode of discovery. -/
structure Bearing where
  config : Config
  enabled : Bool
  disabling : Bool
  discovery : Bool
  readerMode : Bool

def bearingOf (host : Host) : Bearing where
  config := host.config
  enabled := host.flags.enabled
  disabling := host.flags.disabling
  discovery := host.flags.discovery
  readerMode := host.flags.readerMode

lemma routine_bearing {change : Change} (h : Routine (.change change)) (host : Host) :
    bearingOf (change.apply host) = bearingOf host := by
  change bearingOf (groundOf (change.apply host)) = bearingOf (groundOf host)
  rw [routine_ground h]

/-- Only news of the life cycle changes the bearing, and only of the life cycle. -/
lemma hear_bearing {happening : Happening} (ht : isTame happening = true) (host : Host) :
    bearingOf (hearHappening happening host) =
      { bearingOf host with
        enabled := (life (hearHappening happening host)).1
        disabling := (life (hearHappening happening host)).2 } := by
  cases happening with
  | abortAll => rfl
  | abortSession => rfl
  | event event =>
    cases event with
    | transportError => exact absurd ht nofun
    | controllerTimeout => exact absurd ht nofun
    | activated act =>
      obtain ⟨tagActive, session, endpoints, hshape⟩ := hearActivation_shape act host
      change bearingOf (hearActivation act host) = { bearingOf host with
        enabled := (life (hearActivation act host)).1, disabling := (life (hearActivation act host)).2 }
      rw [hshape]
      rfl
    | discovered status notice =>
      obtain ⟨session, hshape⟩ := discovered_shape status notice host
      change bearingOf (hear (.discovered status notice) host) = { bearingOf host with
        enabled := (life (hear (.discovered status notice) host)).1
        disabling := (life (hear (.discovered status notice) host)).2 }
      rw [hshape]
      rfl
    | deactivated sleep => cases sleep <;> rfl
    | _ => rfl

lemma hearAll_bearing {happenings : List Happening}
    (ht : ∀ happening ∈ happenings, isTame happening = true) (host : Host) :
    bearingOf (hearAll happenings host) =
      { bearingOf host with
        enabled := (life (hearAll happenings host)).1
        disabling := (life (hearAll happenings host)).2 } := by
  induction happenings generalizing host with
  | nil => rfl
  | cons first rest ih =>
    obtain ⟨hfirst, hrest⟩ := List.forall_mem_cons.mp ht
    rw [hearAll_cons, ih hrest, hear_bearing hfirst]

lemma hearAll_calm {happenings : List Happening}
    (hcalm : ∀ happening ∈ happenings, isCalm happening = true) (host : Host) :
    life (hearAll happenings host) = life host := by
  induction happenings generalizing host with
  | nil => rfl
  | cons first rest ih =>
    obtain ⟨hfirst, hrest⟩ := List.forall_mem_cons.mp hcalm
    rw [hearAll_cons, ih hrest, hear_calm hfirst]

lemma hearAll_calm_bearing {happenings : List Happening}
    (hcalm : ∀ happening ∈ happenings, isCalm happening = true) (host : Host) :
    bearingOf (hearAll happenings host) = bearingOf host := by
  rw [hearAll_bearing fun happening hmem => isTame_of_calm (hcalm happening hmem), hearAll_calm hcalm]
  rfl

end Bearings

section Composure

/-- A system in which nothing in flight is of account to the bearing of the host or to the radio. -/
structure Composed (P : σ → Prop) (s : System σ) : Prop where
  controller : P s.controller
  calm : ∀ happening ∈ s.queue, isCalm happening = true
  clear : ∀ happening ∈ s.queue, isClear happening = true
  attended : Attended s
  late : s.late = none

/-- Such a system after a request: all that is of account in flight completes it. -/
structure Awaiting (P : σ → Prop) (request : Request) (s : System σ) : Prop where
  controller : P s.controller
  awaited : ∀ happening ∈ s.queue, isCalm happening = true ∨ completes request happening = true
  clear : ∀ happening ∈ s.queue, isClear happening = true
  attended : Attended s
  late : s.late = none

lemma Composed.mapHost (hs : Composed P s) (f : Host → Host) : Composed P (s.mapHost f) :=
  ⟨hs.controller, hs.calm, hs.clear, hs.attended, hs.late⟩

lemma Awaiting.tame {request : Request} (hs : Awaiting P request s) :
    ∀ happening ∈ s.queue, isTame happening = true := by
  intro happening hmem
  rcases hs.awaited happening hmem with hcalm | hown
  · exact isTame_of_calm hcalm
  · exact isTame_of_completes hown

lemma Awaiting.still {request : Request} (hs : Awaiting P request s) : Still P s :=
  ⟨hs.controller, fun happening hmem => asksBack_clear (hs.clear happening hmem) (hs.tame happening hmem),
    hs.attended, hs.late⟩

lemma Composed.awaiting (hs : Composed P s) (request : Request) : Awaiting P request s :=
  ⟨hs.controller, fun happening hmem => .inl (hs.calm happening hmem), hs.clear, hs.attended, hs.late⟩

lemma composed_of_still (hs : Still P s) (hq : s.queue = []) : Composed P s where
  controller := hs.controller
  calm := by simp [hq]
  clear := by simp [hq]
  attended := hs.attended
  late := hs.late

lemma Awaiting.attend {request : Request} (hs : Awaiting P request s) :
    Composed P (c.attend s) ∧ (c.attend s).host = hearAll s.queue s.host := by
  obtain ⟨hstill, hempty, hheard⟩ := hs.still.attend (c := c)
  exact ⟨composed_of_still hstill hempty, hheard⟩

lemma Completing.issue_awaiting (hc : Completing c P) (origin : Origin) (request : Request)
    (hs : Composed P s) : Awaiting P request (c.issue origin request s).2 where
  controller := hc.stays request s.controller hs.controller
  awaited happening hmem := by
    rcases mem_issue hmem with hold | hnew
    · exact .inl (hs.calm happening hold)
    · exact hc.quiet request s.controller hs.controller happening hnew
  clear happening hmem := by
    rcases mem_issue hmem with hold | hnew
    · exact hs.clear happening hold
    · exact hc.clear request s.controller hs.controller happening hnew
  attended := issue_attended origin request hs.attended
  late := hs.late

lemma Completing.issue_composed (hc : Completing c P) (origin : Origin) {request : Request}
    (hreq : ∀ happening, completes request happening = false) (hs : Composed P s) :
    Composed P (c.issue origin request s).2 := by
  have hasked := hc.issue_awaiting origin request hs
  refine ⟨hasked.controller, fun happening hmem => ?_, hasked.clear, hasked.attended, hasked.late⟩
  refine (hasked.awaited happening hmem).resolve_right ?_
  rw [hreq happening]
  nofun

lemma Composed.round (hs : Composed P s) :
    Composed P (c.round s) ∧ bearingOf (c.round s).host = bearingOf s.host := by
  obtain ⟨hstill, hempty, hheard, -⟩ := (hs.awaiting .enable).still.round (c := c)
  refine ⟨composed_of_still hstill hempty, ?_⟩
  rw [hheard, hearAll_calm_bearing hs.calm]

/-- Routine work leaves a composed system composed, and its bearing as it is. -/
theorem Completing.evolves (hc : Completing c P) (h : Evolves c Routine s t) (hs : Composed P s) :
    Composed P t ∧ bearingOf t.host = bearingOf s.host := by
  -- Nothing in flight makes the host ask back, so that no notice is ever kept back to wear or to lapse.
  induction h with
  | refl s => exact ⟨hs, rfl⟩
  | trans _ _ ih₁ ih₂ =>
    obtain ⟨hmiddle, hsame⟩ := ih₁ hs
    obtain ⟨hend, hsame'⟩ := ih₂ hmiddle
    exact ⟨hend, hsame'.trans hsame⟩
  | request request hp _ => exact ⟨hc.issue_composed .caller (completes_routine hp) hs, rfl⟩
  | query => exact ⟨⟨hs.controller, hs.calm, hs.clear, hs.attended, hs.late⟩, rfl⟩
  | report event hp => exact hp.elim
  | change change hp => exact ⟨hs.mapHost _, routine_bearing hp _⟩
  | round => exact hs.round
  | wear notice patience hlate =>
    rw [hs.late] at hlate
    exact absurd hlate nofun
  | lapse hlate =>
    rw [hs.late] at hlate
    exact absurd hlate nofun
  | holdUp => exact ⟨⟨hs.controller, hs.calm, hs.clear, hs.attended, hs.late⟩, rfl⟩
  | @occupy s t resource _ ih =>
    obtain ⟨hend, hsame⟩ := ih (hs.mapHost _)
    have hback : Composed P (t.mapHost (giveBack s.host.inUse)) := hend.mapHost _
    unfold takeUpNotice
    rw [hback.late]
    exact ⟨hback, hsame⟩

lemma Awaiting.attend_bearing {request : Request} (hs : Awaiting P request s) :
    bearingOf (c.attend s).host =
      { bearingOf s.host with
        enabled := (life (c.attend s).host).1
        disabling := (life (c.attend s).host).2 } := by
  rw [(hs.attend (c := c)).2, hearAll_bearing hs.tame]

lemma Completing.enable_heard (hc : Completing c P) (hs : Composed P s)
    (harmed : s.host.enable.armed = true) :
    let t := c.attend (c.issue .caller .enable s).2
    Composed P t ∧ bearingOf t.host = { bearingOf s.host with enabled := true, disabling := false } ∧
      t.host.enable.value = some .ok := by
  intro t
  have hasked : Awaiting P .enable (c.issue .caller .enable s).2 := hc.issue_awaiting .caller .enable hs
  have hconfirmed : .event (.enabled .ok) ∈ (c.issue .caller .enable s).2.queue := by
    rw [hc.enable_queue hs.controller]
    exact List.mem_append_right _ (hc.enables s.controller hs.controller)
  obtain ⟨hcomposed, hheard⟩ := hasked.attend (c := c)
  have hlife : life t.host = (true, false) := by
    rw [hheard]
    exact hearAll_up hasked.awaited (.inr hconfirmed)
  have hbearing := hasked.attend_bearing (c := c)
  rw [hlife] at hbearing
  refine ⟨hcomposed, hbearing, ?_⟩
  rw [hheard]
  exact hearAll_answer hasked.awaited harmed hconfirmed

end Composure

section Polling

variable {venue : Venue α} {request : Request}

/-- With no notice kept back the wait of an accepted call takes in what is in flight. -/
lemma exchange_ended (hok : (exchange c venue request s).accepted) (hlate : s.late = none) :
    (exchange c venue request s).ended = c.attend (exchange c venue request s).asked := by
  have hasked : (exchange c venue request s).asked.late = none := hlate
  have hpass : (Op.pass c.alone (exchange c venue request s).asked).2 =
      c.attend (exchange c venue request s).asked := by
    unfold Op.pass
    rw [hasked]
    rfl
  rw [← hpass]
  exact if_pos hok

lemma left_flags (hlate : t.late = none) (s : System σ) : (left c s t).host.flags = t.host.flags := by
  unfold left
  dsimp only
  split
  · rfl
  · have hback := release_idle (c := c)
      (s := t.mapHost fun host => { host with fieldBound := s.host.fieldBound })
      (giveBack s.host.inUse) hlate
    rw [hback]
    rfl

lemma Completing.polling_answered (hc : Completing c P) (mask : TechMask) (hs : Composed P s)
    (hr : s.receiver = .host) :
    let x := exchange c Venue.polling (.enablePolling mask) s
    x.accepted ∧ Composed P x.ended ∧ x.ended.host.polling.value = some .ok := by
  intro x
  have hok : x.accepted := hc.takes mask s.controller hs.controller
  have hasked : Awaiting P (.enablePolling mask) x.asked :=
    hc.issue_awaiting .caller _ (hs.mapHost (Venue.polling.map .arm))
  have hanswered : .event (.pollingEnabled .ok) ∈ x.asked.queue :=
    mem_issue_accepted .caller hr hok (hc.polls mask s.controller hs.controller)
  have hended : x.ended = c.attend x.asked := exchange_ended hok hs.late
  obtain ⟨hcomposed, hheard⟩ := hasked.attend (c := c)
  refine ⟨hok, ?_, ?_⟩
  · rw [hended]
    exact hcomposed
  · have hkept := (hears_polling.all x.asked.queue x.asked.host rfl).2
    change (hearAll x.asked.queue x.asked.host).polling.value = _ at hkept
    rw [hended, hheard, hkept, radioAnswer_clear hasked.clear hanswered]
    rfl

/-- Where the controller takes and completes requests for polling, a stack that starts to poll does. -/
lemma Completing.startPolling_polls (hc : Completing c P) (mask : TechMask) (hs : Composed P s)
    (hr : s.receiver = .host) :
    ((Radio.startPolling mask : Op σ Bool).run c.alone s).2.host.flags.polling = true := by
  have hentered : Composed P (entered Host.waitBound s) := (hs.mapHost _).mapHost _
  obtain ⟨hok, hended, hvalue⟩ := hc.polling_answered mask hentered hr
  generalize hx : exchange c Venue.polling (.enablePolling mask) (entered Host.waitBound s) = x at *
  have houtcome : (Venue.polling.view x.ended.host).outcome = .completed .ok := by
    change x.ended.host.polling.outcome = _
    unfold Rendezvous.outcome
    rw [hvalue]
  have hcall : (Op.call Venue.polling (.enablePolling mask)).run c.alone (entered Host.waitBound s) =
      (.completed .ok, x.ended.mapHost (Venue.polling.map .disarm)) := by
    rw [call_alone, hx, houtcome]
    exact congrArg (·, _) (if_pos hok)
  unfold Radio.startPolling
  rw [holdingField_alone, Op.run_bind, hcall, left_flags]
  · rfl
  · exact hended.late

end Polling


section Scripted

lemma Plain.clear {script : Script} (h : Plain script) (request : Request) :
    ∀ event ∈ (script.complete request).1, isClear (.event event) = true := by
  have hclear : (script.complete request).1.all (fun event => isClear (.event event)) = true := by
    unfold Script.complete
    rw [h.completion]
    cases request with
    | select target protocol interface =>
      unfold Script.reactivation
      cases script.lastTarget with
      | none => rfl
      | some act =>
        cases script.reactivates with
        | true => rfl
        | false => rfl
    | sendFrame frame =>
      dsimp only
      split
      · rfl
      · rfl
    | registerNfcees =>
      unfold Script.announcement
      dsimp only
      split
      · rfl
      · rfl
    | _ => rfl
  exact List.all_eq_true.mp hclear

lemma plain_completing : Completing Script.controller Plain where
  toObliging := plain_obliging
  takes mask script h := by
    change (script.respond (.enablePolling mask)).1.verdict.isOk = true
    rw [h.accepts]
    rfl
  polls mask script h := by
    change Happening.event (.pollingEnabled .ok) ∈ (script.respond (.enablePolling mask)).1.happenings
    rw [h.respond rfl]
    change _ ∈ [Happening.event (.pollingEnabled (script.completion .enablePolling))]
    rw [h.completion]
    exact List.mem_singleton_self _
  clear request script h := by
    change ∀ happening ∈ (script.respond request).1.happenings, isClear happening = true
    cases hreq : Script.isUnconditional request.kind with
    | true =>
      unfold Script.respond
      rw [if_pos hreq]
      exact fun _ hmem => absurd hmem List.not_mem_nil
    | false =>
      rw [h.respond hreq]
      intro happening hmem
      obtain ⟨event, hevent, rfl⟩ := List.mem_map.mp hmem
      exact h.clear request event hevent

end Scripted

end NfcStack.Proofs
