import NfcStack.Bench.Sample
import NfcStack.Proofs.RestartActive

/-!
# Two ways down

A stack goes down because a caller takes it down, or because its controller fails and is disabled. The
first way leaves none of the flags of the stack and of its discovery. The second leaves whether radio
discovery runs, whether a tag is active and whether it is being selected again as they were.
-/

namespace NfcStack.Proofs

variable {σ α : Type}

section Happenings

/-- In states of a kind the controller reports nothing of its life cycle or of a tag that it was not asked
for. It may refuse requests, leave them without completion, and complete them with any status. -/
structure Discreet (c : Controller σ) (P : σ → Prop) : Prop where
  stays : ∀ request x, P x → P (c.respond request x).2
  quiet : ∀ request x, P x → request ≠ .enable → ∀ happening ∈ (c.respond request x).1.happenings,
    isNeutral happening = true ∨ answers request happening = true

/-- In states of a kind the controller accepts every request and completes it, and reports nothing of its
life cycle or of a tag that it was not asked for. -/
structure Compliant (c : Controller σ) (P : σ → Prop) : Prop where
  stays : ∀ request x, P x → P (c.respond request x).2
  accepts : ∀ request x, P x → (c.respond request x).1.verdict.isOk = true
  disables : ∀ graceful x, P x → .event .disabled ∈ (c.respond (.disable graceful) x).1.happenings
  quiet : ∀ request x, P x → ∀ happening ∈ (c.respond request x).1.happenings,
    isNeutral happening = true ∨ answers request happening = true

lemma Compliant.discreet {c : Controller σ} {P : σ → Prop} (hc : Compliant c P) : Discreet c P :=
  ⟨hc.stays, fun request x hx _ => hc.quiet request x hx⟩

lemma asksBack_neutral {happening : Happening} (h : isNeutral happening = true) :
    asksBack happening = false := by
  cases happening with
  | event event =>
    cases event with
    | discovered status notice => exact absurd h nofun
    | transportError => exact absurd h nofun
    | controllerTimeout => exact absurd h nofun
    | _ => rfl
  | _ => rfl

lemma eq_of_answers_disable {graceful : Bool} {happening : Happening}
    (h : answers (.disable graceful) happening = true) : happening = .event .disabled := by
  cases happening with
  | event event =>
    cases event with
    | disabled => rfl
    | _ => exact absurd h nofun
  | _ => exact absurd h nofun

lemma asksBack_answers {request : Request} {happening : Happening}
    (h : answers request happening = true) : asksBack happening = false := by
  unfold answers at h
  split at h
  · rfl
  · rfl
  · rfl
  · rfl
  · exact absurd h nofun

lemma answers_routine {request : Request} (h : Routine (.request request)) (happening : Happening) :
    answers request happening = false := by
  cases request with
  | enable => exact h.elim
  | disable graceful => exact h.elim
  | select target protocol interface => exact h.elim
  | deactivate sleep => exact h.elim
  | _ => rfl

lemma hear_neutral {happening : Happening} (h : isNeutral happening = true) (host : Host) :
    (hearHappening happening host).flags = host.flags := by
  cases happening with
  | abortAll => rfl
  | abortSession => rfl
  | event event =>
    cases event with
    | enabled status => exact absurd h nofun
    | disabled => exact absurd h nofun
    | transportError => exact absurd h nofun
    | controllerTimeout => exact absurd h nofun
    | activated act => exact absurd h nofun
    | deactivated sleep => exact absurd h nofun
    | discovered status notice => exact absurd h nofun
    | _ => rfl

lemma hearAll_neutral {happenings : List Happening}
    (h : ∀ happening ∈ happenings, isNeutral happening = true) (host : Host) :
    (hearAll happenings host).flags = host.flags := by
  induction happenings generalizing host with
  | nil => rfl
  | cons first rest ih =>
    obtain ⟨hfirst, hrest⟩ := List.forall_mem_cons.mp h
    rw [hearAll_cons, ih hrest, hear_neutral hfirst]

/-- A stack that hears that its controller is disabled, and nothing else of account. -/
lemma hearAll_disabled {happenings : List Happening} {graceful : Bool}
    (h : ∀ happening ∈ happenings,
      isNeutral happening = true ∨ answers (.disable graceful) happening = true) {host : Host}
    (hdown : .event .disabled ∈ happenings ∨
      host.flags = { host.flags with enabled := false, disabling := false }) :
    (hearAll happenings host).flags = { host.flags with enabled := false, disabling := false } := by
  induction happenings generalizing host with
  | nil => exact hdown.resolve_left List.not_mem_nil
  | cons first rest ih =>
    obtain ⟨hfirst, hrest⟩ := List.forall_mem_cons.mp h
    rw [hearAll_cons]
    rcases hfirst with hneutral | hown
    · have hflags := hear_neutral hneutral host
      rw [ih hrest ?_, hflags]
      rw [hflags]
      refine hdown.imp_left fun hmem => ?_
      rcases List.mem_cons.mp hmem with heq | hmem
      · rw [← heq] at hneutral
        exact absurd hneutral nofun
      · exact hmem
    · rw [eq_of_answers_disable hown, ih hrest (.inr rfl)]
      rfl

end Happenings

section Still

variable {c : Controller σ} {P : σ → Prop} {s t u : System σ}

/-- A system in which nothing in flight is of account to the flags of the stack. -/
structure Quiet (P : σ → Prop) (s : System σ) : Prop where
  controller : P s.controller
  neutral : ∀ happening ∈ s.queue, isNeutral happening = true
  attended : Attended s
  late : s.late = none

lemma Quiet.still (hs : Quiet P s) : Still P s :=
  ⟨hs.controller, fun happening hmem => asksBack_neutral (hs.neutral happening hmem), hs.attended,
    hs.late⟩

/-- A quiet system after a request: all that is of account in flight answers it. -/
structure Answering (P : σ → Prop) (request : Request) (s : System σ) : Prop where
  controller : P s.controller
  awaited : ∀ happening ∈ s.queue, isNeutral happening = true ∨ answers request happening = true
  attended : Attended s
  late : s.late = none

lemma Answering.quiet {request : Request} (hs : Answering P request s)
    (hreq : ∀ happening, answers request happening = false) : Quiet P s where
  controller := hs.controller
  neutral happening hmem := by
    refine (hs.awaited happening hmem).resolve_right ?_
    rw [hreq happening]
    nofun
  attended := hs.attended
  late := hs.late

lemma Answering.still {request : Request} (hs : Answering P request s) : Still P s := by
  refine ⟨hs.controller, fun happening hmem => ?_, hs.attended, hs.late⟩
  rcases hs.awaited happening hmem with hneutral | hown
  · exact asksBack_neutral hneutral
  · exact asksBack_answers hown

/-- The round in which a stack hears that its controller is disabled. -/
lemma Answering.round_disabled {graceful : Bool} (hs : Answering P (.disable graceful) s)
    (hdisabled : .event .disabled ∈ s.queue) :
    (c.round s).host.flags = { s.host.flags with enabled := false, disabling := false } := by
  rw [(hs.still.round (c := c)).2.2.1]
  exact hearAll_disabled hs.awaited (.inl hdisabled)

lemma Quiet.mapHost (hs : Quiet P s) (f : Host → Host) : Quiet P (s.mapHost f) :=
  ⟨hs.controller, hs.neutral, hs.attended, hs.late⟩

lemma Still.quiet_round (hs : Still P s) : Quiet P (c.round s) := by
  obtain ⟨hstill, hqueue, -, -⟩ := hs.round (c := c)
  refine ⟨hstill.controller, ?_, hstill.attended, hstill.late⟩
  rw [hqueue]
  exact fun _ hmem => absurd hmem List.not_mem_nil

lemma Still.quiet_attend (hs : Still P s) : Quiet P (c.attend s) :=
  (hs.quiet_round (c := c)).still.quiet_round

lemma Quiet.round_flags (hs : Quiet P s) : (c.round s).host.flags = s.host.flags := by
  rw [(hs.still.round (c := c)).2.2.1, hearAll_neutral hs.neutral]

lemma Quiet.attend_flags (hs : Quiet P s) : (c.attend s).host.flags = s.host.flags :=
  (hs.still.quiet_round (c := c)).round_flags.trans hs.round_flags

end Still

section Discretion

variable {c : Controller σ} {P : σ → Prop} {s t : System σ}

/-- What a request brings about joins what is in flight. -/
lemma Discreet.issue_answering (hc : Discreet c P) (origin : Origin) (request : Request)
    (hreq : request ≠ .enable) (hs : Quiet P s) : Answering P request (c.issue origin request s).2 where
  controller := hc.stays request s.controller hs.controller
  awaited happening hmem := by
    rcases mem_issue hmem with hold | hnew
    · exact .inl (hs.neutral happening hold)
    · exact hc.quiet request s.controller hs.controller hreq happening hnew
  attended := issue_attended origin request hs.attended
  late := hs.late

lemma ne_enable_of_routine {request : Request} (h : Routine (.request request)) :
    request ≠ .enable := by
  rintro rfl
  exact h

/-- A routine request brings about nothing of account. -/
lemma Discreet.issue_quiet (hc : Discreet c P) (origin : Origin) {request : Request}
    (hreq : Routine (.request request)) (hs : Quiet P s) : Quiet P (c.issue origin request s).2 :=
  (hc.issue_answering origin request (ne_enable_of_routine hreq) hs).quiet (answers_routine hreq)

/-- Routine work leaves nothing of account in flight. -/
lemma Discreet.evolves (hc : Discreet c P) (h : Evolves c Routine s t) (hs : Quiet P s) :
    Quiet P t := by
  induction h with
  | refl s => exact hs
  | trans _ _ ih₁ ih₂ => exact ih₂ (ih₁ hs)
  | request request hp _ => exact hc.issue_quiet .caller hp hs
  | query => exact ⟨hs.controller, hs.neutral, hs.attended, hs.late⟩
  | report event hp => exact hp.elim
  | change change hp => exact hs.mapHost _
  | round => exact hs.still.quiet_round
  | wear notice patience hlate =>
    rw [hs.late] at hlate
    exact absurd hlate nofun
  | lapse hlate =>
    rw [hs.late] at hlate
    exact absurd hlate nofun
  | holdUp => exact ⟨hs.controller, hs.neutral, hs.attended, hs.late⟩
  | @occupy s t resource _ ih =>
    have hback : Quiet P (t.mapHost (giveBack s.host.inUse)) := (ih (hs.mapHost _)).mapHost _
    unfold takeUpNotice
    rw [hback.late]
    exact hback

lemma Discreet.routine_leads (hc : Discreet c P) {op : Op σ α}
    (h : KeepsTo Routine c.alone op) : Leads c (Quiet P) op fun _ => Quiet P :=
  fun s hs => hc.evolves (h s) hs

/-- Whatever becomes of a request to disable the controller, nothing of it stays in flight. -/
lemma Discreet.disabling_leads (hc : Discreet c P) (graceful : Bool) :
    Leads c (Quiet P) (Op.callForever Venue.disable (.disable graceful)) fun _ => Quiet P := by
  intro s hs
  have harmed : Quiet P (s.mapHost (Venue.disable.map .arm)) := hs.mapHost _
  have hasked := hc.issue_answering .caller (.disable graceful) nofun harmed
  rw [callForever_alone]
  dsimp only
  split
  · exact hasked.still.quiet_attend.mapHost _
  · next hrefused =>
    refine Quiet.mapHost ⟨hasked.controller, fun happening hmem => ?_, hasked.attended, hasked.late⟩ _
    rw [issue_refused hrefused] at hmem
    exact harmed.neutral happening hmem

end Discretion

section Receiving

variable {c : Controller σ} {P : σ → Prop} {s t : System σ}

/-- A system that takes in whatever is in flight: the host attends, and the radio field is free. -/
structure Receptive (P : σ → Prop) (s : System σ) : Prop where
  controller : P s.controller
  attended : Attended s
  free : Free s

lemma Receptive.mapHost (hs : Receptive P s) {f : Host → Host}
    (hf : (f s.host).usesField = s.host.usesField) : Receptive P (s.mapHost f) :=
  ⟨hs.controller, hs.attended, hs.free.1, hf.trans hs.free.2⟩

/-- A reaction adds to what is in flight only what answers it. -/
lemma Discreet.reacts_asks (hc : Discreet c P) {event : Event} {after : Host}
    (h : Reacts c event s after t) (hx : P s.controller) :
    P t.controller ∧ ∀ happening ∈ t.queue, happening ∈ s.queue ∨ asksBack happening = false := by
  cases h with
  | tells h =>
    obtain ⟨new, -, rfl⟩ := h
    exact ⟨hx, fun _ => .inl⟩
  | holds notice h hu => exact ⟨hx, fun _ => .inl⟩
  | @asks host request h =>
    have hreq : request ≠ .enable := by
      cases h with
      | disable h => nofun
      | select h target protocol interface => nofun
    refine ⟨hc.stays request s.controller hx, fun happening hmem => ?_⟩
    have hasked : happening ∈ (c.issue .reaction request { s with host }).2.queue := hmem
    rcases mem_issue hasked with hold | hnew
    · exact .inl hold
    · rcases hc.quiet request s.controller hx hreq happening hnew with hneutral | hown
      · exact .inr (asksBack_neutral hneutral)
      · exact .inr (asksBack_answers hown)

lemma Discreet.deliver_asks (hc : Discreet c P) (happening : Happening) (hx : P s.controller) :
    P (c.deliver happening s).controller ∧
      ∀ other ∈ (c.deliver happening s).queue, other ∈ s.queue ∨ asksBack other = false := by
  cases happening with
  | abortAll => exact ⟨hx, fun _ => .inl⟩
  | abortSession => exact ⟨hx, fun _ => .inl⟩
  | event event =>
    by_cases hn : s.receiver = .nobody
    · rw [deliver_nobody c hn]
      exact ⟨hx, fun _ => .inl⟩
    · exact hc.reacts_asks (s := s.record (.delivered event)) (deliver_reacts c hn event) hx

/-- What is done to a system leaves its controller in states of the kind. -/
lemma Discreet.keeps (hc : Discreet c P) {Q : Act → Prop} (h : Evolves c Q s t) :
    P s.controller → P t.controller := by
  have hsteps : FollowsSteps c Q fun s t => P s.controller → P t.controller :=
    { refl := fun _ => id
      trans := fun h₁ h₂ hx => h₂ (h₁ hx)
      queue := fun _ _ => id
      deliver := fun s happening _ hx => (hc.deliver_asks happening hx).1
      request := fun request s _ _ => hc.stays request s.controller
      query := fun _ => id
      change := fun _ _ _ => id
      inUse := fun _ _ => id
      heldUp := fun _ => id
      late := fun _ _ _ => id
      selects := fun notice s _ => hc.stays _ s.controller }
  exact hsteps.evolves h

lemma Discreet.receptive (hc : Discreet c P) {Q : Act → Prop} (h : Evolves c Q s t)
    (hs : Receptive P s) : Receptive P t :=
  ⟨hc.keeps h hs.controller, h.attended hs.attended, h.free hs.free⟩

lemma Discreet.takeIn_asks (hc : Discreet c P) (happenings : List Happening) (hx : P s.controller)
    (hf : Free s) (hq : ∀ happening ∈ s.queue, asksBack happening = false) :
    ∀ happening ∈ (c.takeIn happenings s).queue, asksBack happening = false := by
  induction happenings generalizing s with
  | nil => exact hq
  | cons first rest ih =>
    obtain ⟨hx', hq'⟩ := hc.deliver_asks first hx
    unfold Controller.takeIn
    rw [if_neg (not_kept_back hf.1)]
    apply ih hx' (deliver_free first hf)
    intro happening hmem
    rcases hq' happening hmem with hold | hnew
    · exact hq happening hold
    · exact hnew

/-- A wait takes in whatever is in flight, and the answers to what the host asks back meanwhile. -/
lemma Discreet.attend_quiet (hc : Discreet c P) (hs : Receptive P s) : Quiet P (c.attend s) := by
  have hround : Receptive P (c.round s) := hc.receptive (Evolves.round (P := fun _ => True)) hs
  have hasks : ∀ happening ∈ (c.round s).queue, asksBack happening = false :=
    hc.takeIn_asks (s := { s with queue := [] }) s.queue hs.controller hs.free
      fun _ hmem => absurd hmem List.not_mem_nil
  have hstill : Still P (c.round s) := ⟨hround.controller, hasks, hround.attended, hround.free.1⟩
  exact hstill.quiet_round

end Receiving

section TakingDown

variable {c : Controller σ} {P : σ → Prop} {s t : System σ}

/-- The stack is down, and none of the flags of its discovery is left. -/
structure AllDown (flags : Flags) : Prop where
  enabled : flags.enabled = false
  disabling : flags.disabling = false
  rf : flags.rf = false
  discovery : flags.discovery = false
  polling : flags.polling = false
  tagActive : flags.tagActive = false
  reconnecting : flags.reconnecting = false

/-- A quiet system whose stack is down. -/
def Down (P : σ → Prop) (s : System σ) : Prop := Quiet P s ∧ AllDown s.host.flags

lemma Down.attend (hs : Down P s) : Down P (c.attend s) := by
  obtain ⟨hquiet, hdown⟩ := hs
  refine ⟨hquiet.still.quiet_attend, ?_⟩
  rw [hquiet.attend_flags]
  exact hdown

/-- What taking the stack down does before it comes to the controller itself. -/
def ceasing : Op σ Unit := do
  Op.update Change.disabling.apply
  CardEmulation.takeDown
  if ← Op.read (·.flags.rf) then do
    let _ ← Radio.stopDiscovery

/-- What it does from then on. -/
def shuttingOff : Op σ Bool := do
  let accepted ← Lifecycle.disableGracefully
  Op.update Change.down.apply
  let _ ← Op.send .adaptationClose
  return accepted

/-- An active stack is taken down in these two parts. -/
lemma takeDown_active (h : s.host.flags.active = true) :
    (Lifecycle.takeDown : Op σ Bool).run c.alone s = (Op.reserving .lifecycle (do
      ceasing
      shuttingOff)).run c.alone s := by
  have hparts : (do
      ceasing
      shuttingOff : Op σ Bool) = (do
        Op.update Change.disabling.apply
        CardEmulation.takeDown
        if ← Op.read (·.flags.rf) then do
          let _ ← Radio.stopDiscovery
        shuttingOff) := by
    unfold ceasing
    simp only [bind_assoc]
    refine bind_congr fun _ => bind_congr fun _ => bind_congr fun running => ?_
    cases running with
    | true => rfl
    | false => rfl
  unfold Lifecycle.takeDown
  rw [Op.run_bind, Op.run_read, h, hparts]
  rfl

/-- By the time that taking the stack down comes to the controller itself, all that was in flight has
arrived. -/
lemma Discreet.ceasing_leads (hc : Discreet c P) :
    Leads c (Receptive P) (ceasing : Op σ Unit) fun _ => Quiet P := by
  have hro : Orderly Routine c.alone := orderly_alone Routine c
  have hbegun : Leads c (Receptive P) (Op.update Change.disabling.apply : Op σ Unit)
      fun _ => Receptive P := fun s hs => hs.mapHost rfl
  have hcards : Leads c (Receptive P) (CardEmulation.takeDown : Op σ Unit) fun _ => Quiet P := by
    intro s hs
    have hrested := hc.receptive (deactivateRunning_keepsTo hro sparesMode_routine s) hs
    have hasked : Receptive P (c.issue .caller .deregisterNfcees
        ((CardEmulation.deactivateRunning : Op σ Unit).run c.alone s).2).2 :=
      hc.receptive (Evolves.request (P := fun _ => True) _ trivial nofun) hrested
    exact hc.attend_quiet hasked
  have hstop : Leads c (Quiet P) (Radio.stopDiscovery : Op σ Bool) fun _ => Quiet P :=
    hc.routine_leads (stopDiscovery_keepsTo hro sparesMode_routine)
  refine hbegun.bind fun _ => hcards.bind fun _ => leads_read fun running => ?_
  cases running with
  | true => exact hstop.bind fun _ => leads_pure _ fun _ h => h
  | false => exact leads_pure _ fun _ h => h

lemma Discreet.shuttingOff_leads (hc : Discreet c P) :
    Leads c (Quiet P) (shuttingOff : Op σ Bool) fun _ => Down P := by
  have hdisable : Leads c (Quiet P) (Lifecycle.disableGracefully : Op σ Bool) fun _ => Quiet P := by
    refine leads_read fun enabled => ?_
    split
    · refine (hc.disabling_leads true).bind fun outcome => ?_
      split
      · exact leads_pure _ fun _ h => h
      · exact leads_pure _ fun _ h => h
    · exact leads_pure _ fun _ h => h
  have hdown : Leads c (Quiet P) (Op.update Change.down.apply : Op σ Unit) fun _ => Down P :=
    fun s hs => ⟨hs.mapHost _, rfl, rfl, rfl, rfl, rfl, rfl, rfl⟩
  -- What is in flight by now says nothing of a tag, so no flag is raised again.
  have hclose : Leads c (Down P) (Op.send .adaptationClose) fun _ => Down P := by
    rintro s ⟨hquiet, hflags⟩
    have hasked : Down P (c.issue .caller .adaptationClose s).2 :=
      ⟨hc.issue_quiet .caller trivial hquiet, hflags⟩
    exact hasked.attend
  exact hdisable.bind fun _ => hdown.bind fun _ => hclose.bind fun _ => leads_pure _ fun _ h => h

/-- Taking an active stack down clears every flag of the stack and its discovery, whatever is in flight and
whatever the controller refuses. -/
lemma Discreet.takeDown_leads (hc : Discreet c P) :
    Leads c (fun s => (Receptive P s ∧ s.host.flags.active = true) ∧ s.host.inUse = [])
      (Lifecycle.takeDown : Op σ Bool) fun _ => Down P := by
  rintro s ⟨⟨hs, hactive⟩, hidle⟩
  rw [takeDown_active hactive]
  have hparts := hc.ceasing_leads.bind fun _ => hc.shuttingOff_leads
  exact lifecycle_leads (fun s hs => hs.mapHost rfl)
    (fun _ t ht => ⟨ht.1.late, ht.1.mapHost _, ht.2⟩) hparts s ⟨hs, hidle⟩

lemma Quiet.receptive (hs : Quiet P s) (hidle : s.host.inUse = []) : Receptive P s :=
  ⟨hs.controller, hs.attended, free_of_idle hs.late hidle⟩

lemma Compliant.takeDown_leads (hc : Compliant c P) :
    Leads c (fun s => (Quiet P s ∧ s.host.flags.active = true) ∧ s.host.inUse = [])
      (Lifecycle.takeDown : Op σ Bool) fun _ => Down P :=
  fun s hs => hc.discreet.takeDown_leads s ⟨⟨hs.1.1.receptive hs.2, hs.1.2⟩, hs.2⟩

end TakingDown

section Failing

variable {c : Controller σ} {P : σ → Prop} {s t : System σ}

/-- While nobody receives events the stack is not enabled. -/
def Woken (s : System σ) : Prop := s.receiver = .nobody → s.host.flags.enabled = false

lemma change_enabled (change : Change) {host : Host} (h : host.flags.enabled = false) :
    (change.apply host).flags.enabled = false := by
  cases change with
  | waits f hf =>
    change (f host).flags.enabled = false
    rw [hf.flags]
    exact h
  | welcome act =>
    change (welcomed act host).flags.enabled = false
    unfold welcomed
    split
    · exact h
    · exact h
  | down => rfl
  | _ => exact h

/-- A stack is enabled only by an event that the host received. -/
lemma Evolves.woken {Q : Act → Prop} (h : Evolves c Q s t) : Woken s → Woken t := by
  have hsteps : FollowsSteps c Q fun s t => Woken s → Woken t :=
    { refl := fun _ => id
      trans := fun h₁ h₂ hs => h₂ (h₁ hs)
      queue := fun _ _ => id
      deliver := fun s happening _ hs hn => by
        have hbefore : s.receiver = .nobody := (deliver_receiver c happening s).symm.trans hn
        cases happening with
        | abortAll => exact hs hbefore
        | abortSession => exact hs hbefore
        | event event =>
          rw [deliver_nobody c hbefore]
          exact hs hbefore
      request := fun request s _ _ hs hn => by
        by_cases hreq : request = .enable
        · have hhost : (c.issue .caller request s).2.receiver = .host := if_pos hreq
          rw [hhost] at hn
          exact absurd hn nofun
        · rw [issue_receiver c .caller request s hreq] at hn
          exact hs hn
      query := fun _ => id
      change := fun change _ _ hs hn => change_enabled change (hs hn)
      inUse := fun _ _ => id
      heldUp := fun _ => id
      late := fun _ _ _ => id
      selects := fun _ _ _ => id }
  exact hsteps.evolves h

lemma active_receives (hactive : s.host.flags.active = true) (ha : Attended s) (hw : Woken s) :
    s.receiver = .host := by
  rcases ha with hhost | ⟨hnobody, -⟩
  · exact hhost
  · have hdown : s.host.flags.enabled = false := hw hnobody
    unfold Flags.active at hactive
    rw [hdown] at hactive
    exact absurd hactive nofun

/-- In the round in which a failure arrives an active stack asks for its controller to be disabled. -/
lemma Compliant.round_failure (hc : Compliant c P) (hs : Quiet P s) (hr : s.receiver = .host)
    (hactive : s.host.flags.active = true) {failure : Event} (hfailure : isFailure failure = true) :
    Answering P (.disable false) (c.round (s.arrive failure)) ∧
      .event .disabled ∈ (c.round (s.arrive failure)).queue ∧
      (c.round (s.arrive failure)).host.flags =
        { s.host.flags with enabled := true, disabling := true, discovery := false, polling := false } := by
  have harrived : s.arrive failure = { s with queue := s.queue ++ [.event failure] } := by
    unfold System.arrive
    rw [hr, if_neg nofun]
  -- All that was in flight comes before the failure.
  obtain ⟨t, ht, hheard, htaken⟩ := takeIn_still (c := c) (s := { s with queue := [] }) hs.still.asks
    hs.late hr [.event failure]
  have hflags : t.host.flags = s.host.flags := by
    rw [hheard]
    exact hearAll_neutral hs.neutral s.host
  have htold : (t.record (.delivered failure)).host.flags.active = true := by
    change t.host.flags.active = true
    rw [hflags]
    exact hactive
  have hreceiver : t.receiver = .host := ht.receiver.trans hr
  obtain ⟨host, hasked⟩ := reactToFailure_active (c := c) htold
  have hround : c.round (s.arrive failure) = { (c.issue .reaction (.disable false)
      { t.record (.delivered failure) with host }).2 with host := hearFailure t.host } := by
    rw [harrived]
    change c.takeIn (s.queue ++ [.event failure]) { s with queue := [] } = _
    rw [htaken, Controller.takeIn, ht.late, hs.late]
    exact (deliver_failure c hreceiver hfailure).trans hasked
  rw [hround]
  have hquiet : Quiet P { t.record (.delivered failure) with host } := by
    refine ⟨?_, fun happening hmem => ?_, .inl hreceiver, ht.late.trans hs.late⟩
    · change P t.controller
      rw [ht.controller]
      exact hs.controller
    · change happening ∈ t.queue at hmem
      rw [ht.queue] at hmem
      exact absurd hmem List.not_mem_nil
  have hanswering := hc.discreet.issue_answering .reaction (.disable false) Request.noConfusion hquiet
  refine ⟨⟨hanswering.controller, hanswering.awaited, hanswering.attended, hanswering.late⟩, ?_, ?_⟩
  · exact mem_issue_accepted .reaction hreceiver (hc.accepts _ _ hquiet.controller)
      (hc.disables false _ hquiet.controller)
  · unfold hearFailure
    dsimp only
    rw [hflags, hactive]

/-- A failure of the controller disables an active stack, and leaves its other flags as they are. -/
lemma Compliant.failing (hc : Compliant c P) (hs : Quiet P s) (hr : s.receiver = .host)
    (hactive : s.host.flags.active = true) {failure : Event} (hfailure : isFailure failure = true) :
    (c.attend (s.arrive failure)).host.flags =
      { s.host.flags with enabled := false, disabling := false, discovery := false, polling := false } := by
  obtain ⟨hanswering, hdisabled, hflags⟩ := hc.round_failure hs hr hactive hfailure
  unfold Controller.attend
  rw [hanswering.round_disabled hdisabled, hflags]

end Failing

/-- An active stack with a compliant controller goes down both ways. Taken down by a caller it keeps no
flag of its discovery. After a failure of the controller, and the disabling that follows, it keeps three
of them as they were, so that both ways agree only where these were not set. -/
theorem ways_down (c : Controller σ) (companions : List (Companion σ)) (config : Config) (x : σ)
    (deeds : List Deed) {P : σ → Prop} (hc : Compliant c P) (failure : Event)
    (hfailure : isFailure failure = true)
    (hx : P (ran c companions config x deeds).controller)
    (hq : ∀ happening ∈ (ran c companions config x deeds).queue, isNeutral happening = true)
    (hactive : (ran c companions config x deeds).host.flags.active = true) :
    let s := ran c companions config x deeds
    let taken := ((hostMove .takeDown).run c.alone s).2
    let failed := ((Move.event failure).perform.run c.alone s).2
    AllDown taken.host.flags ∧
      failed.host.flags =
        { s.host.flags with enabled := false, disabling := false, discovery := false, polling := false } ∧
      (AllDown failed.host.flags ↔
        s.host.flags.rf = false ∧ s.host.flags.tagActive = false ∧
          s.host.flags.reconnecting = false) := by
  obtain ⟨hidle, hlate, hattended⟩ := ran_at_rest c companions config x deeds
  have hevolves : Evolves c (fun _ => True) (booted config x) (ran c companions config x deeds) :=
    ran_evolves (fun _ => trivial) c companions config x deeds
  have hwoken : Woken (ran c companions config x deeds) := hevolves.woken fun _ => rfl
  dsimp only
  generalize ran c companions config x deeds = s at *
  have hquiet : Quiet P s := ⟨hx, hq, hattended, hlate⟩
  have hr : s.receiver = .host := active_receives hactive hattended hwoken
  have hdown : Down P ((hostMove .takeDown).run c.alone s).2 :=
    Down.attend (hc.takeDown_leads s ⟨⟨hquiet, hactive⟩, hidle⟩)
  have hfailed : ((Move.event failure).perform.run c.alone s).2.host.flags =
      { s.host.flags with enabled := false, disabling := false, discovery := false, polling := false } :=
    hc.failing hquiet hr hactive hfailure
  refine ⟨hdown.2, hfailed, ?_⟩
  rw [hfailed]
  exact ⟨fun h => ⟨h.rf, h.tagActive, h.reconnecting⟩, fun h => ⟨rfl, rfl, h.1, rfl, rfl, h.2.1, h.2.2⟩⟩

section Scripted

lemma plain_compliant : Compliant Script.controller Plain where
  stays request _ h := h.stays request
  accepts request script h := by
    change (script.respond request).1.verdict.isOk = true
    rw [h.accepts]
    rfl
  disables graceful script h := by
    change Happening.event .disabled ∈ (script.respond (.disable graceful)).1.happenings
    rw [h.respond rfl]
    exact List.mem_singleton_self _
  quiet request _ h := h.quiet request

/-- Without discovery and without a tag both ways agree. -/
theorem idle_stack_down :
    AllDown ((Move.event .transportError).perform.run Script.controller.alone
      (ran Script.controller [] {} {} [.move (.call (.host .bringUp))])).2.host.flags := by
  have hways := ways_down Script.controller [] {} {} [.move (.call (.host .bringUp))] plain_compliant
    .transportError rfl ⟨rfl, rfl, rfl, rfl⟩ (fun _ hmem => absurd hmem List.not_mem_nil) rfl
  exact hways.2.2.mpr ⟨rfl, rfl, rfl⟩

/-- A stack that polls for tags and holds an active card. -/
def holdingCard : System Script :=
  ran Script.controller [] {} {}
    [.move (.call (.host (.setListener .recording))), .move (.call (.host .bringUp)),
      .move (.call (.host (.enableDiscovery none false false false))),
      .move (.event (.activated (Sample.isoDepCard 1)))]

/-- The controller accepts and completes every request, and yet a failure of it leaves the stack with radio
discovery running and a tag active. Taken down, the stack keeps neither. -/
theorem failure_leaves_card :
    Compliant Script.controller Plain ∧ Plain holdingCard.controller ∧ holdingCard.queue = [] ∧
      holdingCard.host.flags.active = true ∧
      AllDown ((hostMove .takeDown).run Script.controller.alone holdingCard).2.host.flags ∧
      ((Move.event .transportError).perform.run Script.controller.alone holdingCard).2.host.flags =
        { rf := true, tagActive := true, discoveryDuration := 500 } :=
  ⟨plain_compliant, ⟨rfl, rfl, rfl, rfl⟩, rfl, rfl, ⟨rfl, rfl, rfl, rfl, rfl, rfl, rfl⟩, rfl⟩

end Scripted

end NfcStack.Proofs
