import NfcStack.Proofs.Cooperation

/-!
# Taking the stack down and up

Taking the stack down leaves a stack alone that is not active, and bringing it up one that is enabled. A
stack that is enabled and on its way down is left alone by both.
-/

namespace NfcStack.Proofs

variable {σ α : Type} {c : Controller σ} {P : σ → Prop} {s : System σ}

section Heard

/-- A stack whose way down is going to be ended by nothing that is in flight. -/
def Stuck (s : System σ) : Prop :=
  life s.host = (true, true) ∧ ∀ happening ∈ s.queue, isCalm happening = true

lemma hear_mends {happening : Happening} (h : mends happening = true) (host : Host) :
    life (hearHappening happening host) ≠ (true, true) := by
  cases happening with
  | abortAll => exact absurd h nofun
  | abortSession => exact absurd h nofun
  | event event =>
    cases event with
    | enabled status =>
      intro hlife
      exact absurd (congrArg Prod.snd hlife) nofun
    | disabled =>
      intro hlife
      exact absurd (congrArg Prod.snd hlife) nofun
    | _ => exact absurd h nofun

lemma hearAll_stuck {happenings : List Happening}
    (ht : ∀ happening ∈ happenings, isTame happening = true) (host : Host) :
    life (hearAll happenings host) = (true, true) ↔
      life host = (true, true) ∧ ∀ happening ∈ happenings, isCalm happening = true := by
  induction happenings generalizing host with
  | nil => exact ⟨fun h => ⟨h, fun _ hmem => absurd hmem List.not_mem_nil⟩, fun h => h.1⟩
  | cons first rest ih =>
    obtain ⟨hfirst, hrest⟩ := List.forall_mem_cons.mp ht
    rw [hearAll_cons, ih hrest, List.forall_mem_cons]
    cases hcalm : isCalm first with
    | true =>
      rw [hear_calm hcalm host]
      exact ⟨fun h => ⟨h.1, rfl, h.2⟩, fun h => ⟨h.1, h.2.2⟩⟩
    | false =>
      have hmends : mends first = true := by
        unfold isTame at hfirst
        rw [hcalm, Bool.false_or] at hfirst
        exact hfirst
      exact ⟨fun h => absurd h.1 (hear_mends hmends host), fun h => absurd h.2.1 nofun⟩

lemma eq_of_completes_enable {happening : Happening} (h : completes .enable happening = true) :
    happening = .event (.enabled .ok) := by
  cases happening with
  | abortAll => exact absurd h nofun
  | abortSession => exact absurd h nofun
  | event event =>
    cases event with
    | enabled status =>
      have hok : status = .ok := of_decide_eq_true h
      rw [hok]
    | _ => exact absurd h nofun

/-- Happenings among which the only news of the life cycle is that the stack is enabled. -/
def OnlyEnabling (happenings : List Happening) : Prop :=
  ∀ happening ∈ happenings, isCalm happening = true ∨ completes .enable happening = true

lemma hearAll_up {happenings : List Happening} (hown : OnlyEnabling happenings) {host : Host}
    (h : life host = (true, false) ∨ .event (.enabled .ok) ∈ happenings) :
    life (hearAll happenings host) = (true, false) := by
  induction happenings generalizing host with
  | nil => exact h.resolve_right List.not_mem_nil
  | cons first rest ih =>
    obtain ⟨hfirst, hrest⟩ := List.forall_mem_cons.mp hown
    rw [hearAll_cons]
    refine ih hrest ?_
    rcases hfirst with hcalm | hcompletes
    · rw [hear_calm hcalm]
      rcases h with hup | hmem
      · exact .inl hup
      · rcases List.mem_cons.mp hmem with heq | hmem
        · rw [← heq] at hcalm
          exact absurd hcalm nofun
        · exact .inr hmem
    · rw [eq_of_completes_enable hcompletes]
      exact .inl rfl

/-- Whoever waits for the stack to be enabled hears that it is. -/
lemma hearAll_answer {happenings : List Happening} (hown : OnlyEnabling happenings) {host : Host}
    (harmed : host.enable.armed = true) (hmem : .event (.enabled .ok) ∈ happenings) :
    (hearAll happenings host).enable.value = some .ok := by
  have hanswers (event : Event) (hevent : .event event ∈ happenings) (status : Status)
      (hanswer : enableAnswer event = some status) : status = .ok := by
    rcases hown (.event event) hevent with hcalm | hcompletes
    · cases event with
      | enabled status => exact absurd hcalm nofun
      | _ => exact absurd hanswer nofun
    · obtain rfl := Happening.event.inj (eq_of_completes_enable hcompletes)
      exact (Option.some.inj hanswer).symm
  have hvalue := (hears_enable.all happenings host harmed).2
  change (hearAll happenings host).enable.value = _ at hvalue
  rw [hvalue, lastAnswer_of_all hanswers hmem rfl]
  rfl

end Heard

section Lifecycle

variable {stage : Bool × Bool}

/-- Arming and closing a venue disturbs nothing. -/
lemma AtPeace.venue {venue : Venue α} (hv : OnlyHolds venue) (f : Rendezvous α → Rendezvous α)
    (hs : AtPeace P s) :
    AtPeace P (s.mapHost (venue.map f)) ∧ life (s.mapHost (venue.map f)).host = life s.host := by
  have hinUse : (venue.map f s.host).usesField = s.host.usesField := by
    unfold Host.usesField
    rw [(hv f).inUse]
  exact ⟨hs.mapHost (hinUse.trans hs.free.2), life_of_flags ((hv f).flags s.host)⟩

/-- What the host hears while it waits to be enabled: nothing else of the life cycle, and that it is. -/
lemma Obliging.enabling_heard (hc : Obliging c P) (hpeace : AtPeace P s) :
    let asked := (c.issue .caller .enable s).2
    ∃ heard, (c.attend asked).host = hearAll heard asked.host ∧
      OnlyEnabling heard ∧ .event (.enabled .ok) ∈ heard := by
  intro asked
  have htamed : Tamed P asked := hc.issue_tamed .caller .enable hpeace.tamed
  have hfree : Free asked := hpeace.free
  have hround : AtPeace P (c.round asked) := hc.round_atPeace htamed hfree
  have hqueue : asked.queue = s.queue ++ (c.respond .enable s.controller).1.happenings :=
    hc.enable_queue hpeace.tamed.controller
  refine ⟨asked.queue ++ (c.round asked).queue, ?_, ?_, ?_⟩
  · unfold Controller.attend
    rw [round_hears hround.free hround.tamed.attended, round_hears hfree htamed.attended,
      hearAll_append]
  · intro happening hmem
    rcases List.mem_append.mp hmem with hfirst | hsecond
    · rw [hqueue, List.mem_append] at hfirst
      rcases hfirst with hold | hnew
      · exact .inl (hpeace.calm happening hold)
      · exact hc.quiet .enable s.controller hpeace.tamed.controller happening hnew
    · exact .inl (hround.calm happening hsecond)
  · have hanswered : .event (.enabled .ok) ∈ asked.queue := by
      rw [hqueue, List.mem_append]
      exact .inr (hc.enables s.controller hpeace.tamed.controller)
    exact List.mem_append_left _ hanswered

/-- A request to enable the controller is confirmed, and the stack is up. -/
lemma Obliging.enabling_leads (hc : Obliging c P) :
    Leads c (RestsAt P stage) (Op.callForever Venue.enable .enable)
      fun outcome t => outcome = .completed .ok ∧ RestsAt P (true, false) t := by
  rintro s ⟨hpeace, -⟩
  let armed := s.mapHost (Venue.enable.map .arm)
  let asked := (c.issue .caller .enable armed).2
  have hv : OnlyHolds Venue.enable := fun _ _ => rfl
  have harmed : AtPeace P armed := (hpeace.venue hv .arm).1
  have htamed : Tamed P asked := hc.issue_tamed .caller .enable harmed.tamed
  obtain ⟨heard, hattended, hown, hconfirmed⟩ := hc.enabling_heard harmed
  have hup : life (c.attend asked).host = (true, false) := by
    rw [hattended]
    exact hearAll_up hown (.inr hconfirmed)
  have hvalue : (c.attend asked).host.enable.value = some .ok := by
    rw [hattended]
    exact hearAll_answer hown rfl hconfirmed
  -- Closing the venue behind the answer leaves the life cycle as it was heard.
  have hdone := (hc.attend_atPeace htamed harmed.free).venue hv .disarm
  have hok : (c.issue .caller .enable armed).1.isOk = true :=
    hc.accepts s.controller hpeace.tamed.controller
  rw [callForever_alone]
  dsimp only
  rw [if_pos hok]
  refine ⟨?_, hdone.1, hdone.2.trans hup⟩
  change (Rendezvous.unboundedOutcome (c.attend asked).host.enable) = _
  unfold Rendezvous.unboundedOutcome
  rw [hvalue]

/-- Whatever becomes of a request to disable the controller, nothing of it stays in flight. -/
lemma Obliging.disabling_leads (hc : Obliging c P) (graceful : Bool) :
    Leads c (AtPeace P) (Op.callForever Venue.disable (.disable graceful)) fun _ => AtPeace P := by
  intro s hpeace
  let armed := s.mapHost (Venue.disable.map .arm)
  have hv : OnlyHolds Venue.disable := fun _ _ => rfl
  have harmed : AtPeace P armed := (hpeace.venue hv .arm).1
  have htamed := hc.issue_tamed .caller (.disable graceful) harmed.tamed
  rw [callForever_alone]
  dsimp only
  split
  · exact ((hc.attend_atPeace htamed harmed.free).venue hv .disarm).1
  · next hrefused =>
    have hqueue : (c.issue .caller (.disable graceful) armed).2.queue = s.queue := issue_refused hrefused
    have hasked : AtPeace P (c.issue .caller (.disable graceful) armed).2 :=
      ⟨htamed, by rw [hqueue]; exact hpeace.calm, harmed.free⟩
    exact (hasked.venue hv .disarm).1

lemma restsAt_taken (hs : RestsAt P stage s) :
    RestsAt P stage (s.mapHost (takeResource .lifecycle)) :=
  ⟨hs.1.mapHost hs.1.free.2, hs.2⟩

lemma restsAt_given (hs : RestsAt P stage s) :
    s.late = none ∧ RestsAt P stage (s.mapHost (giveBack [])) :=
  ⟨hs.1.free.1, hs.1.mapHost rfl, hs.2⟩

/-- The stack is brought up unless it is enabled, and in any case this is called a success. -/
lemma Obliging.bringUp_leads (hc : Obliging c P) :
    Leads c (fun s => RestsAt P stage s ∧ s.host.inUse = []) (Lifecycle.bringUp : Op σ Bool)
      fun done t => done = true ∧ RestsAt P (true, stage.1 && stage.2) t := by
  have hro : Orderly Routine c.alone := orderly_alone Routine c
  have hestablished : Leads c (RestsAt P (true, false)) (Lifecycle.establish : Op σ Unit)
      fun _ => RestsAt P (true, false) :=
    hc.routine_leads (lifecycle_establish_keepsTo hro fun _ h => h)
  obtain ⟨enabled, disabling⟩ := stage
  refine lifecycle_leads (fun _ => restsAt_taken) ?_ ?_
  · rintro done t ⟨hdone, hrest⟩
    exact ⟨(restsAt_given hrest).1, hdone, (restsAt_given hrest).2⟩
  refine leads_known enabled (fun s hs => congrArg Prod.fst hs.2) ?_
  cases enabled with
  | true =>
    rw [if_pos rfl]
    exact leads_pure true fun _ h => ⟨rfl, h⟩
  | false =>
    have hopened : Leads c (RestsAt P (false, disabling)) (Op.send .adaptationOpen)
        fun _ => RestsAt P (false, disabling) :=
      hc.routine_leads (keepsTo_send hro trivial nofun)
    rw [if_neg Bool.false_ne_true]
    refine hopened.bind fun _ => hc.enabling_leads.bind fun outcome => ?_
    refine leads_given fun houtcome => ?_
    refine leads_known true (fun s hs => congrArg Prod.fst hs.2) ?_
    rw [houtcome, if_pos rfl]
    exact hestablished.bind fun _ => leads_pure true fun _ h => ⟨rfl, h⟩

/-- An active stack is taken down, whatever is on its way to the host. -/
theorem Obliging.takeDown_leads (hc : Obliging c P) :
    Leads c (fun s => (Tamed P s ∧ Free s ∧ s.host.flags.active = true) ∧ s.host.inUse = [])
      (Lifecycle.takeDown : Op σ Bool) fun _ t => RestsAt P (false, false) t := by
  have hro : Orderly Routine c.alone := orderly_alone Routine c
  have hcards : Leads c (fun s => Tamed P s ∧ Free s) (CardEmulation.takeDown : Op σ Unit)
      fun _ => AtPeace P := by
    rintro s ⟨htamed, hfree⟩
    have hkept := deactivateRunning_keepsTo hro sparesMode_routine s
    have hquiet := (hc.evolves hkept htamed).tamed
    exact hc.attend_atPeace (hc.issue_tamed .caller .deregisterNfcees hquiet) (hkept.free hfree)
  have hstop : Leads c (AtPeace P) (Radio.stopDiscovery : Op σ Bool) fun _ => AtPeace P :=
    fun s hs => (hc.atPeace (stopDiscovery_keepsTo hro sparesMode_routine s) hs).1
  have hdisable : Leads c (AtPeace P) (Lifecycle.disableGracefully : Op σ Bool) fun _ => AtPeace P := by
    refine leads_read fun enabled => ?_
    split
    · refine (hc.disabling_leads true).bind fun outcome => ?_
      split
      · exact leads_pure _ fun _ h => h
      · exact leads_pure _ fun _ h => h
    · exact leads_pure _ fun _ h => h
  -- Only here is the life cycle settled; it is so whether or not the controller was disabled.
  have hdown : Leads c (AtPeace P) (Op.update Change.down.apply : Op σ Unit)
      fun _ => RestsAt P (false, false) := by
    intro s hs
    exact ⟨hs.mapHost hs.free.2, rfl⟩
  have hclose : Leads c (RestsAt P (false, false)) (Op.send .adaptationClose)
      fun _ => RestsAt P (false, false) := hc.routine_leads (keepsTo_send hro trivial nofun)
  have hend : Leads c (AtPeace P) (do
      let accepted ← Lifecycle.disableGracefully
      Op.update Change.down.apply
      let _ ← Op.send .adaptationClose
      return accepted : Op σ Bool) fun _ => RestsAt P (false, false) :=
    hdisable.bind fun _ => hdown.bind fun _ => hclose.bind fun _ => leads_pure _ fun _ h => h
  have hbegun : Leads c (fun s => Tamed P s ∧ Free s ∧ s.host.flags.active = true)
      (Op.update Change.disabling.apply : Op σ Unit) fun _ s => Tamed P s ∧ Free s := by
    rintro s ⟨htamed, hfree, -⟩
    exact ⟨htamed.mapHost _, hfree⟩
  refine leads_known true (fun s hs => hs.1.2.2) ?_
  rw [if_pos rfl]
  refine lifecycle_leads ?_ (fun _ _ => restsAt_given) ?_
  · rintro s ⟨htamed, hfree, hactive⟩
    exact ⟨htamed.mapHost _, hfree, hactive⟩
  · refine hbegun.bind fun _ => hcards.bind fun _ => leads_read fun running => ?_
    cases running with
    | true => exact hstop.bind fun _ => hend
    | false => exact hend

end Lifecycle

section Moves

lemma hostMove_inUse (call : HostCall) (s : System σ) :
    ((hostMove call).run c.alone s).2.host.inUse = s.host.inUse := by
  have hevolves : Evolves c (fun _ => True) s ((hostMove call).run c.alone s).2 :=
    perform_keepsTo (orderly_alone _ c) (fun _ => trivial) _ s
  exact hevolves.inUse

lemma takeDown_inactive (h : s.host.flags.active = false) :
    (Lifecycle.takeDown : Op σ Bool).run c.alone s = (true, s) := by
  unfold Lifecycle.takeDown
  rw [Op.run_bind, Op.run_read, h]
  rfl

lemma active_of_life {host : Host} {disabling : Bool} (h : life host = (true, disabling)) :
    host.flags.active = !disabling := by
  have henabled : host.flags.enabled = true := congrArg Prod.fst h
  have hdisabling : host.flags.disabling = disabling := congrArg Prod.snd h
  unfold Flags.active
  rw [henabled, hdisabling, Bool.true_and]

/-- After an attempt to take it down a stack is on its way down for good if it was before. -/
lemma Obliging.down_rests (hc : Obliging c P) (hs : Tamed P s) (hf : Free s)
    (hidle : s.host.inUse = []) :
    ∃ stage, RestsAt P stage ((hostMove .takeDown).run c.alone s).2 ∧
      (stage = (true, true) ↔ Stuck s) := by
  by_cases hactive : s.host.flags.active = true
  · have hdown := hc.takeDown_leads s ⟨⟨hs, hf, hactive⟩, hidle⟩
    refine ⟨(false, false), hc.attend_leads _ hdown, fun h => absurd h nofun, fun hstuck => ?_⟩
    rw [active_of_life hstuck.1] at hactive
    exact absurd hactive nofun
  · have hnot : s.host.flags.active = false := Bool.eq_false_iff.mpr hactive
    have hrun : ((hostMove .takeDown).run c.alone s).2 = c.attend s := by
      change c.attend ((Lifecycle.takeDown : Op σ Bool).run c.alone s).2 = c.attend s
      rw [takeDown_inactive hnot]
    rw [hrun]
    refine ⟨life (c.attend s).host, ⟨hc.attend_atPeace hs hf, rfl⟩, ?_⟩
    rw [hc.attend_life hs hf]
    exact hearAll_stuck hs.queue s.host

lemma stuck_stage (stage : Bool × Bool) :
    (stage.1 && stage.2) = true ↔ stage = (true, true) := by
  obtain ⟨enabled, disabling⟩ := stage
  rw [Bool.and_eq_true, Prod.mk.injEq]

lemma Obliging.up_rests (hc : Obliging c P) {stage : Bool × Bool} (hs : RestsAt P stage s)
    (hidle : s.host.inUse = []) :
    ((hostMove .bringUp).run c.alone s).1 = .verdict true ∧
      (((hostMove .bringUp).run c.alone s).2.host.flags.active = true ↔ ¬stage = (true, true)) ∧
      (Stuck ((hostMove .bringUp).run c.alone s).2 ↔ stage = (true, true)) := by
  obtain ⟨hdone, hup⟩ := hc.bringUp_leads s ⟨hs, hidle⟩
  obtain ⟨hpeace, hlife⟩ : RestsAt P (true, stage.1 && stage.2) ((hostMove .bringUp).run c.alone s).2 :=
    hc.attend_leads _ hup
  refine ⟨congrArg Answer.verdict hdone, ?_, fun hstuck => ?_, fun hstage => ?_⟩
  · rw [active_of_life hlife, Bool.not_eq_true', ← Bool.not_eq_true, stuck_stage]
  · exact (stuck_stage stage).mp (congrArg Prod.snd (hlife.symm.trans hstuck.1))
  · refine ⟨?_, hpeace.calm⟩
    rw [hlife, (stuck_stage stage).mpr hstage]

end Moves

end NfcStack.Proofs
