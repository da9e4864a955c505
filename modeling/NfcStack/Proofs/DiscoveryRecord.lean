import NfcStack.Proofs.RadioOrders

/-!
# What the stack remembers of discovery

Two marks say that discovery runs. The one of the radio follows completions that an order waited for. The
other one is set and cleared at the end of the operations that enable and disable discovery, whatever came
of the orders they gave, and it alone decides whether the next of these operations does anything.
-/

namespace NfcStack.Proofs

variable {σ α : Type} {c : Controller σ} {s t : System σ}

section AtRest

lemma AtRest.begun_free (hs : AtRest s) : Free (inLifecycle s) := by
  refine ⟨hs.late, ?_⟩
  change (Resource.lifecycle :: s.host.inUse).contains .field = false
  rw [hs.idle]
  rfl

lemma AtRest.lifecycle_ends (hs : AtRest s) {op : Op σ α}
    (hop : (op.run c.alone (inLifecycle s)).2 = t) (hlate : t.late = none) :
    ((Op.reserving .lifecycle op).run c.alone s).2 = t.mapHost (giveBack []) := by
  subst hop
  rw [lifecycle_alone hs.idle hlate]

lemma AtRest.lifecycle_undone (hs : AtRest s) : (inLifecycle s).mapHost (giveBack []) = s := by
  have hback : giveBack [] (takeResource .lifecycle s.host) = s.host := by
    unfold giveBack takeResource
    rw [← hs.idle]
  change { s with host := giveBack [] (takeResource .lifecycle s.host) } = s
  rw [hback]

end AtRest

section Records

/-- An acknowledged order leaves the mark of the radio as it says, any other leaves it as it was. -/
lemma RadioOrder.mark_iff (order : RadioOrder) (hs : s.receiver ≠ .session) :
    (order.run.run c.alone s).2.host.flags.rf = true ↔
      (Acknowledged (order.exchange c s) ∧ (order.settled s.host.flags).rf = true) ∨
        (¬Acknowledged (order.exchange c s) ∧ s.host.flags.rf = true) := by
  obtain ⟨-, -, hconfirmed⟩ := order.confirmed_iff (c := c) hs
  obtain ⟨hrf, -⟩ := order.flags_after (c := c) s
  rw [hrf, ← hconfirmed]
  unfold RadioOrder.flagsAfter
  cases (order.run.run c.alone s).1 with
  | true => simp
  | false => simp

lemma startDiscovery_mark (hs : s.receiver ≠ .session) :
    ((Radio.startDiscovery : Op σ Bool).run c.alone s).2.host.flags.rf = true ↔
      Acknowledged (RadioOrder.startDiscovery.exchange c s) ∨ s.host.flags.rf = true := by
  refine (RadioOrder.startDiscovery.mark_iff hs).trans ?_
  have hsettled : (RadioOrder.startDiscovery.settled s.host.flags).rf = true := rfl
  tauto

lemma stopDiscovery_mark (hs : s.receiver ≠ .session) :
    ((Radio.stopDiscovery : Op σ Bool).run c.alone s).2.host.flags.rf = true ↔
      ¬Acknowledged (RadioOrder.stopDiscovery.exchange c s) ∧ s.host.flags.rf = true := by
  refine (RadioOrder.stopDiscovery.mark_iff hs).trans ?_
  have hsettled : ¬(RadioOrder.stopDiscovery.settled s.host.flags).rf = true := Bool.false_ne_true
  tauto

lemma stopPolling_mark (hs : s.receiver ≠ .session) :
    ((Radio.stopPolling : Op σ Bool).run c.alone s).2.host.flags.rf = true ↔
      s.host.flags.rf = true := by
  refine (RadioOrder.stopPolling.mark_iff hs).trans ?_
  have hsettled : (RadioOrder.stopPolling.settled s.host.flags).rf = s.host.flags.rf := rfl
  rw [hsettled]
  tauto

/-- What enabling discovery does before it gives the order to start. -/
def preparing (mask : Option TechMask) (readerMode hostRouting running : Bool) : Op σ Unit := do
  if running then do
    let _ ← Radio.stopDiscovery
  Discovery.configurePolling (Discovery.pollMask mask) readerMode
  CardEmulation.setHostRouting hostRouting
  let _ ← CardEmulation.commit

lemma preparing_keepsTo (mask : Option TechMask) (readerMode hostRouting running : Bool) :
    KeepsTo (fun _ => True) c.alone (preparing mask readerMode hostRouting running : Op σ Unit) := by
  have hR : Composes (fun _ => True) c.alone (Evolves c fun _ => True) := (orderly_alone _ c).composes
  have hf := followsRouting hR (fun _ _ _ => trivial) fun _ _ => trivial
  have hrest : KeepsTo (fun _ => True) c.alone (do
      Discovery.configurePolling (Discovery.pollMask mask) readerMode
      CardEmulation.setHostRouting hostRouting
      let _ ← CardEmulation.commit : Op σ Unit) := by
    refine keepsTo_bind (configurePolling_along hR (fun _ _ _ => trivial) _ _) fun _ => ?_
    refine keepsTo_bind (hf.host _) fun _ => ?_
    exact keepsTo_bind (commit_along hR fun _ _ _ => trivial) fun _ => keepsTo_pure _
  unfold preparing
  split
  · exact keepsTo_bind (stopDiscovery_along hR fun _ _ _ => trivial) fun _ => hrest
  · exact hrest

/-- The system in which enabling discovery gives the order to start. -/
def prepared (c : Controller σ) (mask : Option TechMask) (readerMode hostRouting : Bool) (s : System σ) :
    System σ :=
  ((preparing mask readerMode hostRouting s.host.flags.rf).run c.alone (inLifecycle s)).2

/-- Discovery that was asked for already is left as it is, unless a restart is wanted. -/
def skipsEnabling (restart : Bool) (flags : Flags) : Bool :=
  !flags.active || (flags.discovery && !restart)

def skipsDisabling (flags : Flags) : Bool := !flags.active || !flags.discovery

lemma enable_skips (hs : AtRest s) (mask : Option TechMask) (readerMode hostRouting : Bool)
    {restart : Bool} (hskips : skipsEnabling restart s.host.flags = true) :
    ((Discovery.enable mask readerMode hostRouting restart).run c.alone s).2 = s := by
  have htaken : (!(inLifecycle s).host.flags.active ||
      ((inLifecycle s).host.flags.discovery && !restart)) = true := hskips
  unfold Discovery.enable
  refine (hs.lifecycle_ends (t := inLifecycle s) ?_ hs.late).trans hs.lifecycle_undone
  simp only [Op.run_bind, Op.run_read, htaken, if_true]
  rfl

lemma prepared_evolves (c : Controller σ) (mask : Option TechMask) (readerMode hostRouting : Bool)
    (s : System σ) :
    Evolves c (fun _ => True) (inLifecycle s) (prepared c mask readerMode hostRouting s) :=
  preparing_keepsTo mask readerMode hostRouting s.host.flags.rf (inLifecycle s)

lemma enable_runs (hs : AtRest s) (mask : Option TechMask) (readerMode hostRouting : Bool)
    {restart : Bool} (hruns : skipsEnabling restart s.host.flags = false) :
    ((Discovery.enable mask readerMode hostRouting restart).run c.alone s).2 =
      (((Radio.startDiscovery : Op σ Bool).run c.alone
        (prepared c mask readerMode hostRouting s)).2.mapHost Change.discoveryBegun.apply).mapHost
          (giveBack []) := by
  have ho : Orderly (fun _ => True) c.alone := orderly_alone _ c
  have hstart : KeepsTo (fun _ => True) c.alone (Radio.startDiscovery : Op σ Bool) :=
    startDiscovery_keepsTo ho fun _ _ => trivial
  have hfree := ((prepared_evolves c mask readerMode hostRouting s).trans (hstart _)).free hs.begun_free
  have htaken : (!(inLifecycle s).host.flags.active ||
      ((inLifecycle s).host.flags.discovery && !restart)) = false := hruns
  have hrf : (inLifecycle s).host.flags.rf = s.host.flags.rf := rfl
  unfold Discovery.enable
  refine hs.lifecycle_ends ?_ hfree.1
  rw [Op.run_bind, Op.run_read]
  simp only [htaken, hrf]
  unfold prepared preparing
  cases s.host.flags.rf with
  | false =>
    simp only [Bool.false_eq_true, if_false, Op.run_bind, Op.run_updateFlags, Op.run_pure]
    rfl
  | true =>
    simp only [Bool.false_eq_true, if_false, if_true, Op.run_bind, Op.run_updateFlags, Op.run_pure]
    rfl

lemma disable_skips (hs : AtRest s) (hskips : skipsDisabling s.host.flags = true) :
    ((Discovery.disable : Op σ Unit).run c.alone s).2 = s := by
  have htaken : (!(inLifecycle s).host.flags.active || !(inLifecycle s).host.flags.discovery) = true :=
    hskips
  unfold Discovery.disable
  refine (hs.lifecycle_ends (t := inLifecycle s) ?_ hs.late).trans hs.lifecycle_undone
  simp only [Op.run_bind, Op.run_read, htaken, if_true]
  rfl

/-- What follows in disabling discovery once the order to stop was given. -/
def unpolled : Op σ Unit := do
  if ← Op.read (·.flags.polling) then do
    let _ ← Radio.stopPolling

lemma unpolled_keepsTo : KeepsTo (fun _ => True) c.alone (unpolled : Op σ Unit) := by
  have ho : Orderly (fun _ => True) c.alone := orderly_alone _ c
  refine keepsTo_bind (keepsTo_read _) fun polling => ?_
  split
  · exact keepsTo_bind (stopPolling_keepsTo ho fun _ _ => trivial) fun _ => keepsTo_pure _
  · exact keepsTo_pure _

lemma unpolled_mark (hs : s.receiver ≠ .session) :
    ((unpolled : Op σ Unit).run c.alone s).2.host.flags.rf = true ↔ s.host.flags.rf = true := by
  unfold unpolled
  rw [Op.run_bind, Op.run_read]
  dsimp only
  split
  · exact stopPolling_mark hs
  · exact Iff.rfl

/-- The system in which disabling discovery has given the order to stop. -/
def stopped (c : Controller σ) (s : System σ) : System σ :=
  ((Radio.stopDiscovery : Op σ Bool).run c.alone (inLifecycle s)).2

lemma stopped_evolves (c : Controller σ) (s : System σ) :
    Evolves c (fun _ => True) (inLifecycle s) (stopped c s) :=
  stopDiscovery_keepsTo (orderly_alone _ c) (fun _ _ => trivial) (inLifecycle s)

lemma disable_runs (hs : AtRest s) (hruns : skipsDisabling s.host.flags = false) :
    ((Discovery.disable : Op σ Unit).run c.alone s).2 =
      (((unpolled : Op σ Unit).run c.alone (stopped c s)).2.mapHost
        Change.discoveryEnded.apply).mapHost (giveBack []) := by
  have hfree := ((stopped_evolves c s).trans (unpolled_keepsTo _)).free hs.begun_free
  have htaken : (!(inLifecycle s).host.flags.active || !(inLifecycle s).host.flags.discovery) = false :=
    hruns
  unfold Discovery.disable
  refine hs.lifecycle_ends ?_ hfree.1
  rw [Op.run_bind, Op.run_read]
  simp only [htaken, Bool.false_eq_true, if_false]
  change ((if (stopped c s).host.flags.polling = true then _ else _ : Op σ Unit).run c.alone
    (stopped c s)).2 = ((if (stopped c s).host.flags.polling = true then _ else _ : Op σ Unit).run c.alone
      (stopped c s)).2.mapHost Change.discoveryEnded.apply
  by_cases hpolling : (stopped c s).host.flags.polling = true
  · rw [if_pos hpolling, if_pos hpolling]
    rfl
  · rw [if_neg hpolling, if_neg hpolling]
    rfl

lemma AtRest.begun_attended (hs : AtRest s) : Attended (inLifecycle s) := hs.attended

/-- An enabling that was not skipped marks discovery as running, whatever came of its orders. The mark of
the radio stands exactly if the order to start was acknowledged, or if it stood when the order was given. -/
lemma enable_marks (hs : AtRest s) (mask : Option TechMask) (readerMode hostRouting : Bool)
    {restart : Bool} (hruns : skipsEnabling restart s.host.flags = false) :
    let before := prepared c mask readerMode hostRouting s
    let t := ((Discovery.enable mask readerMode hostRouting restart).run c.alone s).2
    (RadioOrder.startDiscovery.exchange c before).ended.trace <+: t.trace ∧
      t.host.flags.discovery = true ∧
      (t.host.flags.rf = true ↔
        Acknowledged (RadioOrder.startDiscovery.exchange c before) ∨ before.host.flags.rf = true) := by
  intro before t
  have hbefore : before.receiver ≠ .session :=
    ((prepared_evolves c mask readerMode hostRouting s).attended hs.begun_attended).not_session
  have ht : t = (((Radio.startDiscovery : Op σ Bool).run c.alone before).2.mapHost
      Change.discoveryBegun.apply).mapHost (giveBack []) := enable_runs hs mask readerMode hostRouting hruns
  obtain ⟨-, hcovered, -⟩ := RadioOrder.startDiscovery.confirmed_iff (c := c) hbefore
  rw [ht]
  exact ⟨hcovered, rfl, startDiscovery_mark hbefore⟩

/-- A disabling that was not skipped marks discovery as stopped, whatever came of its orders. The mark of
the radio still stands exactly if it stood and the order to stop was not acknowledged. -/
lemma disable_marks (hs : AtRest s) (hruns : skipsDisabling s.host.flags = false) :
    let x := RadioOrder.stopDiscovery.exchange c (inLifecycle s)
    let t := ((Discovery.disable : Op σ Unit).run c.alone s).2
    x.ended.trace <+: t.trace ∧ t.host.flags.discovery = false ∧
      (t.host.flags.rf = true ↔ ¬Acknowledged x ∧ s.host.flags.rf = true) := by
  intro x t
  have hbegun : (inLifecycle s).receiver ≠ .session := hs.begun_attended.not_session
  have hstopped : (stopped c s).receiver ≠ .session :=
    ((stopped_evolves c s).attended hs.begun_attended).not_session
  have ht : t = (((unpolled : Op σ Unit).run c.alone (stopped c s)).2.mapHost
      Change.discoveryEnded.apply).mapHost (giveBack []) := disable_runs hs hruns
  obtain ⟨-, hcovered, -⟩ := RadioOrder.stopDiscovery.confirmed_iff (c := c) hbegun
  have hlater := (unpolled_keepsTo (c := c) (stopped c s)).covers
  rw [ht]
  refine ⟨hcovered.trans hlater, rfl, ?_⟩
  exact (unpolled_mark hstopped).trans (stopDiscovery_mark hbegun)

/-- In every state that a run leads to the operations that enable and disable discovery go by one mark:
they do nothing at all, or they set and clear it whatever came of their orders. So the mark agrees with the
mark of the radio exactly if the order to start was acknowledged, or the radio ran when it was given; and if
the order to stop was acknowledged, or the radio did not run before. -/
theorem discovery_recorded (c : Controller σ) (companions : List (Companion σ)) (config : Config) (x : σ)
    (deeds : List Deed) :
    let s := ran c companions config x deeds
    (∀ mask readerMode hostRouting restart,
      let before := prepared c mask readerMode hostRouting s
      let starting := RadioOrder.startDiscovery.exchange c before
      let t := ((Discovery.enable mask readerMode hostRouting restart).run c.alone s).2
      (skipsEnabling restart s.host.flags = true → t = s) ∧
        (skipsEnabling restart s.host.flags = false →
          starting.ended.trace <+: t.trace ∧ t.host.flags.discovery = true ∧
            (t.host.flags.discovery = t.host.flags.rf ↔
              Acknowledged starting ∨ before.host.flags.rf = true))) ∧
      let stopping := RadioOrder.stopDiscovery.exchange c (inLifecycle s)
      let t := ((Discovery.disable : Op σ Unit).run c.alone s).2
      (skipsDisabling s.host.flags = true → t = s) ∧
        (skipsDisabling s.host.flags = false →
          stopping.ended.trace <+: t.trace ∧ t.host.flags.discovery = false ∧
            (t.host.flags.discovery = t.host.flags.rf ↔
              Acknowledged stopping ∨ s.host.flags.rf = false)) := by
  intro s
  have hs : AtRest s := ran_at_rest c companions config x deeds
  refine ⟨fun mask readerMode hostRouting restart => ⟨fun h => enable_skips hs _ _ _ h, fun h => ?_⟩,
    fun h => disable_skips hs h, fun h => ?_⟩
  · obtain ⟨hcovered, hmark, hrf⟩ := enable_marks hs mask readerMode hostRouting h
    refine ⟨hcovered, hmark, ?_⟩
    rw [hmark, eq_comm]
    exact hrf
  · obtain ⟨hcovered, hmark, hrf⟩ := disable_marks hs h
    refine ⟨hcovered, hmark, ?_⟩
    rw [hmark, eq_comm, ← Bool.not_eq_true, hrf, not_and_or, not_not, Bool.not_eq_true]

/-- Where the start is acknowledged both marks say that discovery runs. -/
theorem confirmed_start_recorded :
    let t := ((Discovery.enable none false true false).run Script.controller.alone (upWith {})).2
    skipsEnabling false (upWith {}).host.flags = false ∧ t.host.flags.discovery = t.host.flags.rf := by
  have hruns : skipsEnabling false (upWith {}).host.flags = false := rfl
  have haccepted : (RadioOrder.startDiscovery.exchange Script.controller
      (prepared Script.controller none false true (upWith {}))).verdict = .ok := by
    decide +kernel
  have hanswered : (RadioOrder.startDiscovery.exchange Script.controller
      (prepared Script.controller none false true (upWith {}))).answer? radioAnswer = some .ok := by
    decide +kernel
  obtain ⟨henabled, -⟩ := discovery_recorded Script.controller [] {} {} firstBringUp
  obtain ⟨-, -, hagree⟩ := (henabled none false true false).2 hruns
  exact ⟨hruns, hagree.mpr (.inl ⟨congrArg Status.isOk haccepted, hanswered⟩)⟩

/-- A controller that refuses to start discovery once. -/
def refusingStart : Script := { refusals := [(.startDiscovery, .rejected)] }

def enabling : Deed := .move (.call (.host (.enableDiscovery none false true false)))

/-- Where the start is refused discovery is recorded as running all the same, and the next enabling is
skipped although the controller would start now. -/
theorem refused_start_recorded :
    let s := ran Script.controller [] {} refusingStart (firstBringUp ++ [enabling])
    let t := afterDeeds Script.controller [enabling] s
    (s.trace.filterMap fun entry => match entry.passage with
        | .request .caller .startDiscovery verdict => some verdict
        | _ => none) = [.rejected] ∧
      s.host.flags.active = true ∧ s.host.flags.discovery = true ∧ s.host.flags.rf = false ∧
      s.controller.refusals = [] ∧ callerRequests (t.trace.drop s.trace.length) = [] ∧
      t.host.flags.rf = false :=
  ⟨rfl, rfl, rfl, rfl, rfl, rfl, rfl⟩

end Records

end NfcStack.Proofs
