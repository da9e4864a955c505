import NfcStack.Bench.Script
import NfcStack.Proofs.Company
import NfcStack.Proofs.Exchange

/-!
# Commits of the routing table

The controller takes no commit while radio discovery runs. No run ever asks for one then: each commit is
asked for right after discovery was seen or made to stand still. What a commit asks for and reports is
settled by its three exchanges.
-/

namespace NfcStack.Proofs

variable {σ : Type}

section Guard

/-- Commits are asked for while radio discovery stands still. -/
def Guarded (entry : Entry) : Prop :=
  ∀ origin verdict, entry.passage = .request origin .commitRouting verdict →
    entry.flags.rf = false

lemma OfReaction.guarded {entry : Entry} (h : OfReaction entry) : Guarded entry := by
  intro origin verdict hp
  unfold OfReaction at h
  rw [hp] at h
  cases origin <;> exact h.elim

lemma OfDelivery.guarded {entry : Entry} (h : OfDelivery entry) : Guarded entry := by
  rcases h with ⟨event, hevent⟩ | h
  · intro origin verdict hp
    rw [hevent] at hp
    exact absurd hp nofun
  · exact h.guarded

variable {c : Controller σ} {P : Act → Prop} {s t : System σ}

/-- Every step of an evolution leaves only guarded entries in the trace. -/
lemma evolves_guarded (h : Evolves c P s t) : Adds Guarded s t := by
  refine h.adds (fun _ => OfDelivery.guarded) ?_ ?_
  · intro request verdict flags hp hc origin verdict hpassage
    obtain ⟨-, hrequest, -⟩ := Passage.request.inj hpassage
    exact hc hrequest
  · intro verdict flags origin verdict hpassage
    obtain ⟨-, hrequest, -⟩ := Passage.request.inj hpassage
    exact absurd hrequest nofun

/-- However a run goes, whatever the controller answers and whoever joins in, no commit is asked for
while radio discovery runs. -/
lemma ran_guarded (c : Controller σ) (companions : List (Companion σ)) (config : Config) (x : σ)
    (deeds : List Deed) (entry : Entry) (h : entry ∈ (ran c companions config x deeds).trace) :
    Guarded entry := by
  have hevolves : Evolves c (fun _ => True) (booted config x) (ran c companions config x deeds) :=
    ran_evolves (fun _ => trivial) c companions config x deeds
  obtain ⟨new, htrace, hnew⟩ := evolves_guarded hevolves
  have hbooted : (booted config x).trace = [] := rfl
  rw [htrace, hbooted, List.nil_append] at h
  exact hnew entry h

end Guard

section Radio

variable (c : Controller σ)

/-- A request of the radio is acknowledged if the last completion that arrives in its wait is `ok`. -/
def Acknowledged (x : Exchange σ) : Prop := x.accepted ∧ x.answer? radioAnswer = some .ok

lemma settle_run (outcome : Outcome Status) (f : Flags → Flags) (env : Environment σ)
    (s : System σ) : (Radio.settle outcome f).run env s =
      if outcome = .completed .ok then (true, s.mapHost (Host.mapFlags f)) else (false, s) := by
  unfold Radio.settle
  split
  · rfl
  · next hne => rw [if_neg hne, Op.run_pure]

variable (request : Request) (f : Flags → Flags) (s : System σ)

/-- One request at the venue of the radio, and a flag that follows it. -/
lemma radio_alone (hreq : request ≠ .enable) (hs : s.receiver ≠ .session) :
    let x := exchange c Venue.polling request (entered Host.waitBound s)
    let result := (Op.holdingField Host.waitBound do
      let outcome ← Op.call Venue.polling request
      Radio.settle outcome f : Op σ Bool).run c.alone s
    Asks s result.2 [request] ∧ x.ended.trace <+: result.2.trace ∧
      result.2.receiver = s.receiver ∧ (result.1 = true ↔ Acknowledged x) := by
  dsimp only
  rw [holdingField_alone]
  simp only [Op.run_bind, settle_run]
  have hcovered := call_covers c Venue.polling request (entered Host.waitBound s)
  have hasks := call_asks c Venue.polling request (entered Host.waitBound s)
  have hcompleted := call_completed c hears_polling hreq (s := entered Host.waitBound s) hs .ok
  have hreceiver := call_receiver c hears_polling hreq (s := entered Host.waitBound s) hs
  -- The flag changes only with a call that succeeded; either way the call is over by then.
  generalize (Op.call Venue.polling request).run c.alone (entered Host.waitBound s) = call at *
  have hentered : Asks s (entered Host.waitBound s) [] := asks_of_trace_eq rfl
  by_cases hok : call.1 = .completed .ok
  · simp only [hok, if_true]
    have hleft := left_asks c s (call.2.mapHost (Host.mapFlags f))
    have hsettled : Asks call.2 (call.2.mapHost (Host.mapFlags f)) [] := asks_of_trace_eq rfl
    refine ⟨((hentered.trans hasks).trans hsettled).trans hleft, hcovered.trans hleft.covers, ?_, ?_⟩
    · rw [left_receiver]
      exact hreceiver
    · exact ⟨fun _ => hcompleted.mp hok, fun _ => trivial⟩
  · simp only [hok, if_false]
    have hleft := left_asks c s call.2
    refine ⟨(hentered.trans hasks).trans hleft, hcovered.trans hleft.covers, ?_, ?_⟩
    · rw [left_receiver]
      exact hreceiver
    · exact ⟨fun h => absurd h Bool.false_ne_true, fun h => absurd (hcompleted.mpr h) hok⟩

end Radio

section Commit

variable (c : Controller σ) (s : System σ)

/-- The exchange by which a commit stops radio discovery. -/
def pausing : Exchange σ :=
  exchange c Venue.polling .stopDiscovery (entered Host.waitBound (entered Host.routingBound s))

/-- The system in which a commit is asked for, unless discovery could not be stopped. -/
def paused : System σ :=
  if s.host.flags.rf then
    ((Radio.stopDiscovery : Op σ Bool).run c.alone (entered Host.routingBound s)).2
  else entered Host.routingBound s

/-- The exchange by which a commit asks for the commit. -/
def committing : Exchange σ := exchange c Venue.commit .commitRouting (paused c s)

/-- A commit was accepted, and its completion arrived during the wait. -/
def Committed (x : Exchange σ) : Prop := x.accepted ∧ .routingCommitted ∈ x.events

lemma commitAnswer_last (events : List Event) :
    (events.filterMap commitAnswer).getLast? = some () ↔ .routingCommitted ∈ events := by
  have hmem : () ∈ events.filterMap commitAnswer ↔ .routingCommitted ∈ events := by
    rw [List.mem_filterMap]
    constructor
    · rintro ⟨event, hevent, hanswer⟩
      cases event with
      | routingCommitted => exact hevent
      | _ => exact absurd hanswer nofun
    · intro hevent
      exact ⟨_, hevent, rfl⟩
  rw [← hmem]
  constructor
  · exact List.mem_of_getLast?
  · exact getLast?_of_all fun _ _ => rfl

/-- The call for the commit succeeds exactly if the commit was accepted and completed. -/
lemma commit_call (hs : s.receiver ≠ .session) :
    ((Op.call Venue.commit .commitRouting).run c.alone s).1.isCompleted = true ↔
      Committed (exchange c Venue.commit .commitRouting s) := by
  have hreq : Request.commitRouting ≠ .enable := nofun
  have hcompleted := call_completed c hears_commit hreq hs ()
  unfold Committed
  rw [← commitAnswer_last]
  refine Iff.trans ?_ hcompleted
  cases ((Op.call Venue.commit .commitRouting).run c.alone s).1 with
  | completed value => exact ⟨fun _ => rfl, fun _ => rfl⟩
  | _ => exact ⟨nofun, nofun⟩

/-- With radio discovery at a standstill, a commit makes its own request and no other. -/
lemma commit_standing (hrf : s.host.flags.rf = false) (hs : s.receiver ≠ .session) :
    let result := (CardEmulation.commit : Op σ Bool).run c.alone s
    Asks s result.2 [.commitRouting] ∧ (committing c s).ended.trace <+: result.2.trace ∧
      (result.1 = true ↔ Committed (committing c s)) := by
  have hpaused : paused c s = entered Host.routingBound s := by
    unfold paused
    rw [hrf]
    rfl
  have hrun : (CardEmulation.commit : Op σ Bool).run c.alone s =
      (((Op.call Venue.commit .commitRouting).run c.alone (paused c s)).1.isCompleted,
        left c s ((Op.call Venue.commit .commitRouting).run c.alone (paused c s)).2) := by
    unfold CardEmulation.commit
    rw [holdingField_alone, hpaused]
    simp only [Op.run_bind, Op.run_read, entered_flags, hrf]
    rfl
  dsimp only
  rw [hrun]
  have hleft := left_asks c s ((Op.call Venue.commit .commitRouting).run c.alone (paused c s)).2
  have hasks : Asks s (paused c s) [] := by
    rw [hpaused]
    exact asks_of_trace_eq rfl
  refine ⟨(hasks.trans (call_asks c _ _ _)).trans hleft, ?_, ?_⟩
  · exact (call_covers c _ _ _).trans hleft.covers
  · refine commit_call c (paused c s) ?_
    rw [hpaused]
    exact hs

/-- Once discovery is stopped it is started again, whatever becomes of the commit in between. -/
lemma commit_resumed (hs : s.receiver ≠ .session) :
    let result := (do
      let outcome ← Op.call Venue.commit .commitRouting
      let _ ← Radio.startDiscovery
      return outcome.isCompleted : Op σ Bool).run c.alone s
    let x := exchange c Venue.commit .commitRouting s
    Asks s result.2 [.commitRouting, .startDiscovery] ∧ x.ended.trace <+: result.2.trace ∧
      (result.1 = true ↔ Committed x) := by
  have hreq : Request.commitRouting ≠ .enable := nofun
  have hasks := call_asks c Venue.commit .commitRouting s
  have hcovered := call_covers c Venue.commit .commitRouting s
  have hcommitted := commit_call c s hs
  have hcalled : ((Op.call Venue.commit .commitRouting).run c.alone s).2.receiver ≠ .session := by
    rw [call_receiver c hears_commit hreq hs]
    exact hs
  dsimp only
  simp only [Op.run_bind, Op.run_pure]
  generalize (Op.call Venue.commit .commitRouting).run c.alone s = call at *
  obtain ⟨hstart, -, -, -⟩ :=
    radio_alone c .startDiscovery (fun flags => { flags with rf := true }) call.2 nofun hcalled
  change Asks _ ((Radio.startDiscovery : Op σ Bool).run c.alone call.2).2 _ at hstart
  exact ⟨hasks.trans hstart, hcovered.trans hstart.covers, hcommitted⟩

/-- With radio discovery running, a commit stops it first. If that is not acknowledged nothing else is
asked for; otherwise discovery is started again whatever becomes of the commit. -/
lemma commit_running (hrf : s.host.flags.rf = true) (hs : s.receiver ≠ .session) :
    let result := (CardEmulation.commit : Op σ Bool).run c.alone s
    (pausing c s).ended.trace <+: result.2.trace ∧
      (¬Acknowledged (pausing c s) → Asks s result.2 [.stopDiscovery] ∧ result.1 = false) ∧
      (Acknowledged (pausing c s) →
        Asks s result.2 [.stopDiscovery, .commitRouting, .startDiscovery] ∧
        (committing c s).ended.trace <+: result.2.trace ∧
        (result.1 = true ↔ Committed (committing c s))) := by
  obtain ⟨hasks, hcovered, hreceiver, hstopped⟩ :=
    radio_alone c .stopDiscovery (fun flags => { flags with rf := false })
      (entered Host.routingBound s) nofun hs
  change Asks _ ((Radio.stopDiscovery : Op σ Bool).run c.alone _).2 _ at hasks
  change _ <+: ((Radio.stopDiscovery : Op σ Bool).run c.alone _).2.trace at hcovered
  change ((Radio.stopDiscovery : Op σ Bool).run c.alone _).2.receiver = _ at hreceiver
  change ((Radio.stopDiscovery : Op σ Bool).run c.alone _).1 = true ↔ _ at hstopped
  have hpaused : paused c s =
      ((Radio.stopDiscovery : Op σ Bool).run c.alone (entered Host.routingBound s)).2 := by
    unfold paused
    rw [if_pos hrf]
  have hentered : Asks s (entered Host.routingBound s) [] := asks_of_trace_eq rfl
  dsimp only
  unfold CardEmulation.commit
  rw [holdingField_alone]
  simp only [Op.run_bind, Op.run_read, entered_flags, hrf, if_true]
  unfold committing
  rw [hpaused]
  generalize (Radio.stopDiscovery : Op σ Bool).run c.alone (entered Host.routingBound s) = stop at *
  -- Whether discovery stopped is all that the rest of the commit goes by.
  obtain ⟨stopped, t⟩ := stop
  cases stopped with
  | false =>
    have hrefused : ¬Acknowledged (pausing c s) := fun h => Bool.false_ne_true (hstopped.mpr h)
    have hleft := left_asks c s t
    refine ⟨hcovered.trans hleft.covers, fun _ => ⟨?_, rfl⟩, fun h => absurd h hrefused⟩
    exact (hentered.trans hasks).trans hleft
  | true =>
    have hacknowledged : Acknowledged (pausing c s) := hstopped.mp rfl
    have ht : t.receiver ≠ .session := by
      rw [hreceiver]
      exact hs
    obtain ⟨hresumed, hwithin, hcommitted⟩ := commit_resumed c t ht
    have hleft := left_asks c s (Op.run (do
      let outcome ← Op.call Venue.commit .commitRouting
      let _ ← Radio.startDiscovery
      return outcome.isCompleted : Op σ Bool) c.alone t).2
    refine ⟨?_, fun h => absurd hacknowledged h, fun _ => ⟨?_, ?_, hcommitted⟩⟩
    · exact (hcovered.trans hresumed.covers).trans hleft.covers
    · exact (hentered.trans hasks).trans (hresumed.trans hleft)
    · exact hwithin.trans hleft.covers

/-- No run asks for a commit while radio discovery runs. A commit made in any state asks for exactly
what is needed, starts discovery again if it was stopped, and reports whether it was completed. -/
theorem commit_only_at_standstill (c : Controller σ) :
    (∀ companions config x deeds, ∀ entry ∈ (ran c companions config x deeds).trace,
      ∀ origin verdict, entry.passage = .request origin .commitRouting verdict →
        entry.flags.rf = false) ∧
    ∀ s : System σ, s.receiver ≠ .session →
      let result := (CardEmulation.commit : Op σ Bool).run c.alone s
      (s.host.flags.rf = false →
        Asks s result.2 [.commitRouting] ∧ (committing c s).ended.trace <+: result.2.trace ∧
          (result.1 = true ↔ Committed (committing c s))) ∧
      (s.host.flags.rf = true →
        (pausing c s).ended.trace <+: result.2.trace ∧
        (¬Acknowledged (pausing c s) → Asks s result.2 [.stopDiscovery] ∧ result.1 = false) ∧
        (Acknowledged (pausing c s) →
          Asks s result.2 [.stopDiscovery, .commitRouting, .startDiscovery] ∧
          (committing c s).ended.trace <+: result.2.trace ∧
          (result.1 = true ↔ Committed (committing c s)))) := by
  refine ⟨fun companions config x deeds => ran_guarded c companions config x deeds, ?_⟩
  intro s hs
  exact ⟨fun hrf => commit_standing c s hrf hs, fun hrf => commit_running c s hrf hs⟩

/-- A host that discovers targets, over a controller that is well disposed. -/
def discovering : System Script :=
  { host := (Host.fresh {}).mapFlags fun flags => { flags with enabled := true, rf := true }
    receiver := .host
    controller := {} }

theorem commit_discovering :
    discovering.receiver ≠ .session ∧ discovering.host.flags.rf = true ∧
      Acknowledged (pausing Script.controller discovering) ∧
      Asks discovering ((CardEmulation.commit : Op Script Bool).run Script.controller.alone discovering).2
        [.stopDiscovery, .commitRouting, .startDiscovery] ∧
      ((CardEmulation.commit : Op Script Bool).run Script.controller.alone discovering).1 = true := by
  have hreceiver : discovering.receiver ≠ .session := nofun
  have hacknowledged : Acknowledged (pausing Script.controller discovering) := ⟨rfl, rfl⟩
  have hcommitted : Committed (committing Script.controller discovering) := ⟨rfl, by decide⟩
  have hrunning := ((commit_only_at_standstill Script.controller).2 discovering hreceiver).2 rfl
  obtain ⟨hasks, -, hresult⟩ := hrunning.2.2 hacknowledged
  exact ⟨hreceiver, rfl, hacknowledged, hasks, hresult.mpr hcommitted⟩

end Commit

end NfcStack.Proofs
