import NfcStack.Proofs.Arrivals
import NfcStack.Proofs.LateNotices
import NfcStack.Proofs.OwnRequests

/-!
# Reconnections that succeed

A reconnection that is not already where it should be puts the tag to sleep, selects its target, and waits
until the tag is active again. The wait for that is opened before the selection is asked for, so that a tag
that is active before its selection is confirmed counts as well. Only if nothing is missing is the target
recorded.
-/

namespace NfcStack.Proofs

variable {σ α : Type} {c : Controller σ} {s : System σ}

section Outcomes

variable {values : List α} {woken : Bool}

/-- A wait that began does not end as a refusal. -/
lemma outcome_not_rejected (r : Rendezvous α) (status : Status) : r.outcome ≠ .rejected status := by
  unfold Rendezvous.outcome
  split
  · nofun
  · split <;> nofun

lemma outcomeOf_completed (value : α) :
    outcomeOf values woken = .completed value ↔ values.getLast? = some value := by
  unfold outcomeOf
  cases values.getLast? with
  | none => cases woken <;> simp
  | some last => simp

lemma outcomeOf_timedOut :
    outcomeOf values woken = .timedOut ↔ values.getLast? = none ∧ woken = false := by
  unfold outcomeOf
  cases values.getLast? with
  | none => cases woken <;> simp
  | some last => simp

lemma outcomeOf_isCompleted : (outcomeOf values woken).isCompleted = true ↔ ∃ value, value ∈ values := by
  unfold outcomeOf
  cases hlast : values.getLast? with
  | none =>
    rw [List.getLast?_eq_none_iff.mp hlast]
    cases woken <;> simp [Outcome.isCompleted]
  | some last => simpa [Outcome.isCompleted] using ⟨last, List.mem_of_getLast? hlast⟩

end Outcomes

/-- What a reconnection goes through that puts the tag to sleep and selects its target. -/
structure Reselection (σ : Type) where
  /-- The request to put the tag to sleep. -/
  sleep : Exchange σ
  select : Exchange σ
  duringSelection : List Arrival
  /-- What arrives while the activation is awaited, after the selection was confirmed. -/
  duringActivation : List Arrival
  /-- The system at the end of that wait. -/
  woken : System σ

namespace Reselection

/-- The last result of the selection that arrived while it was awaited. -/
def result? (r : Reselection σ) : Option Status := (r.duringSelection.filterMap selectionIn).getLast?

/-- Whether the tag was reported active between the opening of the wait for that and its end. -/
def Activates (r : Reselection σ) : Prop :=
  ∃ a ∈ r.duringSelection ++ r.duringActivation, wakingIn a = some ()

/-- Everything went well: both requests were accepted, the selection was confirmed, and the tag is active. -/
def Succeeds (r : Reselection σ) : Prop :=
  r.sleep.accepted ∧ r.select.accepted ∧ r.result? = some .ok ∧ r.Activates

/-- The selection was accepted, but no result of it came and nobody gave up waiting. -/
def TimesOut (r : Reselection σ) : Prop :=
  r.select.accepted ∧ r.result? = none ∧ r.duringSelection.any Arrival.wakes = false

instance (r : Reselection σ) : Decidable r.TimesOut :=
  inferInstanceAs (Decidable (r.select.verdict.isOk = true ∧ _ = none ∧ _ = false))

instance (r : Reselection σ) : Decidable r.Succeeds :=
  inferInstanceAs (Decidable (r.sleep.verdict.isOk = true ∧ r.select.verdict.isOk = true ∧
    r.result? = some .ok ∧ ∃ a ∈ r.duringSelection ++ r.duringActivation, wakingIn a = some ()))

/-- How the selection ended. -/
def outcome (r : Reselection σ) : Outcome Status :=
  if r.select.verdict.isOk then
    outcomeOf (r.duringSelection.filterMap selectionIn) (r.duringSelection.any Arrival.wakes)
  else .rejected r.select.verdict

lemma outcome_completed (r : Reselection σ) (status : Status) :
    r.outcome = .completed status ↔ r.select.accepted ∧ r.result? = some status := by
  unfold outcome Exchange.accepted result?
  split
  · next hok => simp only [hok, true_and, outcomeOf_completed]
  · next hno => simp [hno]

lemma outcome_timedOut (r : Reselection σ) : r.outcome = .timedOut ↔ r.TimesOut := by
  unfold outcome TimesOut Exchange.accepted result?
  split
  · next hok => simp only [hok, true_and, outcomeOf_timedOut]
  · next hno => simp [hno]

/-- What is asked of the controller from the selection on. -/
def selectRequests (r : Reselection σ) (target : Connection) : List Request :=
  selectionRequest target :: if r.TimesOut then [.deactivate false] else []

/-- What is asked of the controller. A tag that does not go to sleep is not selected. -/
def requests (r : Reselection σ) (target : Connection) : List Request :=
  .deactivate true :: if r.sleep.verdict.isOk then r.selectRequests target else []

/-- The system in which the target is recorded. -/
def recorded (r : Reselection σ) (target : Connection) : System σ :=
  r.woken.mapHost (Change.apply (.session (.connection target)))

end Reselection

/-- The reselection of a target from a system in which the radio field is held. -/
def reselection (c : Controller σ) (target : Connection) (s : System σ) : Reselection σ :=
  let sleep := exchange c Venue.deactivated (.deactivate true) s
  let asleep := sleep.ended.mapHost (Venue.deactivated.map .disarm)
  let select := exchange c Venue.select (selectionRequest target)
    (asleep.mapHost (Venue.activated.map .arm))
  let selected := select.ended.mapHost (Venue.select.map .disarm)
  { sleep
    select
    duringSelection := arrivalsOf c select
    duringActivation := arrivalsOfWait c selected
    woken := ((Op.pass : Op σ Unit).run c.alone selected).2.mapHost (Venue.activated.map .disarm) }

section Selecting

/-- What follows the selection of a target, given how it ended. -/
def afterSelection (target : Connection) : Outcome Status → Op σ Bool
  | .completed .ok => do
    let activation ← Op.await Venue.activated
    if activation.isCompleted then do
      Tag.remember target
      return true
    else return false
  | .timedOut => do
    let _ ← Op.send (.deactivate false)
    Op.update (Venue.activated.map .disarm)
    return false
  | _ => do
    Op.update (Venue.activated.map .disarm)
    return false

lemma reselect_eq (target : Connection) : (Tag.reselect target : Op σ Bool) = (do
    Op.update (Venue.activated.map .arm)
    afterSelection target (← Op.call Venue.select (selectionRequest target))) := by
  unfold Tag.reselect
  rw [selectRequest_eq]
  refine bind_congr fun _ => bind_congr fun outcome => ?_
  cases outcome with
  | completed status => cases status <;> rfl
  | _ => rfl

/-- Without a confirmation nothing is waited for; only a selection that times out is undone. -/
lemma afterSelection_fails (target : Connection) (t : System σ) {outcome : Outcome Status}
    (h : outcome ≠ .completed .ok) :
    ((afterSelection target outcome).run c.alone t).1 = false ∧
      Asks t ((afterSelection target outcome).run c.alone t).2
        (if outcome = .timedOut then [.deactivate false] else []) := by
  cases outcome with
  | completed status =>
    cases status with
    | ok => exact absurd rfl h
    | _ => exact ⟨rfl, asks_of_trace_eq rfl⟩
  | timedOut => exact ⟨rfl, Procedure.send_asks c (.deactivate false) t⟩
  | _ => exact ⟨rfl, asks_of_trace_eq rfl⟩

/-- A selection that was confirmed asks for nothing more, and succeeds if the tag was reported active. -/
lemma afterSelection_confirmed (target : Connection) (t : System σ) :
    let ended := ((Op.pass : Op σ Unit).run c.alone t).2
    let woken := ended.mapHost (Venue.activated.map .disarm)
    (afterSelection target (.completed .ok)).run c.alone t =
      if (Venue.activated.view ended.host).outcome.isCompleted then
        (true, woken.mapHost (Change.apply (.session (.connection target))))
      else (false, woken) := by
  intro ended woken
  change (if (Venue.activated.view ended.host).outcome.isCompleted = true then do
      Tag.remember target
      return true
    else return false : Op σ Bool).run c.alone woken = _
  split
  · rfl
  · rfl

variable (c) in
/-- The wait for activation was open while the selection was awaited and goes on after it. -/
lemma activation_caught (target : Connection) (s : System σ) :
    let r := reselection c target s
    Stirs ((r.duringSelection ++ r.duringActivation).filterMap wakingIn)
      ((r.duringSelection ++ r.duringActivation).any Arrival.wakes) { armed := true }
      (Venue.activated.view ((Op.pass : Op σ Unit).run c.alone
        (r.select.ended.mapHost (Venue.select.map .disarm))).2.host) := by
  intro r
  have hfollows := follows_catches c catches_activated
  have hselecting : CatchesAll Venue.activated wakingIn r.duringSelection r.select.asked r.select.ended :=
    hfollows.duringCall Venue.select (selectionRequest target) _
  have hwaiting : CatchesAll Venue.activated wakingIn r.duringActivation
      (r.select.ended.mapHost (Venue.select.map .disarm)) _ := hfollows.wait _
  rw [List.filterMap_append, List.any_append]
  exact Stirs.append hselecting hwaiting

variable (c) in
/-- A target that is selected after the tag was put to sleep. -/
lemma reselect_gives (target : Connection) (s : System σ) :
    let r := reselection c target s
    let asleep := r.sleep.ended.mapHost (Venue.deactivated.map .disarm)
    let again := (Tag.reselect target).run c.alone asleep
    (again.1 = true ↔ r.select.accepted ∧ r.result? = some .ok ∧ r.Activates) ∧
      Asks asleep again.2 (r.selectRequests target) ∧
      (again.1 = true → again.2 = r.recorded target) := by
  intro r asleep again
  let selected := r.select.ended.mapHost (Venue.select.map .disarm)
  have hcalled : (Op.call Venue.select (selectionRequest target)).run c.alone
      (asleep.mapHost (Venue.activated.map .arm)) = (r.outcome, selected) := by
    refine Prod.ext (call_outcome c catches_select _ _) ?_
    rw [call_alone]
    rfl
  have hagain : again = (afterSelection target r.outcome).run c.alone selected := by
    change (Tag.reselect target).run c.alone asleep = _
    rw [reselect_eq, Op.run_bind, Op.run_bind, Op.run_update, hcalled]
  have hselect : Asks asleep selected [selectionRequest target] :=
    exchange_asks c Venue.select (selectionRequest target) _
  have hconfirms := r.outcome_completed .ok
  by_cases hconfirmed : r.outcome = .completed .ok
  · obtain ⟨haccepted, hresult⟩ := hconfirms.mp hconfirmed
    have hneverTimes : ¬r.TimesOut := fun htimes => absurd (hresult.symm.trans htimes.2.1) nofun
    have hwait : Asks selected (r.woken) [] :=
      ((follows_adds c).pass (fun _ _ => adds_of_trace_eq rfl) selected).asks.trans (asks_of_trace_eq rfl)
    have hasks {t : System σ} (ht : t.trace = r.woken.trace) :
        Asks asleep t (r.selectRequests target) := by
      unfold Reselection.selectRequests
      rw [if_neg hneverTimes]
      exact hselect.trans (hwait.trans (asks_of_trace_eq ht))
    have hactive : (Venue.activated.view
        ((Op.pass : Op σ Unit).run c.alone selected).2.host).outcome.isCompleted = true ↔ r.Activates := by
      rw [(activation_caught c target s).outcome, outcomeOf_isCompleted]
      simp only [List.mem_filterMap]
      exact ⟨fun ⟨(), a, hmem, hwakes⟩ => ⟨a, hmem, hwakes⟩, fun ⟨a, hmem, hwakes⟩ => ⟨(), a, hmem, hwakes⟩⟩
    rw [hconfirmed, afterSelection_confirmed] at hagain
    by_cases hactivates : r.Activates
    · rw [if_pos (hactive.mpr hactivates)] at hagain
      rw [hagain]
      exact ⟨⟨fun _ => ⟨haccepted, hresult, hactivates⟩, fun _ => rfl⟩, hasks rfl, fun _ => rfl⟩
    · rw [if_neg (mt hactive.mp hactivates)] at hagain
      rw [hagain]
      exact ⟨⟨fun h => absurd h nofun, fun h => absurd h.2.2 hactivates⟩, hasks rfl, fun h => absurd h nofun⟩
  · obtain ⟨hfalse, hasks⟩ := afterSelection_fails (c := c) target selected hconfirmed
    rw [← hagain] at hfalse hasks
    rw [if_congr r.outcome_timedOut rfl rfl] at hasks
    refine ⟨?_, hselect.trans hasks, by simp [hfalse]⟩
    rw [hfalse]
    exact ⟨fun h => absurd h nofun, fun h => absurd (hconfirms.mpr ⟨h.1, h.2.1⟩) hconfirmed⟩

variable (c) in
/-- A reconnection that does not go by the recorded connection. -/
lemma sleepAndSelect_gives (target : Connection) (s : System σ) :
    let r := reselection c target s
    let again := (sleepAndSelect target).run c.alone s
    (again.1 = true ↔ r.Succeeds) ∧ Asks s again.2 (r.requests target) ∧
      (again.1 = true → again.2 = r.recorded target) := by
  intro r again
  let asleep := r.sleep.ended.mapHost (Venue.deactivated.map .disarm)
  have hsleep : Asks s asleep [.deactivate true] := exchange_asks c Venue.deactivated (.deactivate true) s
  have hcalled : (Op.call Venue.deactivated (.deactivate true)).run c.alone s =
      (if r.sleep.verdict.isOk then (Venue.deactivated.view r.sleep.ended.host).outcome
        else .rejected r.sleep.verdict, asleep) := call_alone c Venue.deactivated (.deactivate true) s
  have hagain : again = if r.sleep.verdict.isOk then (Tag.reselect target).run c.alone asleep
      else (false, asleep) := by
    change (sleepAndSelect target).run c.alone s = _
    unfold sleepAndSelect
    rw [Op.run_bind, hcalled]
    by_cases haccepted : r.sleep.verdict.isOk = true
    · rw [if_pos haccepted, if_pos haccepted]
      -- However the wait for the sleep ended, the selection follows.
      cases hended : (Venue.deactivated.view r.sleep.ended.host).outcome with
      | rejected status => exact absurd hended (outcome_not_rejected _ status)
      | _ => rfl
    · rw [if_neg haccepted, if_neg haccepted]
      rfl
  unfold Reselection.Succeeds Reselection.requests
  by_cases haccepted : r.sleep.verdict.isOk = true
  · obtain ⟨hresult, hasks, hrecords⟩ := reselect_gives c target s
    rw [if_pos haccepted] at hagain
    rw [if_pos haccepted, hagain]
    exact ⟨hresult.trans ⟨fun h => ⟨haccepted, h⟩, fun h => h.2⟩, hsleep.trans hasks, hrecords⟩
  · rw [if_neg haccepted] at hagain
    rw [if_neg haccepted, hagain]
    exact ⟨⟨fun h => absurd h nofun, fun h => absurd h.1 haccepted⟩, hsleep, fun h => absurd h nofun⟩

end Selecting

section Reconnecting

end Reconnecting

namespace Reselection

variable (r : Reselection σ) (target : Connection)

lemma requests_prefix :
    r.requests target <+: [.deactivate true, selectionRequest target, .deactivate false] := by
  unfold requests selectRequests
  rw [List.prefix_cons_inj]
  split
  · rw [List.prefix_cons_inj]
    split
    · exact List.prefix_refl _
    · exact List.nil_prefix
  · exact List.nil_prefix

variable {r} in
lemma Succeeds.requests (h : r.Succeeds) :
    r.requests target = [.deactivate true, selectionRequest target] := by
  obtain ⟨hslept, -, hresult, -⟩ := h
  have haccepted : r.sleep.verdict.isOk = true := hslept
  have htimes : ¬r.TimesOut := fun htimes => absurd (hresult.symm.trans htimes.2.1) nofun
  unfold Reselection.requests selectRequests
  rw [if_pos haccepted, if_neg htimes]

end Reselection

/-- Whatever comes of it, a reconnection asks for no more than to put the tag to sleep, to select it and to let
it go. -/
lemma tag_reconnect_requests (c : Controller σ) (target : Connection) (restart : Bool) (s : System σ) :
    ∃ requests, Asks s ((Tag.reconnect target restart).run c.alone s).2 requests ∧
      requests <+: [.deactivate true, selectionRequest target, .deactivate false] := by
  rw [tag_reconnect_alone]
  split
  · split
    · exact ⟨[], holdingField_asks c Host.waitBound _ (asks_of_trace_eq rfl), List.nil_prefix⟩
    · obtain ⟨-, hasks, -⟩ := sleepAndSelect_gives c target (entered Host.waitBound s)
      exact ⟨_, holdingField_asks c Host.waitBound _ hasks, Reselection.requests_prefix _ target⟩
  · exact ⟨[], asks_of_trace_eq rfl, List.nil_prefix⟩

end NfcStack.Proofs
