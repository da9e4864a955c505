import NfcStack.Proofs.OwnRequests
import NfcStack.Proofs.WaitBounds

/-!
# The table of bounds over a run

What the timeout table of the session gives is what callers set since it was last reset. It is reset by
callers who ask for that or reset the session, by whoever lets go of the tag, and by the report that the field
is empty. No other operation and no other event touches it.
-/

namespace NfcStack.Proofs

variable {σ : Type}

section Keeping

/-- The resets that events bring about: one for each report that the field is empty. -/
def resetsBy (events : List Event) : List TableStep :=
  (events.filter emptiesField).map fun _ => .reset

lemma resetsBy_append (first rest : List Event) :
    resetsBy (first ++ rest) = resetsBy first ++ resetsBy rest := by
  unfold resetsBy
  rw [List.filter_append, List.map_append]

variable {steps : List TableStep} {table : TimeoutTable}

/-- A reset undoes all that was done before. -/
lemma reset_afterSteps (steps : List TableStep) (table : TimeoutTable) :
    (afterSteps steps table).reset = table.reset := by
  unfold TimeoutTable.reset
  rw [afterSteps_defaults]

/-- More resets after the first one change nothing. -/
lemma resetsBy_reset (events : List Event) (table : TimeoutTable) :
    afterSteps (resetsBy events) table.reset = table.reset := by
  unfold resetsBy
  induction events.filter emptiesField with
  | nil => rfl
  | cons event rest ih => exact ih

/-- The table of a host that took in events after some point, and nothing else that concerns the table. -/
def TableSince (before : List Event) (table : TimeoutTable) (host : Host) (events : List Event)
    (_ : List Notification) : Prop :=
  ∃ later, events = before ++ later ∧ host.session.timeouts = afterSteps (resetsBy later) table

lemma hearNotice_timeouts (notice : DiscoveryNotice) (host : Host) :
    (hearNotice notice host).session.timeouts = host.session.timeouts := by
  have hcollected : (host.session.collect notice).2.timeouts = host.session.timeouts := by
    obtain ⟨notices, hcollected⟩ := collect_shape host.session notice
    rw [hcollected]
  unfold hearNotice
  dsimp only
  split
  · exact hcollected
  · split
    · exact hcollected
    · exact hcollected

/-- Of all events only the report that the field is empty concerns the table. -/
lemma hear_timeouts (event : Event) (host : Host) :
    (hear event host).session.timeouts = afterSteps (resetsBy [event]) host.session.timeouts := by
  cases event with
  | activated act =>
    refine hearActivation_session (P := fun session => session.timeouts = host.session.timeouts) act host
      rfl rfl fun session hadmitted => ?_
    obtain ⟨_, _, _, _, _, rfl⟩ := admit_shape hadmitted
    rfl
  | discovered status notice =>
    change (if status.isOk then hearNotice notice host else host).session.timeouts = host.session.timeouts
    split
    · exact hearNotice_timeouts notice host
    · rfl
  | deactivated sleep => cases sleep <;> rfl
  | data status bytes => cases status <;> rfl
  | _ => rfl

lemma change_timeouts {change : Change} (h : ¬Bounding (.change change)) (host : Host) :
    (change.apply host).session.timeouts = host.session.timeouts := by
  cases change with
  | waits f hf => exact congrArg (fun host => host.session.timeouts) (hf host)
  | session change =>
    cases change with
    | letGo => exact absurd trivial h
    | timeouts table => exact absurd trivial h
    | resetTimeouts => exact absurd trivial h
    | forget => exact absurd trivial h
    | _ => rfl
  | welcome act =>
    change (welcomed act host).session.timeouts = host.session.timeouts
    unfold welcomed
    split
    · rfl
    · next session hadmitted =>
      obtain ⟨_, _, _, _, _, rfl⟩ := admit_shape hadmitted
      rfl
  | _ => rfl

variable {before : List Event} {c : Controller σ}

lemma tableSince_tracks (c : Controller σ) (before : List Event) (table : TimeoutTable) :
    Tracks c (fun act => ¬Bounding act) (TableSince before table) where
  change change hp host _ _ h := by
    obtain ⟨later, hevents, htable⟩ := h
    exact ⟨later, hevents, (change_timeouts hp host).trans htable⟩
  waits f hf host _ _ h := by
    obtain ⟨later, hevents, htable⟩ := h
    have hplain : ¬Bounding (.change (.waits f hf)) := id
    exact ⟨later, hevents, (change_timeouts hplain host).trans htable⟩
  inUse _ _ _ _ h := h
  connect _ _ _ _ h := h
  hear event _ host _ _ h := by
    obtain ⟨later, rfl, htable⟩ := h
    refine ⟨later ++ [event], List.append_assoc before later [event], ?_⟩
    rw [hear_timeouts, htable, resetsBy_append, afterSteps_append]

variable {s t u : System σ}

/-- From one system to another nothing but reports that the field is empty touched the table. -/
def KeepsBounds (s t : System σ) : Prop := ∀ before table, Carries (TableSince before table) s t

lemma KeepsBounds.tells (h : KeepsBounds s t) (hs : s.receiver ≠ .session) :
    t.receiver ≠ .session ∧ ∃ later, eventsOf t.trace = eventsOf s.trace ++ later ∧
      t.host.session.timeouts = afterSteps (resetsBy later) s.host.session.timeouts := by
  obtain ⟨ht, hcarries⟩ := h (eventsOf s.trace) s.host.session.timeouts hs
  exact ⟨ht, hcarries ⟨[], (List.append_nil _).symm, rfl⟩⟩

lemma KeepsBounds.refl (s : System σ) : KeepsBounds s s := fun _ _ => Carries.refl s

lemma KeepsBounds.trans (h₁ : KeepsBounds s t) (h₂ : KeepsBounds t u) : KeepsBounds s u :=
  fun before table => (h₁ before table).trans (h₂ before table)

lemma evolves_keeps (h : Evolves c (fun act => ¬Bounding act) s t) : KeepsBounds s t :=
  fun before table => h.carries (tableSince_tracks c before table)

lemma release_keeps (c : Controller σ) (s : System σ) : KeepsBounds s (c.release s) :=
  fun before table => (tableSince_tracks c before table).steps.release s

lemma mapHost_keeps {f : Host → Host} (h : (f s.host).session.timeouts = s.host.session.timeouts) :
    KeepsBounds s (s.mapHost f) := by
  refine fun _ _ => carries_mapHost fun hsince => ?_
  obtain ⟨later, hevents, htable⟩ := hsince
  exact ⟨later, hevents, h.trans htable⟩

/-- While nobody else acts, what holds along acts that set no bounds holds along operations made of them. -/
lemma keeps_composes (c : Controller σ) :
    Composes (fun act => ¬Bounding act) c.alone (KeepsBounds (σ := σ)) where
  evolves := evolves_keeps
  trans := KeepsBounds.trans
  occupy {s t} resource h := by
    have htaken : KeepsBounds s (s.mapHost (takeResource resource)) := mapHost_keeps rfl
    have hback : KeepsBounds t (t.mapHost (giveBack s.host.inUse)) := mapHost_keeps rfl
    exact htaken.trans (h.trans (hback.trans (release_keeps c _)))
  meantime := .refl
  radio _ := rfl
  interlude _ := .refl
  goOn := .refl

/-- From one system to another the table was reset. -/
def DropsBounds (s t : System σ) : Prop :=
  s.receiver ≠ .session → t.receiver ≠ .session ∧ t.host.session.timeouts = s.host.session.timeouts.reset

lemma KeepsBounds.drops (h₁ : KeepsBounds s t) (h₂ : DropsBounds t u) : DropsBounds s u := by
  intro hs
  obtain ⟨ht, later, -, htable⟩ := h₁.tells hs
  obtain ⟨hu, hreset⟩ := h₂ ht
  rw [hreset, htable, reset_afterSteps]
  exact ⟨hu, rfl⟩

lemma DropsBounds.keeps (h₁ : DropsBounds s t) (h₂ : KeepsBounds t u) : DropsBounds s u := by
  intro hs
  obtain ⟨ht, hreset⟩ := h₁ hs
  obtain ⟨hu, later, -, htable⟩ := h₂.tells ht
  rw [htable, hreset, resetsBy_reset]
  exact ⟨hu, rfl⟩

end Keeping

section Operations

variable (c : Controller σ)

lemma entered_keeps (bound : Host → UInt64) (s : System σ) : KeepsBounds s (entered bound s) := by
  unfold entered
  refine KeepsBounds.trans (mapHost_keeps ?_) (mapHost_keeps rfl)
  split
  · rfl
  · rfl

lemma left_keeps (s t : System σ) : KeepsBounds t (left c s t) := by
  unfold left
  dsimp only
  split
  · exact mapHost_keeps rfl
  · exact KeepsBounds.trans (mapHost_keeps rfl) (KeepsBounds.trans (mapHost_keeps rfl) (release_keeps c _))

lemma reserved_keeps (resource : Resource) (s : System σ) : KeepsBounds s (reserved resource s) := by
  unfold reserved
  split
  · exact .refl s
  · exact mapHost_keeps rfl

lemma returned_keeps (resource : Resource) (s t : System σ) : KeepsBounds t (returned c resource s t) := by
  unfold returned
  split
  · exact .refl t
  · exact KeepsBounds.trans (mapHost_keeps rfl) (release_keeps c _)

lemma send_keeps (s : System σ) :
    KeepsBounds s ((Op.send (.deactivate false) : Op σ Status).run c.alone s).2 := by
  have hplain : ¬Bounding (.request (.deactivate false)) := id
  exact along_send (keeps_composes c) hplain nofun s

/-- Whatever the controller answers, letting go of the tag resets the table. -/
lemma disconnect_drops (s : System σ) :
    DropsBounds s ((Tag.disconnect : Op σ Bool).run c.alone s).2 := by
  unfold Tag.disconnect
  rw [holdingField_alone]
  have hgone (t : System σ) : DropsBounds t ((t.mapHost (Change.apply (.session .letGo))).mapHost
      (Change.apply .settled)) := fun ht => ⟨ht, rfl⟩
  exact (((entered_keeps _ s).trans (send_keeps c _)).drops (hgone _)).keeps (left_keeps c s _)

lemma disconnect_asks (s : System σ) :
    Asks s ((Tag.disconnect : Op σ Bool).run c.alone s).2 [.deactivate false] := by
  refine holdingField_asks c _ _ ?_
  have hsent := Procedure.send_asks c (.deactivate false) (entered Host.waitBound s)
  exact hsent.trans (asks_of_trace_eq rfl)

lemma endpoint_disconnect_drops (number : Nat) (s : System σ) :
    DropsBounds s ((Endpoint.disconnect number : Op σ Bool).run c.alone s).2 := by
  unfold Endpoint.disconnect
  rw [reserving_run]
  have hmarked (t : System σ) (f : Endpoint → Endpoint) :
      KeepsBounds t (t.mapHost (Host.mapEndpoint number f)) := mapHost_keeps rfl
  refine DropsBounds.keeps ?_ (returned_keeps c _ s _)
  refine DropsBounds.keeps ?_ (hmarked _ _)
  exact KeepsBounds.drops ((reserved_keeps _ s).trans (hmarked _ _)) (disconnect_drops c _)

end Operations

section Watches

variable {c : Controller σ} {s t u : System σ}

/-- A stretch in which nobody lets go of the tag. -/
def HoldsOn (s t : System σ) : Prop :=
  KeepsBounds s t ∧ ∃ requests, Asks s t requests ∧ .deactivate false ∉ requests

/-- A stretch in which the tag is let go of. -/
def LetsGo (s t : System σ) : Prop :=
  DropsBounds s t ∧ ∃ requests, Asks s t requests ∧ .deactivate false ∈ requests

lemma HoldsOn.refl (s : System σ) : HoldsOn s s := ⟨.refl s, [], asks_of_trace_eq rfl, List.not_mem_nil⟩

lemma HoldsOn.trans (h₁ : HoldsOn s t) (h₂ : HoldsOn t u) : HoldsOn s u := by
  obtain ⟨hkeeps, first, hfirst, hnone⟩ := h₁
  obtain ⟨hkeeps', rest, hrest, hnone'⟩ := h₂
  exact ⟨hkeeps.trans hkeeps', _, hfirst.trans hrest, fun h => (List.mem_append.mp h).elim hnone hnone'⟩

lemma HoldsOn.letsGo (h₁ : HoldsOn s t) (h₂ : LetsGo t u) : LetsGo s u := by
  obtain ⟨hkeeps, first, hfirst, -⟩ := h₁
  obtain ⟨hdrops, rest, hrest, hgone⟩ := h₂
  exact ⟨hkeeps.drops hdrops, _, hfirst.trans hrest, List.mem_append_right first hgone⟩

lemma LetsGo.holdsOn (h₁ : LetsGo s t) (h₂ : HoldsOn t u) : LetsGo s u := by
  obtain ⟨hdrops, first, hfirst, hgone⟩ := h₁
  obtain ⟨hkeeps, rest, hrest, -⟩ := h₂
  exact ⟨hdrops.keeps hkeeps, _, hfirst.trans hrest, List.mem_append_left rest hgone⟩

lemma mapEndpoint_holdsOn (number : Nat) (f : Endpoint → Endpoint) (s : System σ) :
    HoldsOn s (s.mapHost (Host.mapEndpoint number f)) :=
  ⟨mapHost_keeps rfl, [], asks_of_trace_eq rfl, List.not_mem_nil⟩

lemma attend_holdsOn (c : Controller σ) (s : System σ) : HoldsOn s (c.attend s) :=
  ⟨evolves_keeps (.attend s), [], ((follows_adds c).attend s).asks, List.not_mem_nil⟩

lemma probe_asks (c : Controller σ) (s : System σ) :
    Asks s ((Tag.probe : Op σ Bool).run c.alone s).2 [.presenceCheck s.host.config.presenceOption] := by
  have hcalled := call_asks c Venue.presence (.presenceCheck s.host.config.presenceOption) s
  unfold Tag.probe
  rw [Op.run_bind, Op.run_read, Op.run_bind]
  split
  · exact hcalled
  · exact hcalled
  · exact hcalled

/-- The presence of a tag is asked for and nothing else. -/
lemma checkPresence_holdsOn (c : Controller σ) (s : System σ) :
    HoldsOn s ((Tag.checkPresence : Op σ Bool).run c.alone s).2 := by
  have hkeeps := checkPresence_along (keeps_composes c) (fun act h _ => handling_unbounding act h) s
  refine ⟨hkeeps, ?_⟩
  unfold Tag.checkPresence
  rw [whenReady_run]
  split
  · rw [Op.run_bind, Op.run_host]
    split
    · exact ⟨[], asks_of_trace_eq rfl, List.not_mem_nil⟩
    · have hprobed := holdingField_asks c Host.waitBound Tag.probe (probe_asks c (entered Host.waitBound s))
      refine ⟨_, hprobed.trans (asks_of_trace_eq rfl), ?_⟩
      simp
  · exact ⟨[], asks_of_trace_eq rfl, List.not_mem_nil⟩

lemma update_holdsOn (c : Controller σ) (number : Nat) (f : Endpoint → Endpoint) (s : System σ) :
    HoldsOn s ((Endpoint.update number f : Op σ Unit).run c.alone s).2 := mapEndpoint_holdsOn number f s

lemma atOnce_holdsOn {α : Type} (c : Controller σ) (number : Nat) (f : Endpoint → α × Endpoint) (s : System σ) :
    HoldsOn s ((Endpoint.atOnce number f : Op σ (Option α)).run c.alone s).2 := by
  unfold Endpoint.atOnce
  rw [Op.run_bind, Op.run_read]
  split
  · exact .refl s
  · exact update_holdsOn c number _ s

lemma retire_letsGo (c : Controller σ) (number loop : Nat) (s : System σ) :
    LetsGo s ((Endpoint.retire number loop : Op σ Endpoint.WatchEnd).run c.alone s).2 := by
  have hgone (t : System σ) : LetsGo t ((Tag.disconnect : Op σ Bool).run c.alone t).2 :=
    ⟨disconnect_drops c t, _, disconnect_asks c t, List.mem_singleton_self _⟩
  unfold Endpoint.retire
  rw [Op.run_bind, Op.run_bind]
  have hmarked := update_holdsOn c number (Endpoint.setPresent false) s
  refine (hmarked.letsGo (hgone _)).holdsOn ?_
  -- What the loop reports in the end is no concern of the table.
  rw [Op.run_bind]
  have hleft := atOnce_holdsOn c number (Endpoint.leaveLoop loop)
    ((Tag.disconnect : Op σ Bool).run c.alone
      (s.mapHost (Host.mapEndpoint number (Endpoint.setPresent false)))).2
  refine HoldsOn.trans hleft ?_
  split
  · exact .refl _
  · exact .refl _

/-- A presence loop lets go of the tag when it ends of itself, and otherwise leaves the table alone. -/
lemma watch_stretch (c : Controller σ) (number loop turns : Nat) (s : System σ) :
    HoldsOn s ((Endpoint.watch number loop turns : Op σ Endpoint.WatchEnd).run c.alone s).2 ∨
      LetsGo s ((Endpoint.watch number loop turns : Op σ Endpoint.WatchEnd).run c.alone s).2 := by
  induction turns generalizing s with
  | zero => exact .inl (.refl s)
  | succ turns ih =>
    unfold Endpoint.watch
    rw [Op.run_bind, Op.run_read]
    split
    · exact .inl (.refl s)
    · rw [Op.run_bind]
      have hdisarmed := update_holdsOn c number Endpoint.disarm s
      split
      · exact .inr (hdisarmed.letsGo (retire_letsGo c number loop _))
      · rw [Op.run_bind]
        have hchecked := hdisarmed.trans (checkPresence_holdsOn c _)
        split
        · rw [Op.run_bind]
          have harmed := hchecked.trans (update_holdsOn c number Endpoint.arm _)
          exact (ih _).imp harmed.trans harmed.letsGo
        · exact .inr (hchecked.letsGo (retire_letsGo c number loop _))

end Watches

section Deeds

variable {c : Controller σ} {s t : System σ}

/-- What a deed does to the table by itself, given what the trace shows of it. -/
def ownSteps (deed : Deed) (host : Host) (new : List Entry) : List TableStep :=
  match deed with
  | .move (.call (.session (.setTimeout technology bound))) => [.set technology bound]
  | .move (.call (.session .resetTimeouts)) => [.reset]
  | .move (.call (.session .forget)) => [.reset]
  | .move (.call (.session .disconnect)) => [.reset]
  | .move (.call (.endpoint number .disconnect)) =>
    if (Call.endpointNumber? host number).isSome then [.reset] else []
  | .watch _ _ _ => if .deactivate false ∈ callerRequests new then [.reset] else []
  | _ => []

/-- What the trace went on with from one system to another. -/
def entriesSince (s t : System σ) : List Entry := t.trace.drop s.trace.length

/-- All that happens to the table by a deed. What events do to it comes last. -/
def stepsOf (deed : Deed) (s t : System σ) : List TableStep :=
  ownSteps deed s.host (entriesSince s t) ++ resetsBy (eventsOf (entriesSince s t))

/-- From one system to another nothing happened to the table but what a deed accounts for. -/
def Tables (deed : Deed) (s t : System σ) : Prop :=
  s.receiver ≠ .session → t.receiver ≠ .session ∧
    t.host.session.timeouts = afterSteps (stepsOf deed s t) s.host.session.timeouts

lemma events_since (hcovers : s.trace <+: t.trace) {later : List Event}
    (h : eventsOf t.trace = eventsOf s.trace ++ later) : later = eventsOf (entriesSince s t) := by
  obtain ⟨new, hnew⟩ := hcovers
  unfold entriesSince
  rw [trace_since hnew.symm]
  rw [← hnew, eventsOf_append] at h
  exact (List.append_cancel_left h).symm

variable {deed : Deed}

/-- A deed that acts on the table acts at once, before anything is delivered. -/
lemma tables_at_once {found : System σ} (hcovers : s.trace <+: t.trace)
    (hreceiver : found.receiver = s.receiver) (htrace : found.trace = s.trace) (h : KeepsBounds found t)
    (htable : found.host.session.timeouts =
      afterSteps (ownSteps deed s.host (entriesSince s t)) s.host.session.timeouts) : Tables deed s t := by
  intro hs
  obtain ⟨ht, later, hevents, hkept⟩ := h.tells (by rw [hreceiver]; exact hs)
  rw [htrace] at hevents
  refine ⟨ht, ?_⟩
  unfold stepsOf
  rw [hkept, events_since hcovers hevents, htable, afterSteps_append]

lemma KeepsBounds.tables (h : KeepsBounds s t) (hcovers : s.trace <+: t.trace)
    (hnone : ownSteps deed s.host (entriesSince s t) = []) : Tables deed s t :=
  tables_at_once hcovers rfl rfl h (by rw [hnone]; rfl)

lemma DropsBounds.tables (h : DropsBounds s t) (hgone : ownSteps deed s.host (entriesSince s t) = [.reset]) :
    Tables deed s t := by
  intro hs
  obtain ⟨ht, hreset⟩ := h hs
  refine ⟨ht, ?_⟩
  unfold stepsOf
  rw [hgone, hreset, afterSteps_append]
  exact (resetsBy_reset _ _).symm

lemma asks_since {requests : List Request} (h : Asks s t requests) :
    callerRequests (entriesSince s t) = requests := h.made

lemma attend_keeps (c : Controller σ) (s : System σ) : KeepsBounds s (c.attend s) := evolves_keeps (.attend s)

lemma watch_tables (c : Controller σ) (number loop turns : Nat) (s : System σ)
    (hcovers : s.trace <+: (afterDeeds c [.watch number loop turns] s).trace) :
    Tables (.watch number loop turns) s (afterDeeds c [.watch number loop turns] s) := by
  have hattend := attend_holdsOn c ((Endpoint.watch number loop turns : Op σ Endpoint.WatchEnd).run c.alone s).2
  rcases watch_stretch c number loop turns s with hheld | hgone
  · obtain ⟨hkeeps, requests, hasks, hnone⟩ := hheld.trans hattend
    refine hkeeps.tables hcovers (if_neg ?_)
    rw [← asks_since hasks] at hnone
    exact hnone
  · obtain ⟨hdrops, requests, hasks, hmem⟩ := hgone.holdsOn hattend
    refine hdrops.tables (if_pos ?_)
    rw [← asks_since hasks] at hmem
    exact hmem

/-- Most deeds set no bounds and bring none back. -/
lemma plain_keeps (c : Controller σ) (hplain : deed.bounds = false) (s : System σ) :
    KeepsBounds s (afterDeeds c [deed] s) := by
  have hR := keeps_composes (σ := σ) c
  have hs := followsSelection hR selecting_unbounding
  have hc := followsContent hR hs handling_unbounding
  have hf := sparesMode_followsRouting hR fun act h => sparesTag_unbounding act (sparesMode_sparesTag act h)
  have he := followsEndpoints hR hs hc (fun act h _ => handling_unbounding act h) fun _ _ => id
  have hwithin : deed.Within fun act => ¬Bounding act := deed.within (fun _ => id) (fun _ => id) fun _ => id
  exact deed_along hR hs hc hf he (fun _ _ => id) deed hwithin
    (fun h => absurd (h.symm.trans hplain) Bool.true_eq_false.mp) s

lemma plain_ownSteps (hplain : deed.bounds = false) (host : Host) (new : List Entry) :
    ownSteps deed host new = [] := by
  unfold ownSteps
  split
  · exact nomatch hplain
  · exact nomatch hplain
  · exact nomatch hplain
  · exact nomatch hplain
  · exact nomatch hplain
  · exact nomatch hplain
  · rfl

lemma afterDeeds_covers (c : Controller σ) (deeds : List Deed) (s : System σ) :
    s.trace <+: (afterDeeds c deeds s).trace :=
  (runAll_keepsTo (P := fun _ => True) (fun _ => trivial) (orderly_alone _ c) deeds s).covers

/-- Setting a bound fails for the unknown technology alone, and changes nothing then. -/
lemma setBound_run (c : Controller σ) (technology : Technology) (bound : UInt64) (s : System σ) :
    let table := (TableStep.set technology bound).apply s.host.session.timeouts
    (SessionCall.setBound technology bound : Op σ Bool).run c.alone s =
      (decide (technology ≠ .unknown), s.mapHost (Change.apply (.session (.timeouts table)))) := by
  unfold SessionCall.setBound TableStep.apply
  rw [Op.run_bind, Op.run_read]
  dsimp only
  cases hset : s.host.session.timeouts.set? technology bound with
  | none =>
    rw [decide_eq_false (not_not_intro (set_none_iff.mp hset))]
    rfl
  | some table =>
    have hknown : technology ≠ .unknown := fun h => nomatch hset.symm.trans (set_none_iff.mpr h)
    rw [decide_eq_true hknown]
    rfl

lemma sessionCall_tables (c : Controller σ) (call : SessionCall) (hbounds : sessionBounds call = true)
    (s : System σ) :
    Tables (.move (.call (.session call))) s (afterDeeds c [.move (.call (.session call))] s) := by
  have hcovers := afterDeeds_covers c [.move (.call (.session call))] s
  cases call with
  | disconnect => exact ((disconnect_drops c s).keeps (attend_keeps c _)).tables rfl
  | setTimeout technology bound =>
    have hset := congrArg Prod.snd (setBound_run c technology bound s)
    have hreceiver := congrArg System.receiver hset
    have htrace := congrArg System.trace hset
    refine tables_at_once hcovers hreceiver htrace (attend_keeps c _) ?_
    exact congrArg (fun found => found.host.session.timeouts) hset
  | resetTimeouts =>
    have hchanged : DropsBounds s (s.mapHost (Change.apply (.session .resetTimeouts))) := fun hs => ⟨hs, rfl⟩
    exact (hchanged.keeps (attend_keeps c _)).tables rfl
  | forget =>
    have hchanged : DropsBounds s (s.mapHost (Change.apply (.session .forget))) := fun hs => ⟨hs, rfl⟩
    exact (hchanged.keeps (attend_keeps c _)).tables rfl
  | _ => exact nomatch hbounds

/-- Disconnecting an endpoint lets go of the tag, if there is such an endpoint and somebody owns it. -/
lemma endpointCall_tables (c : Controller σ) (number : Option Nat) (s : System σ) :
    Tables (.move (.call (.endpoint number .disconnect))) s
      (afterDeeds c [.move (.call (.endpoint number .disconnect))] s) := by
  have hcovers := afterDeeds_covers c [.move (.call (.endpoint number .disconnect))] s
  have hsteps (new : List Entry) : ownSteps (.move (.call (.endpoint number .disconnect))) s.host new =
      if (Call.endpointNumber? s.host number).isSome then [.reset] else [] := rfl
  have hafter : afterDeeds c [.move (.call (.endpoint number .disconnect))] s =
      c.attend ((Call.run (.endpoint number .disconnect) : Op σ Answer).run c.alone s).2 := rfl
  cases hfound : Call.endpointNumber? s.host number with
  | none =>
    have hnothing : ((Call.run (.endpoint number .disconnect) : Op σ Answer).run c.alone s).2 = s := by
      rw [Call.run, Op.run_bind, Op.run_read, hfound]
      rfl
    rw [hfound] at hsteps
    rw [hafter, hnothing] at hcovers ⊢
    exact (attend_keeps c s).tables hcovers (hsteps _)
  | some found =>
    have hgone : DropsBounds s ((Call.run (.endpoint number .disconnect) : Op σ Answer).run c.alone s).2 := by
      rw [Call.run, Op.run_bind, Op.run_read, hfound]
      exact endpoint_disconnect_drops c found s
    rw [hfound] at hsteps
    exact (hgone.keeps (attend_keeps c _)).tables (hsteps _)

/-- Every deed does to the table what it accounts for. -/
lemma deed_tables (c : Controller σ) (deed : Deed) (s : System σ) :
    Tables deed s (afterDeeds c [deed] s) := by
  have hcovers := afterDeeds_covers c [deed] s
  cases hbounds : deed.bounds with
  | false => exact (plain_keeps c hbounds s).tables hcovers (plain_ownSteps hbounds _ _)
  | true =>
    cases deed with
    | watch number loop turns => exact watch_tables c number loop turns s hcovers
    | move next =>
      cases next with
      | event event => exact nomatch hbounds
      | call call =>
        cases call with
        | host call => exact nomatch hbounds
        | session call => exact sessionCall_tables c call hbounds s
        | endpoint number call =>
          cases call with
          | disconnect => exact endpointCall_tables c number s
          | _ => exact nomatch hbounds

end Deeds

section Runs

variable {c : Controller σ}

/-- All that happens to the table along deeds, in order. -/
def tableHistory (c : Controller σ) : List Deed → System σ → List TableStep
  | [], _ => []
  | deed :: rest, s =>
    stepsOf deed s (afterDeeds c [deed] s) ++ tableHistory c rest (afterDeeds c [deed] s)

lemma history_timeouts (deeds : List Deed) {s : System σ} (hs : s.receiver ≠ .session) :
    (afterDeeds c deeds s).host.session.timeouts =
      afterSteps (tableHistory c deeds s) s.host.session.timeouts := by
  induction deeds generalizing s with
  | nil => rfl
  | cons deed rest ih =>
    obtain ⟨hnext, htable⟩ := deed_tables c deed s hs
    have hrest : afterDeeds c (deed :: rest) s = afterDeeds c rest (afterDeeds c [deed] s) := rfl
    rw [hrest, ih hnext, htable, tableHistory, afterSteps_append]

/-- After a run each technology has the bound that was set for it last since the table was last reset, or else
the configured one. A bound is set for any technology but the unknown one, and for no other along with it. -/
theorem bounds_follow_history (c : Controller σ) (config : Config) (x : σ) (deeds : List Deed) :
    let s := ran c [] config x deeds
    (∀ technology, s.host.session.timeouts.get technology =
      boundBy config.tagTimeouts (tableHistory c deeds (booted config x)) technology) ∧
    s.host.session.timeouts.get .unknown = config.tagTimeouts.fallback ∧
    ∀ technology bound,
      let setting := (SessionCall.setBound technology bound : Op σ Bool).run c.alone s
      (technology = .unknown → setting = (false, s)) ∧
        (technology ≠ .unknown → setting.1 = true ∧ ∀ other,
          setting.2.host.session.timeouts.get other =
            if technology = other then bound else s.host.session.timeouts.get other) := by
  intro s
  have hget (technology : Technology) : s.host.session.timeouts.get technology =
      boundBy config.tagTimeouts (tableHistory c deeds (booted config x)) technology := by
    have htable : s.host.session.timeouts = afterSteps (tableHistory c deeds (booted config x))
      (booted config x).host.session.timeouts := history_timeouts deeds nofun
    rw [htable]
    exact afterSteps_get config.tagTimeouts _ technology
  refine ⟨hget, (hget .unknown).trans (boundBy_unknown _ _), fun technology bound => ⟨?_, fun hknown => ?_⟩⟩
  · rintro rfl
    exact setBound_run c .unknown bound s
  · rw [setBound_run]
    refine ⟨decide_eq_true hknown, fun other => ?_⟩
    have hbound := apply_get (.set technology bound) s.host.session.timeouts other
    refine hbound.trans ?_
    change (if technology = other ∧ technology ≠ .unknown then some bound else none).getD _ = _
    by_cases hsame : technology = other
    · rw [if_pos ⟨hsame, hknown⟩, if_pos hsame]
      rfl
    · rw [if_neg fun h => hsame h.1, if_neg hsame]
      rfl

/-- A bound that was set before the session was reset. -/
def settingFelica : List Deed := firstBringUp ++ [.move (.call (.session (.setTimeout .felica 40)))]

/-- A reset of the session itself is one more that resets the table. -/
theorem forgotten_bound :
    let kept := ran Script.controller [] {} {} settingFelica
    let forgotten := ran Script.controller [] {} {} (settingFelica ++ [.move (.call (.session .forget))])
    kept.host.session.timeouts.get .felica = 40 ∧
      boundBy ({} : Config).tagTimeouts [.set .felica 40] .felica = 40 ∧
      forgotten.host.session.timeouts.get .felica = 255 := by
  decide +kernel

end Runs

end NfcStack.Proofs
