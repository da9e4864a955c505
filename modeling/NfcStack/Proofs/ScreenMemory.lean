import NfcStack.Proofs.ScreenState

/-!
# What is remembered of the screen, and what the controller took over

A state of the screen that is remembered is not told again. Over a run of calls that is compared with what
the controller completed: a change that got no further than its first order is not remembered, and yet the
controller took a part of it over.
-/

namespace NfcStack.Proofs

open NfcStack.Discovery (Screen.onUnlocked Screen.offLocked Screen.stateMask)

variable {σ α : Type}

section Ago

/-- How many items came after the last one of a kind. -/
def ago (kind : α → Bool) (items : List α) : Option Nat := items.reverse.findIdx? kind

variable {kind last : α → Bool} {items : List α} {item : α}

lemma ago_self (h : kind item = true) : ago kind (items ++ [item]) = some 0 := by
  simp [ago, List.findIdx?_cons, h]

lemma ago_other (h : kind item = false) : ago kind (items ++ [item]) = (ago kind items).map (· + 1) := by
  simp [ago, List.findIdx?_cons, h]

lemma filter_snoc_self (h : kind item = true) :
    ((items ++ [item]).filter kind).getLast? = some item := by
  simp [List.filter_append, h]

lemma filter_snoc_other (h : kind item = false) : (items ++ [item]).filter kind = items.filter kind := by
  simp [List.filter_append, h]

/-- The last item of a wider kind is the last one of a narrower kind exactly if none of the wider kind came
after that. -/
lemma ago_agrees_iff (hwider : ∀ item, last item = true → kind item = true) (items : List α) :
    (∀ n, ago kind items = some n → ago last items = some n) ↔
      ∀ item ∈ sinceLast last items, kind item = false := by
  induction items using List.reverseRecOn with
  | nil => exact ⟨fun _ _ h => absurd h List.not_mem_nil, nofun⟩
  | append_singleton items item ih =>
    cases hlast : last item with
    | true =>
      rw [ago_self hlast, ago_self (hwider item hlast), sinceLast_self hlast]
      exact ⟨fun _ _ h => absurd h List.not_mem_nil, fun _ _ h => h⟩
    | false =>
      rw [sinceLast_other hlast, List.forall_mem_append, List.forall_mem_singleton, ago_other hlast]
      cases hkind : kind item with
      | true =>
        rw [ago_self hkind]
        refine ⟨fun h => ?_, fun h => absurd h.2 nofun⟩
        obtain ⟨n, -, hn⟩ := Option.map_eq_some_iff.mp (h 0 rfl)
        exact absurd hn n.succ_ne_zero
      | false =>
        rw [ago_other hkind, and_iff_left rfl, ← ih]
        refine ⟨fun h n hn => ?_, fun h n hn => ?_⟩
        · have hnext := h (n + 1) (by rw [hn]; rfl)
          obtain ⟨m, hm, hsucc⟩ := Option.map_eq_some_iff.mp hnext
          rw [hm, Nat.succ.inj hsucc]
        · obtain ⟨m, hm, hsucc⟩ := Option.map_eq_some_iff.mp hn
          rw [h m hm, ← hsucc]
          rfl

/-- Then it is the same item. -/
lemma last_agrees (hwider : ∀ item, last item = true → kind item = true)
    (h : ∀ item ∈ sinceLast last items, kind item = false) :
    (items.filter kind).getLast? = (items.filter last).getLast? := by
  induction items using List.reverseRecOn with
  | nil => rfl
  | append_singleton items item ih =>
    cases hlast : last item with
    | true => rw [filter_snoc_self hlast, filter_snoc_self (hwider item hlast)]
    | false =>
      rw [sinceLast_other hlast, List.forall_mem_append, List.forall_mem_singleton] at h
      rw [filter_snoc_other hlast, filter_snoc_other h.2, ih h.1]

end Ago

open ScreenOrder (leading)

/-- A state of the screen that the host is given, after events that the controller reported by itself. -/
structure ScreenCall where
  reported : List Event
  mask : UInt8

def ScreenCall.deeds (call : ScreenCall) : List Deed :=
  reports call.reported ++ [.move (.call (.host (.setScreen call.mask)))]

/-- A call on the screen with the system that it found. -/
structure ScreenStep (σ : Type) where
  found : System σ
  mask : UInt8

namespace ScreenStep

variable (c : Controller σ) (step : ScreenStep σ)

def state : UInt8 := step.mask &&& Screen.stateMask

def cached : UInt8 := step.found.host.flags.screen

/-- The order that goes first, if the state is told. -/
def first : ScreenOrder := leading step.cached

/-- The call is passed over because the state is remembered already. -/
def Skipped : Prop := step.cached = step.state

/-- The order that goes first was given and confirmed in its wait. -/
def Opens : Prop := ¬step.Skipped ∧ step.first.Completes (opening c step.mask step.found)

/-- Both orders were given and confirmed in their waits. -/
def Finishes : Prop := step.Opens c ∧ step.first.other.Completes (closing c step.mask step.found)

/-- The change failed half-way: of its two orders only one was confirmed in its wait. -/
def Halfway : Prop := step.Opens c ∧ ¬step.Finishes c

/-- The call gave an order that was confirmed in its wait. -/
def Completes (order : ScreenOrder) : Prop :=
  if order = step.first then step.Opens c else step.Finishes c

instance : Decidable step.Skipped := inferInstanceAs (Decidable (_ = _))

instance : Decidable (step.Opens c) := inferInstanceAs (Decidable (_ ∧ _))

instance : Decidable (step.Finishes c) := inferInstanceAs (Decidable (_ ∧ _))

instance : Decidable (step.Halfway c) := inferInstanceAs (Decidable (_ ∧ _))

instance (order : ScreenOrder) : Decidable (step.Completes c order) :=
  inferInstanceAs (Decidable (if order = step.first then step.Opens c else step.Finishes c))

def finishes : Bool := decide (step.Finishes c)

def completes (order : ScreenOrder) : Bool := decide (step.Completes c order)

variable {c step}

lemma completes_of_finishes (order : ScreenOrder) (step : ScreenStep σ) (h : step.finishes c = true) :
    step.completes c order = true := by
  have hfinishes := of_decide_eq_true h
  refine decide_eq_true ?_
  unfold Completes
  split
  · exact hfinishes.1
  · exact hfinishes

/-- A call that did not finish a change completed an order exactly if it left the change half-way. -/
lemma halfway_iff (h : step.finishes c = false) :
    (∃ order, step.completes c order = true) ↔ step.Halfway c := by
  have hnot := of_decide_eq_false h
  refine ⟨fun ⟨order, horder⟩ => ?_, fun hhalf => ⟨step.first, decide_eq_true ?_⟩⟩
  · have hcompletes := of_decide_eq_true horder
    unfold Completes at hcompletes
    split at hcompletes
    · exact ⟨hcompletes, hnot⟩
    · exact absurd hcompletes hnot
  · unfold Completes
    rw [if_pos rfl]
    exact hhalf.1

end ScreenStep

section Histories

variable (c : Controller σ)

/-- The calls of a run, each with the system that it found. -/
def screenSteps (s : System σ) : List ScreenCall → List (ScreenStep σ)
  | [] => []
  | call :: rest =>
    ⟨afterDeeds c (reports call.reported) s, call.mask⟩ :: screenSteps (afterDeeds c call.deeds s) rest

/-- The stack is active when a call is made, over a controller of the second version. -/
def IsUp (step : ScreenStep σ) : Prop :=
  step.found.host.flags.active = true ∧ c.version step.found.controller = Controller.version2

/-- Of either order the last request that was confirmed, if any, was made by the call that last had both
confirmed. -/
def UpToDate (history : List (ScreenStep σ)) : Prop :=
  ∀ order n, ago (ScreenStep.completes c · order) history = some n →
    ago (ScreenStep.finishes c) history = some n

variable {c} {s : System σ}

lemma afterDeeds_append (deeds later : List Deed) :
    afterDeeds c (deeds ++ later) s = afterDeeds c later (afterDeeds c deeds s) :=
  congrArg Prod.snd (runAll_append c.alone deeds later s)

lemma afterDeeds_screen (call : ScreenCall) : afterDeeds c call.deeds s =
    c.attend (afterScreen c call.mask (afterDeeds c (reports call.reported) s)) := by
  unfold ScreenCall.deeds
  rw [afterDeeds_append]
  rfl

lemma screenSteps_snoc (calls : List ScreenCall) (call : ScreenCall) :
    screenSteps c s (calls ++ [call]) = screenSteps c s calls ++
      [⟨afterDeeds c (reports call.reported) (afterDeeds c (calls.flatMap ScreenCall.deeds) s), call.mask⟩] := by
  induction calls generalizing s with
  | nil => rfl
  | cons first rest ih =>
    rw [List.cons_append, screenSteps, ih, screenSteps, List.flatMap_cons, afterDeeds_append]
    rfl

/-- No deeds make a session receive the events of a host. -/
lemma afterDeeds_not_session (deeds : List Deed) (hs : s.receiver ≠ .session) :
    (afterDeeds c deeds s).receiver ≠ .session := by
  have hevolves : Evolves c (fun _ => True) s (afterDeeds c deeds s) :=
    runAll_keepsTo (fun _ => trivial) (orderly_alone _ c) deeds s
  have hnothing : Tracks c (fun _ => True) fun _ _ _ => True :=
    { change := fun _ _ _ _ _ _ => trivial
      waits := fun _ _ _ _ _ _ => trivial
      inUse := fun _ _ _ _ _ => trivial
      connect := fun _ _ _ _ _ => trivial
      hear := fun _ _ _ _ _ _ => trivial }
  exact (hevolves.carries hnothing hs).1

lemma reports_screen (events : List Event) (s : System σ) :
    (afterDeeds c (reports events) s).host.flags.screen = s.host.flags.screen := by
  induction events generalizing s with
  | nil => rfl
  | cons event rest ih =>
    have hattended := screen_of_steady ((follows_steady c).attend (s.arrive event))
    have harrived : (s.arrive event).host = s.host := by
      unfold System.arrive
      split
      · rfl
      · rfl
    rw [afterDeeds_report, ih, hattended, harrived]

variable {step : ScreenStep σ}

/-- A state is remembered exactly if both orders were confirmed. -/
lemma ScreenStep.remembers (hs : step.found.receiver ≠ .session) (hup : IsUp c step) :
    (afterScreen c step.mask step.found).host.flags.screen =
      if step.finishes c then step.state else step.cached := by
  unfold finishes
  by_cases hsame : step.Skipped
  · rw [decide_eq_false fun h => h.1.1 hsame, if_neg Bool.false_ne_true, afterScreen_same c hsame,
      returned_screen, (reserved_same step.found .lifecycle).1]
    rfl
  · obtain ⟨-, hscreen⟩ := change_goes hs hup.1 hup.2 hsame
    have hboth : step.Finishes c ↔ step.first.Completes (opening c step.mask step.found) ∧
        step.first.other.Completes (closing c step.mask step.found) :=
      ⟨fun h => ⟨h.1.2, h.2⟩, fun h => ⟨⟨hsame, h.1⟩, h.2⟩⟩
    rw [hscreen]
    simp only [decide_eq_true_eq]
    exact (if_congr hboth rfl rfl).symm

variable (calls : List ScreenCall)

/-- After a run of calls the state is remembered that the last finished change was told for. -/
lemma run_remembers (hs : s.receiver ≠ .session) (hup : ∀ step ∈ screenSteps c s calls, IsUp c step) :
    (afterDeeds c (calls.flatMap ScreenCall.deeds) s).host.flags.screen =
      (((screenSteps c s calls).filter (ScreenStep.finishes c)).getLast?.map ScreenStep.state).getD
        s.host.flags.screen := by
  induction calls using List.reverseRecOn with
  | nil => rfl
  | append_singleton calls call ih =>
    let before := afterDeeds c (calls.flatMap ScreenCall.deeds) s
    let step : ScreenStep σ := ⟨afterDeeds c (reports call.reported) before, call.mask⟩
    rw [screenSteps_snoc, List.forall_mem_append, List.forall_mem_singleton] at hup
    have hfound : step.found.receiver ≠ .session :=
      afterDeeds_not_session _ (afterDeeds_not_session _ hs)
    have hafter : afterDeeds c ((calls ++ [call]).flatMap ScreenCall.deeds) s =
        c.attend (afterScreen c step.mask step.found) := by
      rw [List.flatMap_append, afterDeeds_append, List.flatMap_singleton, afterDeeds_screen]
    have hattended := screen_of_steady ((follows_steady c).attend (afterScreen c step.mask step.found))
    rw [hafter, hattended, ScreenStep.remembers hfound hup.2, screenSteps_snoc]
    change _ = (((screenSteps c s calls ++ [step]).filter _).getLast?.map _).getD _
    cases hfinishes : step.finishes c with
    | true =>
      rw [filter_snoc_self hfinishes, if_pos rfl]
      rfl
    | false =>
      rw [filter_snoc_other hfinishes, ← ih hup.1, if_neg Bool.false_ne_true]
      exact reports_screen call.reported before

/-- What the controller last completed of either order is of the call that last finished a change, exactly if
no change since then was left half-way. -/
lemma upToDate_iff (history : List (ScreenStep σ)) :
    UpToDate c history ↔ ∀ step ∈ sinceLast (ScreenStep.finishes c) history, ¬step.Halfway c := by
  have hagrees (order : ScreenOrder) :
      (∀ n, ago (ScreenStep.completes c · order) history = some n →
          ago (ScreenStep.finishes c) history = some n) ↔
        ∀ step ∈ sinceLast (ScreenStep.finishes c) history, step.completes c order = false :=
    ago_agrees_iff (ScreenStep.completes_of_finishes order) history
  have hunfinished : ∀ step ∈ sinceLast (ScreenStep.finishes c) history, step.finishes c = false := by
    intro step hstep
    have hnot := List.mem_rtakeWhile_imp hstep
    rw [Bool.not_eq_true'] at hnot
    exact hnot
  refine ⟨fun h step hstep hhalf => ?_, fun h order => (hagrees order).mpr fun step hstep => ?_⟩
  · obtain ⟨order, hcompletes⟩ := (ScreenStep.halfway_iff (hunfinished step hstep)).mpr hhalf
    exact absurd (hcompletes.symm.trans ((hagrees order).mp (h order) step hstep)) nofun
  · rw [Bool.eq_false_iff]
    intro hcompletes
    exact h step hstep ((ScreenStep.halfway_iff (hunfinished step hstep)).mp ⟨order, hcompletes⟩)

/-- The state that an order was last confirmed for, if it ever was. -/
def told (c : Controller σ) (order : ScreenOrder) (history : List (ScreenStep σ)) : Option UInt8 :=
  ((history.filter (ScreenStep.completes c · order)).getLast?).map ScreenStep.state

/-- On a stack that stays up, a call that finds its state remembered tells nothing and leaves it so. What is
remembered is the state of the last change that was finished, with both orders confirmed in their waits. The
controller is up to date with it exactly if no change since then was left half-way, with one order confirmed
and not the other; then neither order was last confirmed for another state. -/
theorem skipped_screen_up_to_date_iff (hs : s.receiver ≠ .session)
    (hup : ∀ step ∈ screenSteps c s calls, IsUp c step) (call : ScreenCall) :
    let history := screenSteps c s calls
    let found := afterDeeds c (reports call.reported) (afterDeeds c (calls.flatMap ScreenCall.deeds) s)
    let finished := (history.filter (ScreenStep.finishes c)).getLast?
    found.host.flags.screen = (finished.map ScreenStep.state).getD s.host.flags.screen ∧
      (found.host.flags.screen = call.mask &&& Screen.stateMask →
        let after := afterScreen c call.mask found
        Asks found after [] ∧ after.host.flags.screen = found.host.flags.screen) ∧
      (UpToDate c history ↔ ∀ step ∈ sinceLast (ScreenStep.finishes c) history, ¬step.Halfway c) ∧
      (UpToDate c history → ∀ order, ∀ state ∈ told c order history, state = found.host.flags.screen) := by
  intro history found finished
  have hscreen : found.host.flags.screen = (finished.map ScreenStep.state).getD s.host.flags.screen :=
    (reports_screen call.reported _).trans (run_remembers calls hs hup)
  have hfound : found.receiver ≠ .session := afterDeeds_not_session _ (afterDeeds_not_session _ hs)
  refine ⟨hscreen, fun hsame => ?_, upToDate_iff history, fun hdate order state hstate => ?_⟩
  · have hkept := afterScreen_same c hsame
    refine ⟨?_, ?_⟩
    · rw [hkept]
      exact asks_within c .lifecycle (asks_of_trace_eq rfl)
    · rw [hkept, returned_screen, (reserved_same found .lifecycle).1]
  · have hsame : (history.filter (ScreenStep.completes c · order)).getLast? = finished :=
      last_agrees (ScreenStep.completes_of_finishes order)
        ((ago_agrees_iff (ScreenStep.completes_of_finishes order) history).mp (hdate order))
    unfold told at hstate
    rw [hsame] at hstate
    rw [hscreen, Option.mem_def.mp hstate]
    rfl

/-- The screen is unlocked again and again. -/
def unlocking (n : Nat) : List ScreenCall := List.replicate n ⟨[], Screen.onUnlocked⟩

/-- The stack after that, over a controller. -/
def unlocked (n : Nat) (script : Script) : System Script :=
  afterDeeds Script.controller ((unlocking n).flatMap ScreenCall.deeds) (upWith script)

def unlockingSteps (n : Nat) (script : Script) : List (ScreenStep Script) :=
  screenSteps Script.controller (upWith script) (unlocking n)

/-- A controller that refuses the first power sub-state it is told. -/
def refusesFirst : Script := { refusals := [(.setPowerSubState, .failed)] }

/-- Where the first try fails at once and the second finishes, a third call is passed over with reason. -/
theorem unlocked_up_to_date :
    let found := unlocked 2 refusesFirst
    (∀ step ∈ unlockingSteps 2 refusesFirst, IsUp Script.controller step) ∧
      Asks found (afterScreen Script.controller Screen.onUnlocked found) [] ∧
      UpToDate Script.controller (unlockingSteps 2 refusesFirst) ∧
      told Script.controller .parameter (unlockingSteps 2 refusesFirst) = some Screen.onUnlocked := by
  intro found
  have hreceiver : (upWith refusesFirst).receiver = .host := rfl
  have hs : (upWith refusesFirst).receiver ≠ .session := by
    rw [hreceiver]
    nofun
  have hup : ∀ step ∈ unlockingSteps 2 refusesFirst, IsUp Script.controller step :=
    List.forall_mem_cons.mpr ⟨⟨rfl, rfl⟩, List.forall_mem_singleton.mpr ⟨rfl, rfl⟩⟩
  obtain ⟨-, hskips, hdate, -⟩ :=
    skipped_screen_up_to_date_iff (unlocking 2) hs hup ⟨[], Screen.onUnlocked⟩
  have hfound : found.host.flags.screen = Screen.onUnlocked := rfl
  have hsince :
      (sinceLast (ScreenStep.finishes Script.controller) (unlockingSteps 2 refusesFirst)).isEmpty = true := by
    decide +kernel
  refine ⟨hup, (hskips hfound).1, hdate.mpr fun step hstep => ?_, by decide +kernel⟩
  exact absurd hstep (List.isEmpty_iff.mp hsince ▸ List.not_mem_nil)

/-- A controller that refuses the parameter once. -/
def refusesParameterOnce : Script := { refusals := [(.setParameter, .failed)] }

/-- A change to the unlocked screen fails at its second order. Going back to the state that is still remembered
tells nothing, and leaves the controller with the sub-state of the unlocked screen. -/
theorem half_failed_change_stays :
    let found := unlocked 1 refusesParameterOnce
    let after := afterScreen Script.controller Screen.offLocked found
    let history := unlockingSteps 1 refusesParameterOnce
    (∀ step ∈ history, IsUp Script.controller step) ∧ IsUp Script.controller ⟨found, Screen.offLocked⟩ ∧
      (upWith refusesParameterOnce).host.flags.screen = Screen.offLocked ∧
      found.host.flags.screen = Screen.offLocked ∧
      callerRequests (after.trace.drop found.trace.length) = [] ∧
      told Script.controller .subState history = some Screen.onUnlocked ∧
      ¬UpToDate Script.controller history := by
  intro found after history
  have hup : ∀ step ∈ history, IsUp Script.controller step := List.forall_mem_singleton.mpr ⟨rfl, rfl⟩
  have htold : told Script.controller .subState history = some Screen.onUnlocked := by decide +kernel
  have hcompleted : ago (ScreenStep.completes Script.controller · .subState) history = some 0 := by
    decide +kernel
  have hfinished : ago (ScreenStep.finishes Script.controller) history = none := by decide +kernel
  refine ⟨hup, ⟨rfl, rfl⟩, rfl, rfl, rfl, htold, fun h => ?_⟩
  exact absurd (hfinished.symm.trans (h .subState 0 hcompleted)) nofun

end Histories

end NfcStack.Proofs
