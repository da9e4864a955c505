import NfcStack.Proofs.RadioOrders

/-!
# The state of the screen

A new state of the screen is told to the controller in two exchanges, the second only if the first was
completed. It is remembered if both were, whatever status the completions carry.
-/

namespace NfcStack.Proofs

open NfcStack.Discovery (Screen.onUnlocked Screen.offLocked Screen.stateMask Screen.parameter)

variable {σ : Type}

section Orders

/-- What the controller is told about the screen, and waited for. -/
inductive ScreenOrder where
  | subState
  | parameter
  deriving DecidableEq

namespace ScreenOrder

def request (mask : UInt8) : ScreenOrder → Request
  | .subState => .setPowerSubState (mask &&& Screen.stateMask)
  | .parameter => Screen.parameter mask

def venue : ScreenOrder → Venue Status
  | .subState => Venue.powerSubState
  | .parameter => Venue.parameter

/-- The completions of the order. -/
def answer : ScreenOrder → Event → Option Status
  | .subState, .powerSubStateSet status => some status
  | .parameter, .parameterSet status => some status
  | _, _ => none

def run (mask : UInt8) : ScreenOrder → Op σ Bool
  | .subState => Discovery.sendPowerSubState (mask &&& Screen.stateMask)
  | .parameter => Discovery.sendParameter mask

/-- The order that goes first when a state of the screen is left. -/
def leading (state : UInt8) : ScreenOrder :=
  if state = Screen.onUnlocked then .parameter else .subState

def other : ScreenOrder → ScreenOrder
  | .subState => .parameter
  | .parameter => .subState

variable (order : ScreenOrder)

/-- The order was accepted, and some completion of it arrived in the wait. -/
def Completes (x : Exchange σ) : Prop := x.accepted ∧ (x.answer? order.answer).isSome = true

/-- The order was accepted, and the last completion of it that arrived in the wait was `ok`. -/
def Approves (x : Exchange σ) : Prop := x.accepted ∧ x.answer? order.answer = some .ok

instance (x : Exchange σ) : Decidable (order.Completes x) :=
  inferInstanceAs (Decidable (x.verdict.isOk = true ∧ _))

instance (x : Exchange σ) : Decidable (order.Approves x) :=
  inferInstanceAs (Decidable (x.verdict.isOk = true ∧ _))

variable {order}

lemma Approves.completes {x : Exchange σ} (h : order.Approves x) : order.Completes x :=
  ⟨h.1, by rw [h.2]; rfl⟩

variable (order)

lemma request_ne_enable (mask : UInt8) : order.request mask ≠ .enable := by
  cases order with
  | subState => nofun
  | parameter => nofun

lemma run_eq (mask : UInt8) : (order.run mask : Op σ Bool) = do
    let outcome ← Op.call order.venue (order.request mask)
    return outcome.isCompleted := by
  cases order with
  | subState => rfl
  | parameter => rfl

lemma hears_subState : Hears Venue.powerSubState (answer .subState) where
  view _ _ := rfl
  abort host := keeps_abort host.powerSubState
  abortSession _ := keeps_nil _
  hear event host := by
    cases event with
    | powerSubStateSet status => exact keeps_notify (answer .subState) rfl host.powerSubState
    | activated act => exact keeps_tag (fun _ _ _ _ => rfl) rfl rfl host
    | discovered status notice => exact keeps_tag (fun _ _ _ _ => rfl) rfl rfl host
    | deactivated sleep => exact keeps_tag (fun _ _ _ _ => rfl) rfl rfl host
    | _ => exact keeps_deaf rfl (keeps_nil _)

lemma hears_parameter : Hears Venue.parameter (answer .parameter) where
  view _ _ := rfl
  abort host := keeps_abort host.parameter
  abortSession _ := keeps_nil _
  hear event host := by
    cases event with
    | parameterSet status => exact keeps_notify (answer .parameter) rfl host.parameter
    | activated act => exact keeps_tag (fun _ _ _ _ => rfl) rfl rfl host
    | discovered status notice => exact keeps_tag (fun _ _ _ _ => rfl) rfl rfl host
    | deactivated sleep => exact keeps_tag (fun _ _ _ _ => rfl) rfl rfl host
    | _ => exact keeps_deaf rfl (keeps_nil _)

lemma hears : Hears order.venue order.answer := by
  cases order with
  | subState => exact hears_subState
  | parameter => exact hears_parameter

lemma venue_steady (f : Rendezvous Status → Rendezvous Status) (host : Host) :
    steady (order.venue.map f host) = steady host := by
  cases order with
  | subState => rfl
  | parameter => rfl

variable (c : Controller σ) (mask : UInt8) (s : System σ)

/-- The exchange by which the order is given. -/
def exchange : Exchange σ := Proofs.exchange c order.venue (order.request mask) s

/-- The system after the order. -/
def after : System σ := (order.exchange c mask s).ended.mapHost (order.venue.map .disarm)

lemma run_snd : ((order.run mask).run c.alone s).2 = order.after c mask s := by
  rw [run_eq, Op.run_bind, call_alone]
  rfl

/-- An order reports success exactly if it is completed, with whatever status. -/
lemma run_succeeds {s : System σ} (hs : s.receiver ≠ .session) :
    ((order.run mask).run c.alone s).1 = true ↔ order.Completes (order.exchange c mask s) := by
  have hcompleted (status : Status) :=
    call_completed c order.hears (order.request_ne_enable mask) hs status
  rw [run_eq, Op.run_bind]
  generalize (Op.call order.venue (order.request mask)).run c.alone s = call at *
  change call.1.isCompleted = true ↔ _
  unfold Completes
  rw [Option.isSome_iff_exists]
  cases houtcome : call.1 with
  | completed status =>
    obtain ⟨haccepted, hanswer⟩ := (hcompleted status).mp houtcome
    exact ⟨fun _ => ⟨haccepted, status, hanswer⟩, fun _ => rfl⟩
  | _ =>
    refine ⟨fun h => absurd h Bool.false_ne_true, fun ⟨haccepted, status, hanswer⟩ => ?_⟩
    exact absurd (houtcome.symm.trans ((hcompleted status).mpr ⟨haccepted, hanswer⟩)) nofun

lemma after_asks : Asks s (order.after c mask s) [order.request mask] :=
  exchange_asks c order.venue (order.request mask) s

lemma after_receiver {s : System σ} (hs : s.receiver ≠ .session) :
    (order.after c mask s).receiver = s.receiver :=
  (exchange_listens c order.hears (order.request_ne_enable mask) hs).1

lemma after_steady : steady (order.after c mask s).host = steady s.host := by
  have hasked : steady (order.exchange c mask s).asked.host = steady s.host := order.venue_steady .arm s.host
  have hended := (follows_steady c).duringCall (fun _ _ => rfl) order.venue (order.request mask) s
  exact ((order.venue_steady .disarm _).trans hended).trans hasked

end ScreenOrder

end Orders

section Change

open ScreenOrder (leading)

variable (c : Controller σ) (mask : UInt8) (s : System σ)

/-- The exchange by which a change of the screen's state begins. -/
def opening : Exchange σ := (leading s.host.flags.screen).exchange c mask (reserved .lifecycle s)

/-- The exchange that comes after it. -/
def closing : Exchange σ :=
  (leading s.host.flags.screen).other.exchange c mask
    ((leading s.host.flags.screen).after c mask (reserved .lifecycle s))

/-- The system after the host was given a state of the screen. -/
def afterScreen : System σ := ((Discovery.setScreen mask).run c.alone s).2

lemma sendScreen_eq (state : UInt8) :
    (Discovery.sendScreen mask (state == Screen.onUnlocked) : Op σ Bool) = do
      if ← (leading state).run mask then (leading state).other.run mask else return false := by
  unfold leading Discovery.sendScreen
  by_cases hleaving : state = Screen.onUnlocked
  · rw [if_pos hleaving, hleaving]
    rfl
  · rw [if_neg hleaving, beq_false_of_ne hleaving]
    rfl

lemma reserved_same (resource : Resource) :
    (reserved resource s).host.flags = s.host.flags ∧ (reserved resource s).receiver = s.receiver ∧
      (reserved resource s).controller = s.controller := by
  unfold reserved
  split
  · exact ⟨rfl, rfl, rfl⟩
  · exact ⟨rfl, rfl, rfl⟩

lemma returned_screen (resource : Resource) (t : System σ) :
    (returned c resource s t).host.flags.screen = t.host.flags.screen := by
  unfold returned
  split
  · rfl
  · have hkept := release_steady c (t.mapHost (giveBack s.host.inUse))
    exact (screen_of_steady hkept).trans rfl

/-- How the controller is told, once the life cycle is reserved. -/
def telling : Bool × System σ :=
  (Discovery.sendScreen mask (s.host.flags.screen == Screen.onUnlocked)).run c.alone (reserved .lifecycle s)

lemma telling_run :
    let first := leading s.host.flags.screen
    let begun := (first.run mask).run c.alone (reserved .lifecycle s)
    telling c mask s = if begun.1 then (first.other.run mask).run c.alone begun.2 else (false, begun.2) := by
  intro first begun
  unfold telling
  rw [sendScreen_eq, Op.run_bind]
  change (if begun.1 = true then first.other.run mask else pure false : Op σ Bool).run c.alone begun.2 = _
  split
  · rfl
  · rfl

variable {s} in
/-- Telling the controller succeeds if both orders are completed, with whatever status. It changes nothing
that is remembered. -/
lemma telling_goes (hs : s.receiver ≠ .session) :
    let first := leading s.host.flags.screen
    ((telling c mask s).1 = true ↔
        first.Completes (opening c mask s) ∧ first.other.Completes (closing c mask s)) ∧
      Asks (reserved .lifecycle s) (telling c mask s).2 (first.request mask ::
        if first.Completes (opening c mask s) then [first.other.request mask] else []) ∧
      (telling c mask s).2.host.flags.screen = s.host.flags.screen := by
  intro first
  obtain ⟨hflags, hreceiver, -⟩ := reserved_same s .lifecycle
  have hs' : (reserved .lifecycle s).receiver ≠ .session := by
    rw [hreceiver]
    exact hs
  have hopened := first.run_succeeds c mask hs'
  have hclosed := first.other.run_succeeds c mask (s := first.after c mask (reserved .lifecycle s))
    (by rw [first.after_receiver c mask hs']; exact hs')
  have hasks := first.after_asks c mask (reserved .lifecycle s)
  have hsteady := first.after_steady c mask (reserved .lifecycle s)
  have hkept : (reserved .lifecycle s).host.flags.screen = s.host.flags.screen := congrArg Flags.screen hflags
  rw [telling_run, first.run_snd]
  by_cases hdone : first.Completes (opening c mask s)
  · rw [if_pos (hopened.mpr hdone), if_pos hdone, first.other.run_snd]
    refine ⟨hclosed.trans ⟨fun h => ⟨hdone, h⟩, fun h => h.2⟩, ?_, ?_⟩
    · exact hasks.trans (first.other.after_asks c mask _)
    · exact (screen_of_steady ((first.other.after_steady c mask _).trans hsteady)).trans hkept
  · rw [if_neg fun h => hdone (hopened.mp h), if_neg hdone]
    exact ⟨⟨fun h => absurd h Bool.false_ne_true, fun h => absurd h.1 hdone⟩, hasks,
      (screen_of_steady hsteady).trans hkept⟩

variable {mask s} in
/-- A state that is remembered already is not told again. -/
lemma afterScreen_same (h : s.host.flags.screen = mask &&& Screen.stateMask) :
    afterScreen c mask s = returned c .lifecycle s (reserved .lifecycle s) := by
  unfold afterScreen Discovery.setScreen
  rw [reserving_run]
  simp only [Op.run_bind, Op.run_read, (reserved_same s .lifecycle).1, if_pos h]
  rfl

variable {mask s} in
lemma afterScreen_changed (hactive : s.host.flags.active = true)
    (hversion : c.version s.controller = Controller.version2)
    (h : s.host.flags.screen ≠ mask &&& Screen.stateMask) :
    afterScreen c mask s = returned c .lifecycle s
      (if (telling c mask s).1 then
        (telling c mask s).2.mapHost
          (Host.mapFlags fun flags => { flags with screen := mask &&& Screen.stateMask })
      else (telling c mask s).2) := by
  obtain ⟨hflags, -, hcontroller⟩ := reserved_same s .lifecycle
  unfold afterScreen Discovery.setScreen
  rw [reserving_run]
  refine congrArg (returned c .lifecycle s) ?_
  have hup : (!s.host.flags.active ||
      c.alone.controller.version (reserved .lifecycle s).controller != Controller.version2) = false := by
    change (!s.host.flags.active || c.version (reserved .lifecycle s).controller != Controller.version2) = _
    rw [hactive, hcontroller, hversion]
    rfl
  simp only [Op.run_bind, Op.run_read, Op.run_version, hflags, if_neg h, hup, Bool.false_eq_true, if_false]
  unfold telling
  split
  · rfl
  · rfl

/-- The second order is given only if the first was approved, and the state is remembered exactly if both
were. -/
def GoesByApproval : Prop :=
  let first := leading s.host.flags.screen
  let x := opening c mask s
  let y := closing c mask s
  Asks s (afterScreen c mask s)
      (first.request mask :: if first.Approves x then [first.other.request mask] else []) ∧
    (afterScreen c mask s).host.flags.screen =
      if first.Approves x ∧ first.other.Approves y then mask &&& Screen.stateMask
      else s.host.flags.screen

variable {c mask s} in
/-- A new state is told to the controller, and remembered if that succeeds. -/
lemma change_goes (hs : s.receiver ≠ .session) (hactive : s.host.flags.active = true)
    (hversion : c.version s.controller = Controller.version2)
    (hchange : s.host.flags.screen ≠ mask &&& Screen.stateMask) :
    let first := leading s.host.flags.screen
    Asks s (afterScreen c mask s)
        (first.request mask ::
          if first.Completes (opening c mask s) then [first.other.request mask] else []) ∧
      (afterScreen c mask s).host.flags.screen =
        if first.Completes (opening c mask s) ∧ first.other.Completes (closing c mask s) then
          mask &&& Screen.stateMask
        else s.host.flags.screen := by
  intro first
  obtain ⟨hdone, hasks, hscreen⟩ := telling_goes c mask hs
  rw [afterScreen_changed c hactive hversion hchange, returned_screen]
  by_cases hsucceeds : (telling c mask s).1 = true
  · have hnothing : Asks (telling c mask s).2 ((telling c mask s).2.mapHost (Host.mapFlags fun flags =>
        { flags with screen := mask &&& Screen.stateMask })) [] := asks_of_trace_eq rfl
    have hwhole := hasks.trans hnothing
    rw [List.append_nil] at hwhole
    rw [if_pos hsucceeds, if_pos (hdone.mp hsucceeds)]
    exact ⟨asks_within c .lifecycle hwhole, rfl⟩
  · rw [if_neg hsucceeds, if_neg fun h => hsucceeds (hdone.mpr h)]
    exact ⟨asks_within c .lifecycle hasks, hscreen⟩

/-- On a stack that is up a state of the screen that is remembered already is not told again. Any other is
told in two orders, the parameter first when the unlocked screen is left. The second is given if the first was
completed, and the state is remembered if both were, whatever status the completions carry; an order that is
refused, times out or is aborted changes nothing. So the change goes by what the controller approves exactly if
no completion that counts carries anything but `ok`. -/
theorem screen_goes_by_completions {s : System σ} (hs : s.receiver ≠ .session)
    (hactive : s.host.flags.active = true) (hversion : c.version s.controller = Controller.version2) :
    let cached := s.host.flags.screen
    let state := mask &&& Screen.stateMask
    let after := afterScreen c mask s
    let first := leading cached
    let x := opening c mask s
    let y := closing c mask s
    (cached = state → Asks s after [] ∧ after.host.flags.screen = cached) ∧
      (cached ≠ state →
        Asks s after
          (first.request mask :: if first.Completes x then [first.other.request mask] else []) ∧
        after.host.flags.screen =
          (if first.Completes x ∧ first.other.Completes y then state else cached) ∧
        (GoesByApproval c mask s ↔
          (first.Completes x →
            first.Approves x ∧ (first.other.Completes y → first.other.Approves y)))) := by
  intro cached state after first x y
  refine ⟨fun hsame => ?_, fun hchange => ?_⟩
  · change Asks s (afterScreen c mask s) [] ∧ (afterScreen c mask s).host.flags.screen = cached
    rw [afterScreen_same c hsame, returned_screen, (reserved_same s .lifecycle).1]
    exact ⟨asks_within c .lifecycle (asks_of_trace_eq rfl), rfl⟩
  obtain ⟨hasks, hscreen⟩ := change_goes hs hactive hversion hchange
  refine ⟨hasks, hscreen, fun ⟨happroved, hkept⟩ hx => ?_, fun hsound => ?_⟩
  · have hrequests := hasks.made.symm.trans happroved.made
    rw [if_pos hx] at hrequests
    have hfirst : first.Approves x := by
      by_contra hnot
      rw [if_neg hnot] at hrequests
      exact absurd (List.cons.inj hrequests).2 nofun
    refine ⟨hfirst, fun hy => ?_⟩
    by_contra hnot
    rw [if_pos ⟨hx, hy⟩] at hscreen
    rw [if_neg fun h => hnot h.2] at hkept
    exact hchange (hkept.symm.trans hscreen)
  · have hopened : first.Completes x ↔ first.Approves x :=
      ⟨fun hx => (hsound hx).1, ScreenOrder.Approves.completes⟩
    have hclosed : first.Completes x ∧ first.other.Completes y ↔
        first.Approves x ∧ first.other.Approves y :=
      ⟨fun h => ⟨(hsound h.1).1, (hsound h.1).2 h.2⟩, fun h => ⟨h.1.completes, h.2.completes⟩⟩
    rw [if_congr hopened rfl rfl] at hasks
    rw [if_congr hclosed rfl rfl] at hscreen
    exact ⟨hasks, hscreen⟩

/-- A controller that refuses the parameter. -/
def refusingParameter : Script := { standing := [(.setParameter, .failed)] }

/-- Where the second order is refused the state stays as it was. -/
theorem refused_parameter_keeps_screen :
    let s := upWith refusingParameter
    let after := afterScreen Script.controller Screen.onUnlocked s
    s.host.flags.screen = Screen.offLocked ∧ after.host.flags.screen = Screen.offLocked ∧
      Asks s after [.setPowerSubState 0x01, .setParameter 0x02 [0x01]] := by
  intro s after
  have hreceiver : s.receiver ≠ .session := by
    have hhost : s.receiver = .host := rfl
    rw [hhost]
    nofun
  obtain ⟨-, hchange⟩ := screen_goes_by_completions Script.controller Screen.onUnlocked hreceiver rfl rfl
  obtain ⟨hasks, hscreen, -⟩ := hchange (by decide)
  have hopened : ScreenOrder.subState.Completes (opening Script.controller Screen.onUnlocked s) :=
    ⟨rfl, rfl⟩
  have hclosed : ¬ScreenOrder.parameter.Completes (closing Script.controller Screen.onUnlocked s) :=
    fun h => absurd h.1 nofun
  have hbefore : s.host.flags.screen = Screen.offLocked := rfl
  have hfirst : leading s.host.flags.screen = .subState := rfl
  rw [hfirst, if_pos hopened] at hasks
  rw [hfirst, if_neg fun h => hclosed h.2] at hscreen
  have hkept := hscreen.trans hbefore
  exact ⟨hbefore, hkept, hasks⟩

/-- A controller that completes the order of the power sub-state with a failure. -/
def failingSubState : Script := { completions := [(.setPowerSubState, .failed)] }

/-- A failed completion counts as one: the other order follows, and the state is remembered though the
controller did not take it over. -/
theorem failed_completion_remembered :
    let s := upWith failingSubState
    let after := afterScreen Script.controller Screen.onUnlocked s
    let since := after.trace.drop s.trace.length
    s.host.flags.active = true ∧ Script.controller.version s.controller = Controller.version2 ∧
      s.host.flags.screen = Screen.offLocked ∧
      callerRequests since = [.setPowerSubState 0x01, .setParameter 0x02 [0x01]] ∧
      eventsOf since = [.powerSubStateSet .failed, .parameterSet .ok] ∧
      after.host.flags.screen = Screen.onUnlocked :=
  ⟨rfl, rfl, rfl, rfl, rfl, rfl⟩

end Change

end NfcStack.Proofs
