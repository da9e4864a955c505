import Mathlib.Data.List.Induction
import NfcStack.Rendezvous.Run
/-!
# The window of a rendezvous

A window is what was signalled since the live token was taken. Everything a rendezvous answers is read
off the open window alone: what came before it, or while no token was live, has no effect.
-/

namespace NfcStack.Proofs

open Rendezvous

variable {α : Type}

section Window

/-- The values notified, in order. -/
def notified (window : List (Signal α)) : List α :=
  window.filterMap fun
    | .notify value => some value
    | _ => none

def isAbort : Signal α → Bool
  | .abort => true
  | _ => false

/-- How a window ends: by its last value, by an abort when it has no value, else by the time limit. -/
def windowOutcome (window : List (Signal α)) : Outcome α :=
  match (notified window).getLast? with
  | some value => .completed value
  | none => if window.any isAbort then .aborted else .timedOut

/-- What a step makes of the open window. Taking a second token, or a call, is held up while one is
live. -/
def windowAfter (window : Option (List (Signal α))) : Step α → Option (List (Signal α))
  | .signal signal => window.map (· ++ [signal])
  | .arm => some (window.getD [])
  | .drop => none
  | .wait => none
  | .call _ _ => window

/-- The window open after these steps, or nothing when no token is live. -/
def openWindow (history : List (Step α)) : Option (List (Signal α)) :=
  history.foldl windowAfter none

def keepsToken : Step α → Bool
  | .drop => false
  | .wait => false
  | _ => true

/-- The signals among the steps, apart from those inside a call. -/
def signalsIn (steps : List (Step α)) : List (Signal α) :=
  steps.filterMap fun
    | .signal signal => some signal
    | _ => none

/-- What is answered to a signal, going by whether a token is live. -/
def signalAnswer (live : Bool) : Signal α → Reply α
  | .notify _ => .verdict live
  | .abort => .done
  | .isArmed => .verdict live
  | .name => .name

/-- What is answered to a step, going by the open window. -/
def windowAnswer (window : Option (List (Signal α))) : Step α → Reply α
  | .signal signal => signalAnswer window.isSome signal
  | .arm => if window.isSome then .pending else .done
  | .drop => .done
  | .wait =>
    match window with
    | some window => .ended (windowOutcome window)
    | none => .notArmed
  | .call issued during =>
    if window.isSome then .pending
    else .called (if issued.isOk then windowOutcome during else .rejected issued)
      (during.map (signalAnswer true))

lemma openWindow_append (history more : List (Step α)) :
    openWindow (history ++ more) = more.foldl windowAfter (openWindow history) :=
  List.foldl_append

/-- While the token is kept the window grows by the signals and by nothing else. -/
lemma window_grows (window : List (Signal α)) (since : List (Step α))
    (hkeeps : ∀ step ∈ since, keepsToken step = true) :
    since.foldl windowAfter (some window) = some (window ++ signalsIn since) := by
  induction since generalizing window with
  | nil => simp [signalsIn]
  | cons step since ih =>
    have hrest : ∀ step ∈ since, keepsToken step = true := fun step h => hkeeps step (.tail _ h)
    have hstep := hkeeps step (.head _)
    cases step with
    | signal signal =>
      show since.foldl windowAfter (some (window ++ [signal])) = _
      rw [ih _ hrest, List.append_assoc]
      rfl
    | arm => exact ih window hrest
    | drop => cases hstep
    | wait => cases hstep
    | call issued during => exact ih window hrest

/-- The open window is what was signalled since the arm that took the token. -/
lemma openWindow_eq_some (history : List (Step α)) (window : List (Signal α)) :
    openWindow history = some window ↔
      ∃ earlier since, history = earlier ++ .arm :: since ∧ openWindow earlier = none ∧
        (∀ step ∈ since, keepsToken step = true) ∧ signalsIn since = window := by
  constructor
  · intro hopen
    induction history using List.reverseRecOn generalizing window with
    | nil => cases hopen
    | append_singleton history step ih =>
      rw [openWindow_append] at hopen
      -- a token that was live before this step was taken by an earlier arm
      have hlive : ∀ before, openWindow history = some before → keepsToken step = true →
          before ++ signalsIn [step] = window →
          ∃ earlier since, history ++ [step] = earlier ++ .arm :: since ∧ openWindow earlier = none ∧
            (∀ step ∈ since, keepsToken step = true) ∧ signalsIn since = window := by
        intro before hbefore hkeeps hwindow
        obtain ⟨earlier, since, hhistory, hfree, hsince, hsignals⟩ := ih before hbefore
        refine ⟨earlier, since ++ [step], by simp [hhistory], hfree, ?_, ?_⟩
        · simpa [or_imp, forall_and] using ⟨hsince, hkeeps⟩
        · rw [← hwindow, ← hsignals]
          exact List.filterMap_append
      cases step with
      | signal signal =>
        obtain ⟨before, hbefore, hwindow⟩ := Option.map_eq_some_iff.mp hopen
        exact hlive before hbefore rfl hwindow
      | arm =>
        cases hbefore : openWindow history with
        | some before =>
          rw [hbefore] at hopen
          exact hlive before hbefore rfl (by simpa [windowAfter, signalsIn] using hopen)
        | none =>
          rw [hbefore] at hopen
          exact ⟨history, [], rfl, hbefore, by simp, by simpa [windowAfter, signalsIn] using hopen⟩
      | drop => cases hopen
      | wait => cases hopen
      | call issued during => exact hlive window hopen rfl (by simp [signalsIn])
  · rintro ⟨earlier, since, rfl, hfree, hsince, rfl⟩
    rw [openWindow_append, hfree]
    exact window_grows [] since hsince

end Window

section Slot

/-- What the slot holds while a window is open. -/
def slotOf : Option (List (Signal α)) → Rendezvous α
  | none => {}
  | some window =>
    { armed := true, aborted := window.any isAbort, value := (notified window).getLast? }

@[simp]
lemma slotOf_armed (window : Option (List (Signal α))) :
    (slotOf window).armed = window.isSome := by
  cases window <;> rfl

/-- A signal is added to the open window, and lost when none is open. -/
lemma slotOf_signal (window : Option (List (Signal α))) (signal : Signal α) :
    (slotOf window).signal signal =
      (signalAnswer window.isSome signal, slotOf (window.map (· ++ [signal]))) := by
  cases window with
  | none => cases signal <;> rfl
  | some window =>
    cases signal <;>
      simp [slotOf, Rendezvous.signal, Rendezvous.notify, Rendezvous.abort, signalAnswer, notified,
        isAbort]

lemma slotOf_signals (window : List (Signal α)) (during : List (Signal α)) :
    (slotOf (some window)).signals during =
      (during.map (signalAnswer true), slotOf (some (window ++ during))) := by
  induction during generalizing window with
  | nil => simp [Rendezvous.signals]
  | cons signal during ih =>
    simp only [Rendezvous.signals, slotOf_signal, Option.isSome_some, Option.map_some, ih,
      List.map_cons, List.append_assoc, List.cons_append, List.nil_append]

/-- Every step answers by the open window and leaves the slot of the window it makes of it. -/
lemma slotOf_step (window : Option (List (Signal α))) (step : Step α) :
    (slotOf window).step step = (windowAnswer window step, slotOf (windowAfter window step)) := by
  cases step with
  | signal signal => exact slotOf_signal window signal
  | arm => cases window <;> rfl
  | drop => rfl
  | wait => cases window <;> rfl
  | call issued during =>
    cases window with
    | some window => rfl
    | none =>
      have hsignals := slotOf_signals [] during
      simp only [Rendezvous.step, slotOf_armed, windowAnswer, windowAfter, Option.isSome_none,
        Bool.false_eq_true, if_false]
      rw [show (slotOf (none : Option (List (Signal α)))).arm = slotOf (some []) from rfl, hsignals]
      rfl

lemma slotOf_run (window : Option (List (Signal α))) (steps : List (Step α)) :
    ((slotOf window).run steps).2 = slotOf (steps.foldl windowAfter window) := by
  induction steps generalizing window with
  | nil => rfl
  | cons step steps ih => simp only [Rendezvous.run, slotOf_step, ih, List.foldl_cons]

/-- The reply to a step is the one the slot left by the steps before it gives. -/
lemma run_reply (r : Rendezvous α) (history : List (Step α)) (step : Step α)
    (later : List (Step α)) :
    (r.run (history ++ step :: later)).1[history.length]? =
      some ((r.run history).2.step step).1 := by
  induction history generalizing r with
  | nil => rfl
  | cons first history ih =>
    simpa only [List.cons_append, Rendezvous.run, List.length_cons, List.getElem?_cons_succ] using
      ih (r.step first).2

end Slot

/-- In every run of a rendezvous each step is answered by the window open at that moment, whatever else
was done before. That window holds what was signalled since the arm that took the live token. A wait
ends by it, a call by the signals during the call unless its request was refused, and a notification
arrives exactly when a token is live. -/
theorem window_law (history : List (Step α)) (step : Step α) (later : List (Step α)) :
    (({} : Rendezvous α).run (history ++ step :: later)).1[history.length]? =
        some (windowAnswer (openWindow history) step) ∧
      (∀ window, openWindow history = some window ↔
        ∃ earlier since, history = earlier ++ .arm :: since ∧ openWindow earlier = none ∧
          (∀ step ∈ since, keepsToken step = true) ∧ signalsIn since = window) := by
  refine ⟨?_, openWindow_eq_some history⟩
  rw [run_reply, show ({} : Rendezvous α) = slotOf none from rfl, slotOf_run, slotOf_step]
  rfl

-- a value left by a dropped token does not complete the next request
example : (({} : Rendezvous Nat).run
      [.arm, .signal (.notify 1), .drop, .call .ok [], .signal (.notify 2)]).1 =
    [.done, .verdict true, .done, .called .timedOut [], .verdict false] := rfl

end NfcStack.Proofs
