import NfcStack.Bench.Sample
import NfcStack.Bench.Script
import NfcStack.Proofs.TagHold
import NfcStack.Proofs.WaysDown

/-!
# Swallowed activations

A target that is reported active is a new tag, or the tag that was put to sleep and was to be selected
again. The host tells the two apart by a mark that the sleep of a tag sets. Selecting a tag again does not
clear that mark, whatever comes of it, so the next tag may be taken for the one that slept.
-/

namespace NfcStack.Proofs

variable {σ : Type} {c : Controller σ} {s : System σ}

section Swallowing

/-- A tag that is being selected again keeps an activation from being told. -/
lemma hearActivation_swallowed (act : Activation) {host : Host}
    (hagain : host.flags.reconnecting = true) :
    (hearActivation act host).session.slots = host.session.slots ∧ activationTidings act host = [] := by
  have hmarked : (host.mapFlags fun flags => { flags with tagActive := true }).flags.reconnecting = true :=
    hagain
  unfold hearActivation activationTidings
  refine ⟨?_, by rw [hagain, Bool.or_true, if_pos rfl]⟩
  split
  · rfl
  · dsimp only
    rw [if_pos hmarked]
    rfl

/-- What is told of an eligible activation that finds room. -/
lemma deliver_activation_tells (hr : s.receiver = .host) (hup : s.host.flags.disabling = false)
    (hlistens : s.host.listener = .recording)
    (hroom : s.host.session.slots.length < Technology.tableSize) {act : Activation}
    (heligible : isEligible act = true) :
    System.notificationsOf (c.deliver (.event (.activated act)) s).trace =
      System.notificationsOf s.trace ++ if s.host.flags.reconnecting then []
        else [discoveryOf s.host.endpoints.length (endpointFor s.host.session.slots act)] := by
  rw [deliver_tells c hr, heardBy_recording hlistens]
  change _ ++ activationTidings act s.host = _
  cases hagain : s.host.flags.reconnecting with
  | true =>
    rw [(hearActivation_swallowed act hagain).2]
    rfl
  | false =>
    cases welcomes act hup hagain with
    | ignores h hhost htold =>
      rw [heligible] at h
      exact absurd h nofun
    | fills h hfull hhost htold => omega
    | discovers h hroom session hsession hhost htold =>
      rw [htold]
      rfl

end Swallowing

section Selecting

/-- Acts of selecting a tag leave the mark of its sleep to the reports. -/
lemma selecting_accounts :
    Accounts Selecting fun hold other => hold.reconnecting = other.reconnecting where
  refl _ := rfl
  trans := Eq.trans
  enter {hold other} entry h := by
    rw [(hold.enter_marks entry).2, (other.enter_marks entry).2, h]
  change change hp host := by
    cases change with
    | waits f hf => exact congrArg TagHold.reconnecting (hf.hold host)
    | fieldBound bound => rfl
    | session change => rfl
    | _ => exact hp.elim

lemma tag_reconnect_mark (c : Controller σ) (hs : s.receiver ≠ .session) (target : Connection)
    (restart : Bool) :
    let t := ((Tag.reconnect target restart).run c.alone s).2
    t.host.flags.reconnecting =
      stands putsToSleep reportsEmpty (t.trace.drop s.trace.length) s.host.flags.reconnecting := by
  intro t
  have hkeeps : KeepsTo Selecting c.alone (Tag.reconnect target restart : Op σ Bool) :=
    tag_reconnect_keepsTo (orderly_alone _ c) (fun _ h => h) target restart
  obtain ⟨-, new, htrace, hmark⟩ := (hkeeps s).goesBy selecting_accounts hs
  rw [TagHold.after_reconnecting] at hmark
  have hsince : t.trace.drop s.trace.length = new := trace_since htrace
  rw [hsince]
  exact hmark

end Selecting

/-- In a run with a stack that is active, of an eligible activation that finds room exactly one discovery
is told if no tag is marked as being selected again, and otherwise nothing, nor is its slot kept. The mark
is there only if a tag was put to sleep since the field was empty, but selecting a tag again leaves it as
it was set meanwhile, so that it outlives the selection. -/
theorem activation_told_unless_reconnecting (c : Controller σ) (companions : List (Companion σ))
    (config : Config) (x : σ) (deeds : List Deed) :
    let s := ran c companions config x deeds
    (s.host.flags.active = true → s.host.listener = .recording →
        s.host.session.slots.length < Technology.tableSize → ∀ act, isEligible act = true →
        let t := c.deliver (.event (.activated act)) s
        ((∃ found, isTagDiscovery found = true ∧
            System.notificationsOf t.trace = System.notificationsOf s.trace ++ [found]) ↔
          s.host.flags.reconnecting = false) ∧
        (s.host.flags.reconnecting = true →
          System.notificationsOf t.trace = System.notificationsOf s.trace ∧
            t.host.session.slots = s.host.session.slots)) ∧
      (s.host.flags.reconnecting = true →
        ∃ entry ∈ sinceLast reportsEmpty s.trace, putsToSleep entry = true) ∧
      ∀ target restart,
        let again := ((Tag.reconnect target restart).run c.alone s).2
        again.host.flags.reconnecting =
          stands putsToSleep reportsEmpty (again.trace.drop s.trace.length) s.host.flags.reconnecting := by
  intro s
  obtain ⟨-, -, hattended⟩ := ran_at_rest c companions config x deeds
  have hevolves : Evolves c (fun _ => True) (booted config x) s :=
    ran_evolves (fun _ => trivial) c companions config x deeds
  refine ⟨fun hactive hlistens hroom act heligible => ?_, (ran_marks c companions config x deeds).2,
    fun target restart => tag_reconnect_mark c hattended.not_session target restart⟩
  have hr : s.receiver = .host := active_receives hactive hattended (hevolves.woken fun _ => rfl)
  have hup : s.host.flags.disabling = false := by
    unfold Flags.active at hactive
    rw [Bool.and_eq_true, Bool.not_eq_true'] at hactive
    exact hactive.2
  have htold := deliver_activation_tells (c := c) hr hup hlistens hroom heligible
  refine ⟨⟨?_, fun hfresh => ?_⟩, fun hagain => ⟨?_, ?_⟩⟩
  · rintro ⟨found, -, hfound⟩
    by_contra hagain
    rw [hfound, eq_true_of_ne_false hagain] at htold
    exact absurd (List.append_cancel_left htold) nofun
  · rw [hfresh] at htold
    exact ⟨_, rfl, htold⟩
  · rw [htold, hagain]
    exact List.append_nil _
  · rw [(deliver_host c hr _).host]
    exact (hearActivation_swallowed act hagain).1

/-- Of a first card that is reported to a stack that is up exactly one discovery is told. -/
theorem first_card_told :
    let s := ran Script.controller [] {} {} firstBringUp
    let t := Script.controller.deliver (.event (.activated (Sample.isoDepCard 1))) s
    s.host.flags.active = true ∧ s.host.listener = .recording ∧ s.host.flags.reconnecting = false ∧
      ∃ found, isTagDiscovery found = true ∧
        System.notificationsOf t.trace = System.notificationsOf s.trace ++ [found] := by
  obtain ⟨htells, -, -⟩ :=
    activation_told_unless_reconnecting Script.controller [] {} {} firstBringUp
  exact ⟨rfl, rfl, rfl, (htells rfl rfl (by decide) (Sample.isoDepCard 1) rfl).1.mpr rfl⟩

/-- A tag that comes back to the field whenever it is selected. -/
def comingBack : Script := { reactivates := true, lastTarget := some (Sample.ultralight 1) }

def ultralightTarget : Connection := ⟨1, Protocol.t2t, .mifareUltralight⟩

/-- It was announced. -/
def oneAnnounced : List Deed := firstBringUp ++ [.move (.event (.activated (Sample.ultralight 1)))]

/-- After it was selected again with success nothing is told of another tag, and its slot is not kept. -/
theorem next_tag_swallowed :
    let s := ran Script.controller [] {} comingBack oneAnnounced
    let again := (Tag.reconnect ultralightTarget true).run Script.controller.alone s
    let t := Script.controller.deliver (.event (.activated (Sample.plainType2 2))) again.2
    again.1 = true ∧ again.2.host.flags.active = true ∧ again.2.host.listener = .recording ∧
      isEligible (Sample.plainType2 2) = true ∧
      again.2.host.session.slots.map (·.handle) = [1] ∧ t.host.session.slots.map (·.handle) = [1] ∧
      System.notificationsOf t.trace =
        [.tagDiscovered 0 1 [0x04, 0x11, 0x22, 0x33, 0x44, 0x55, 0x66] [.mifareUltralight]] :=
  ⟨rfl, rfl, rfl, rfl, rfl, rfl, rfl⟩

end NfcStack.Proofs
