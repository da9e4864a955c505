import NfcStack.Proofs.Tidings

/-!
# Commands of card readers

A reader's command arrives in fragments. What the host keeps of them is at any time the fragments since
the last boundary, and the listener gets one command for each fragment that closes one.
-/

namespace NfcStack.Proofs

variable {σ : Type}

section Fragments

/-- Where no fragment that came before belongs to a command that comes after. -/
def isBoundary : Event → Bool
  | .cardActivated _ => true
  | .cardDeactivated => true
  | .cardData status _ => status != .continuing
  | _ => false

/-- The bytes that an event adds to a command which is still open. -/
def fragment : Event → Bytes
  | .cardData .continuing bytes => bytes
  | _ => []

/-- The command that is open after some events. -/
def pending (events : List Event) : Bytes := (sinceLast isBoundary events).flatMap fragment

/-- The command that an event closes. -/
def completed? (before : List Event) : Event → Option Bytes
  | .cardData .ok bytes => some (pending before ++ bytes)
  | _ => none

lemma pending_boundary {event : Event} (h : isBoundary event = true) (events : List Event) :
    pending (events ++ [event]) = [] := by
  unfold pending
  rw [sinceLast_self h]
  rfl

lemma pending_inside {event : Event} (h : isBoundary event = false) (events : List Event) :
    pending (events ++ [event]) = pending events ++ fragment event := by
  unfold pending
  rw [sinceLast_other h, List.flatMap_append, List.flatMap_singleton]

lemma pending_same {event : Event} (h : isBoundary event = false) (hf : fragment event = [])
    (events : List Event) : pending (events ++ [event]) = pending events := by
  rw [pending_inside h, hf, List.append_nil]

end Fragments

section Buffer

/-- What the host keeps of an open command. -/
def openCommand (host : Host) : Bytes := host.router.apdu.bytes

lemma OnlyWaits.openCommand {f : Host → Host} (h : OnlyWaits f) (host : Host) :
    openCommand (f host) = openCommand host := by
  change NfcStack.Proofs.openCommand (unarmed (f host)) = NfcStack.Proofs.openCommand (unarmed host)
  rw [h]

lemma change_openCommand (change : Change) (host : Host) :
    openCommand (change.apply host) = openCommand host := by
  cases change with
  | waits f h => exact h.openCommand host
  | welcome act =>
    change openCommand (welcomed act host) = openCommand host
    unfold welcomed
    split
    · rfl
    · rfl
  | _ => rfl

/-- The host keeps the fragments since the last boundary. -/
lemma hear_openCommand {host : Host} {events : List Event} (h : openCommand host = pending events)
    (event : Event) : openCommand (hear event host) = pending (events ++ [event]) := by
  cases event with
  | cardActivated protocol => exact (pending_boundary rfl events).symm
  | cardDeactivated => exact (pending_boundary rfl events).symm
  | cardData status bytes =>
    cases status with
    | continuing =>
      rw [pending_inside rfl, ← h]
      rfl
    | _ => exact (pending_boundary rfl events).symm
  | activated act =>
    obtain ⟨tagActive, session, endpoints, hshape⟩ := hearActivation_shape act host
    rw [pending_same rfl rfl, ← h]
    change openCommand (hearActivation act host) = openCommand host
    rw [hshape]
    rfl
  | discovered status notice =>
    obtain ⟨session, hshape⟩ := discovered_shape status notice host
    rw [pending_same rfl rfl, ← h, hshape]
    rfl
  | deactivated sleep =>
    rw [pending_same rfl rfl, ← h]
    cases sleep <;> rfl
  | _ =>
    rw [pending_same rfl rfl, ← h]
    rfl

lemma openCommand_tracks (c : Controller σ) (P : Act → Prop) :
    Tracks c P fun host events _ => openCommand host = pending events where
  change change _ _ _ _ h := (change_openCommand change _).trans h
  waits _ hf _ _ _ h := (hf.openCommand _).trans h
  inUse _ _ _ _ h := h
  connect _ _ _ _ h := h
  hear event _ _ _ _ h := hear_openCommand h event

end Buffer

section Notices

def isCommand : Notification → Bool
  | .cardData _ _ => true
  | _ => false

/-- The commands handed to the listener, in order. -/
def commandsOf (trace : List Entry) : List Notification :=
  (System.notificationsOf trace).filter isCommand

lemma tidings_commands {host : Host} {events : List Event} (h : openCommand host = pending events)
    (infos : Except Status (List NfceeInfo)) (event : Event) :
    (tidings infos event host).filter isCommand =
      ((completed? events event).map (.cardData TechMask.a)).toList := by
  cases event with
  | cardData status bytes =>
    cases status with
    | ok =>
      have hcommand : tidings infos (.cardData .ok bytes) host =
          [.cardData TechMask.a (openCommand host ++ bytes)] := rfl
      rw [hcommand, h]
      rfl
    | _ => rfl
  | field status on => exact tidings_field infos host rfl rfl status on
  | activated act =>
    change (activationTidings act host).filter isCommand = []
    unfold activationTidings
    split
    · rfl
    · split
      · rfl
      · rfl
  | hciReceived pipe code payload => exact tidings_pipe infos host (fun _ => rfl) pipe code payload
  | _ => rfl

/-- While events are reported to a listener that listens, the commands it gets are those that a history
closes. -/
structure Assembling (before : List Event) (known : List Notification) (host : Host)
    (events : List Event) (told : List Notification) : Prop where
  listens : host.listener = .recording
  kept : openCommand host = pending events
  handed : ∃ delivered, events = before ++ delivered ∧
    told.filter isCommand = known ++ (readOff completed? before delivered).map (.cardData TechMask.a)

lemma Assembling.hear {before : List Event} {known : List Notification} {host : Host}
    {events : List Event} {told : List Notification} (h : Assembling before known host events told)
    (infos : Except Status (List NfceeInfo)) (event : Event) :
    Assembling before known (hear event host) (events ++ [event])
      (told ++ heardBy host.listener (tidings infos event host)) := by
  obtain ⟨delivered, hevents, htold⟩ := h.handed
  refine ⟨?_, hear_openCommand h.kept event, delivered ++ [event], ?_, ?_⟩
  · change (steady (NfcStack.Proofs.hear event host)).listener = .recording
    rw [hear_steady]
    exact h.listens
  · rw [hevents, List.append_assoc]
  · rw [heardBy_recording h.listens, List.filter_append, htold, tidings_commands h.kept, readOff_snoc,
      List.map_append, List.append_assoc, ← hevents]
    cases completed? events event <;> rfl

lemma assembling_tracks (c : Controller σ) (before : List Event) (known : List Notification) :
    Tracks c OnlyReports (Assembling before known) where
  change _ hp := hp.elim
  waits f hf _ _ _ h := by
    refine ⟨?_, (hf.openCommand _).trans h.kept, h.handed⟩
    change (unarmed (f _)).listener = .recording
    rw [hf]
    exact h.listens
  inUse _ _ _ _ h := ⟨h.listens, h.kept, h.handed⟩
  connect _ _ _ _ h := ⟨h.listens, h.kept, h.handed⟩
  hear event x _ _ _ h := h.hear (c.nfcees x) event

end Notices

/-- Whatever was done before, the host keeps of a command what arrived since the last boundary, and of
whatever events are reported from then on a listener that listens gets one command for each that closes
one: the fragments since the last boundary before it, and its own bytes. -/
theorem commands_reassembled (c : Controller σ) (companions : List (Companion σ)) (config : Config)
    (x : σ) (deeds : List Deed) (events : List Event) :
    let s := ran c companions config x deeds
    let t := afterDeeds c (reports events) s
    s.host.router.apdu.bytes = pending (eventsOf s.trace) ∧
      (s.receiver = .host → s.host.listener = .recording →
        ∃ delivered, events.Sublist delivered ∧ eventsOf t.trace = eventsOf s.trace ++ delivered ∧
          commandsOf t.trace = commandsOf s.trace ++
            (readOff completed? (eventsOf s.trace) delivered).map (.cardData TechMask.a)) := by
  have hrun : Evolves c (fun _ => True) (booted config x) (ran c companions config x deeds) :=
    ran_evolves (fun _ => trivial) c companions config x deeds
  have hfree : Free (ran c companions config x deeds) := ran_free c companions config x deeds
  have hkept : openCommand (ran c companions config x deeds).host =
      pending (eventsOf (ran c companions config x deeds).trace) :=
    (hrun.carries (openCommand_tracks c _) nofun).2 rfl
  intro s t
  refine ⟨hkept, fun hr hlistens => ?_⟩
  have hn : s.receiver ≠ .session := by
    rw [hr]
    nofun
  obtain ⟨delivered, hsub, htrace⟩ := reports_delivered (c := c) events hfree (receives_of_host hr)
  have hstart : HoldsOf (Assembling (eventsOf s.trace) (commandsOf s.trace)) s := by
    refine ⟨hlistens, hkept, [], (List.append_nil _).symm, ?_⟩
    exact (List.append_nil _).symm
  have hcarried := reports_evolves (c := c) events s
  obtain ⟨other, hother, htold⟩ :=
    ((hcarried.carries (assembling_tracks c _ _) hn).2 hstart).handed
  -- Both lists are what the trace gained, one by what was reported, one by what was put together.
  have hsame : delivered = other := List.append_cancel_left (htrace.symm.trans hother)
  subst hsame
  exact ⟨delivered, hsub, htrace, htold⟩

/-- Two commands of a reader. Between them a fragment is lost, and what came with it is dropped. -/
def readerSession : List Event :=
  [.cardActivated 4, .cardData .continuing [1, 2], .hciOther 7, .cardData .ok [3],
    .cardData .continuing [9], .cardData .failed [4], .cardData .ok [5], .cardDeactivated]

theorem reader_gets_two_commands :
    listeningStack.receiver = .host ∧ listeningStack.host.listener = .recording ∧
      ∃ delivered, readerSession.Sublist delivered ∧
        (readOff completed? (eventsOf listeningStack.trace) delivered).map
            (Notification.cardData TechMask.a) =
          [.cardData TechMask.a [1, 2, 3], .cardData TechMask.a [5]] := by
  have hall := commands_reassembled Script.controller [] {} {}
    [.move (.call (.host (.setListener .recording))), .move (.call (.host .bringUp))] readerSession
  obtain ⟨delivered, hsub, -, hcommands⟩ := hall.2 rfl rfl
  have hhanded : commandsOf (afterDeeds Script.controller (reports readerSession) listeningStack).trace =
      [.cardData TechMask.a [1, 2, 3], .cardData TechMask.a [5]] := rfl
  exact ⟨rfl, rfl, delivered, hsub, hcommands.symm.trans hhanded⟩

end NfcStack.Proofs
