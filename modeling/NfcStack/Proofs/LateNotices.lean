import NfcStack.Proofs.Company
import NfcStack.Proofs.Hearing

/-!
# Late notices

A notice of a discovery is kept back only while an operation holds the radio field. Operations give back
what they take, so between the moves of a run nothing is in use and no notice is kept back.
-/

namespace NfcStack.Proofs

variable {σ : Type} {c : Controller σ} {P : Act → Prop} {s t : System σ}

section InUse

lemma OnlyWaits.inUse {f : Host → Host} (h : OnlyWaits f) (host : Host) :
    (f host).inUse = host.inUse := by
  change (unarmed (f host)).inUse = (unarmed host).inUse
  rw [h]

lemma change_inUse (change : Change) (host : Host) : (change.apply host).inUse = host.inUse := by
  cases change with
  | waits f h => exact h.inUse host
  | welcome act =>
    change (welcomed act host).inUse = host.inUse
    unfold welcomed
    split
    · rfl
    · rfl
  | _ => rfl

/-- Whatever happens, the resources in use are the same afterwards. -/
theorem Evolves.inUse (h : Evolves c P s t) : t.host.inUse = s.host.inUse := by
  induction h with
  | trans _ _ ih₁ ih₂ => exact ih₂.trans ih₁
  | @report s event _ =>
    unfold System.arrive
    split
    · rfl
    · rfl
  | @change s change _ => exact change_inUse change s.host
  | @round s => exact inUse_of_steady ((follows_steady c).round s)
  | @occupy s t resource _ _ =>
    unfold takeUpNotice
    split
    · split
      · rfl
      · rfl
    · rfl
  | _ => rfl

end InUse

section Notices

/-- A late notice waits for the radio field. -/
def NoticeHeld (s : System σ) : Prop := s.late.isSome = true → s.host.usesField = true

lemma noticeHeld_of_eq (hl : t.late = s.late) (hu : t.host.inUse = s.host.inUse)
    (h : NoticeHeld s) : NoticeHeld t := by
  unfold NoticeHeld Host.usesField
  rw [hl, hu]
  exact h

lemma noticeHeld_of_none (h : s.late = none) : NoticeHeld s := by
  intro hsome
  rw [h] at hsome
  exact absurd hsome nofun

/-- Only a discovery can have its notice kept back. -/
lemma Reacts.late {event : Event} {after : Host} (h : Reacts c event s after t)
    (hd : isDiscovery event = false) : t.late = s.late := by
  cases h with
  | tells h =>
    obtain ⟨new, -, rfl⟩ := h
    rfl
  | holds notice h hu =>
    rw [hd] at h
    exact absurd h nofun
  | asks host h => rfl

lemma Reacts.held {event : Event} {after : Host} (h : Reacts c event s after t)
    (hu : after.inUse = s.host.inUse) (hlate : s.late = none) : NoticeHeld t := by
  cases h with
  | tells h =>
    obtain ⟨new, -, rfl⟩ := h
    exact noticeHeld_of_none hlate
  | holds notice h hused =>
    intro _
    unfold Host.usesField at hused ⊢
    rw [← hused, ← hu]
  | asks host h => exact noticeHeld_of_none hlate

lemma deliver_held (happening : Happening) (s : System σ) (hlate : s.late = none) :
    NoticeHeld (c.deliver happening s) := by
  cases happening with
  | abortAll => exact noticeHeld_of_none hlate
  | abortSession => exact noticeHeld_of_none hlate
  | event event =>
    by_cases hn : s.receiver = .nobody
    · rw [deliver_nobody c hn]
      exact noticeHeld_of_none hlate
    · exact (deliver_reacts c hn event).held (inUse_of_steady (hearAs_steady _ _ _)) hlate

lemma follows_held (c : Controller σ) :
    FollowsDeliveries c fun s t => NoticeHeld s → NoticeHeld t where
  refl _ h := h
  trans h₁ h₂ h := h₂ (h₁ h)
  queue _ _ h := h
  deliver s happening hlate _ := deliver_held happening s hlate

lemma takeUpNotice_held (s : System σ) : NoticeHeld (takeUpNotice c s) := by
  unfold takeUpNotice
  split
  · split
    · next hu => exact fun _ => hu
    · exact noticeHeld_of_none rfl
  · next hnone => exact noticeHeld_of_none hnone

lemma Evolves.noticeHeld (h : Evolves c P s t) : NoticeHeld s → NoticeHeld t := by
  induction h with
  | trans _ _ ih₁ ih₂ => exact fun hs => ih₂ (ih₁ hs)
  | @report s event _ =>
    refine noticeHeld_of_eq ?_ ?_
    · unfold System.arrive
      split <;> rfl
    · unfold System.arrive
      split <;> rfl
  | @change s change _ => exact noticeHeld_of_eq rfl (change_inUse change s.host)
  | @round s => exact (follows_held c).round s
  | @wear s notice patience hl => exact fun hs _ => hs (by rw [hl]; rfl)
  | lapse _ => exact fun _ => noticeHeld_of_none rfl
  | occupy _ _ _ => exact fun _ => takeUpNotice_held _
  | _ => exact noticeHeld_of_eq rfl rfl

end Notices

section Receivers

/-- The events go to the host, or to nobody and none is in flight. -/
def Attended (s : System σ) : Prop :=
  s.receiver = .host ∨ (s.receiver = .nobody ∧ s.queue = [])

lemma Attended.not_session (h : Attended s) : s.receiver ≠ .session := by
  rcases h with hr | ⟨hr, -⟩
  · rw [hr]
    nofun
  · rw [hr]
    nofun

lemma issue_not_session (origin : Origin) (request : Request) (s : System σ)
    (hs : s.receiver ≠ .session) : (c.issue origin request s).2.receiver ≠ .session := by
  change (if request = .enable then Receiver.host else s.receiver) ≠ .session
  split
  · nofun
  · exact hs

lemma issue_attended (origin : Origin) (request : Request) (h : Attended s) :
    Attended (c.issue origin request s).2 := by
  by_cases hreq : request = .enable
  · exact .inl (if_pos hreq)
  · have hreceiver : (c.issue origin request s).2.receiver = s.receiver :=
      issue_receiver c origin request s hreq
    rcases h with hr | ⟨hr, hq⟩
    · exact .inl (hreceiver.trans hr)
    · refine .inr ⟨hreceiver.trans hr, ?_⟩
      change s.queue ++ (if _ then _ else _) = []
      rw [hq, if_neg hreq, hr]
      simp

lemma takeUpNotice_attended (h : Attended s) : Attended (takeUpNotice c s) := by
  unfold takeUpNotice
  split
  · split
    · exact h
    · next notice _ _ =>
      have hselect := issue_attended (c := c) (s := { s with late := none }) .reaction
        (.select notice.target.target notice.target.protocol
          (RadioInterface.forProtocol notice.target.protocol)) h
      exact hselect
  · exact h

/-- A host stays one: its events never go to a session by itself. -/
theorem Evolves.attended (h : Evolves c P s t) : Attended s → Attended t := by
  induction h with
  | trans _ _ ih₁ ih₂ => exact fun hs => ih₂ (ih₁ hs)
  | request request _ _ => exact issue_attended .caller request
  | @report s event _ =>
    intro hs
    unfold System.arrive
    split
    · exact hs
    · next hsome =>
      rcases hs with hr | ⟨hr, -⟩
      · exact .inl hr
      · exact absurd hr hsome
  | @round s =>
    intro hs
    rcases hs with hr | ⟨hr, hq⟩
    · exact .inl (((follows_receiver c).round s).trans hr)
    · refine .inr ⟨((follows_receiver c).round s).trans hr, ?_⟩
      unfold Controller.round
      rw [hq]
      rfl
  | occupy _ _ ih => exact fun hs => takeUpNotice_attended (ih hs)
  | _ => exact id

/-- Once the host receives events it goes on to do so. -/
lemma Evolves.stays_host (h : Evolves c P s t) : s.receiver = .host → t.receiver = .host := by
  have hsteps : FollowsSteps c P fun s t => s.receiver = .host → t.receiver = .host :=
    { refl := fun _ => id
      trans := fun h₁ h₂ hs => h₂ (h₁ hs)
      queue := fun _ _ => id
      deliver := fun s happening _ hs => (deliver_receiver c happening s).trans hs
      request := fun request s _ _ hs => by
        change (if request = .enable then Receiver.host else s.receiver) = .host
        rw [hs, ite_self]
      query := fun _ => id
      change := fun _ _ _ => id
      inUse := fun _ _ => id
      heldUp := fun _ => id
      late := fun _ _ _ => id
      selects := fun _ _ _ => id }
  exact hsteps.evolves h

end Receivers

/-- Nothing is in use, and no notice is kept back. -/
structure AtRest (s : System σ) : Prop where
  idle : s.host.inUse = []
  late : s.late = none
  attended : Attended s

/-- Between the moves of a run the host is at rest. -/
theorem ran_at_rest (c : Controller σ) (companions : List (Companion σ)) (config : Config) (x : σ)
    (deeds : List Deed) : AtRest (ran c companions config x deeds) := by
  have hevolves : Evolves c (fun _ => True) (booted config x) (ran c companions config x deeds) :=
    ran_evolves (fun _ => trivial) c companions config x deeds
  -- Every move gives back what it took, so that nothing can keep a notice back between two of them.
  have hinUse : (ran c companions config x deeds).host.inUse = [] := hevolves.inUse
  have hheld : NoticeHeld (ran c companions config x deeds) :=
    hevolves.noticeHeld (noticeHeld_of_none rfl)
  refine ⟨hinUse, ?_, hevolves.attended (.inr ⟨rfl, rfl⟩)⟩
  cases hl : (ran c companions config x deeds).late with
  | none => rfl
  | some notice =>
    have hu := hheld (by rw [hl]; rfl)
    unfold Host.usesField at hu
    rw [hinUse] at hu
    exact absurd hu nofun

end NfcStack.Proofs
