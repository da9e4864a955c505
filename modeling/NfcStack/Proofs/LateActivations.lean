import NfcStack.Proofs.TagHold

/-!
# Late activations

A target may be reported active at any time, also when the stack is down. Whether the host heeds such a
report goes by one flag alone, that the stack is on its way down: it is clear again when the stack is down,
so a target that is reported then is announced, and its mark is there when the stack is up again.
-/

namespace NfcStack.Proofs

variable {σ : Type} {c : Controller σ} {s : System σ}

section Announcements

def announcesTag (entry : Entry) : Bool :=
  match entry.passage with
  | .notified notification => isTagDiscovery notification
  | _ => false

/-- Whatever is told of a tag is told of a tag that is there, by a stack that is not on its way down. -/
def Heedful (entry : Entry) : Prop :=
  announcesTag entry = true → entry.flags.disabling = false ∧ entry.flags.tagActive = true

lemma heedful_request (origin : Origin) (request : Request) (verdict : Status) (flags : Flags) :
    Heedful ⟨.request origin request verdict, flags⟩ := nofun

lemma heedful_delivered (event : Event) (flags : Flags) : Heedful ⟨.delivered event, flags⟩ := nofun

lemma announce_heedful (endpoint : Endpoint) (hup : s.host.flags.disabling = false)
    (htag : s.host.flags.tagActive = true) : Adds Heedful s (s.announce endpoint) := by
  unfold System.announce
  split
  · exact ⟨[_], rfl, fun entry hmem _ => by rw [List.mem_singleton.mp hmem]; exact ⟨hup, htag⟩⟩
  · exact Adds.refl s

lemma reactToActivation_heedful (act : Activation) (s : System σ) :
    Adds Heedful s (Controller.reactToActivation act s) := by
  unfold Controller.reactToActivation
  rw [ignored_eq]
  split
  · exact Adds.refl s
  · next hheeded =>
    have hup : s.host.flags.disabling = false := by
      rw [Bool.not_eq_true, Bool.or_eq_false_iff] at hheeded
      exact hheeded.1
    dsimp only
    split
    · exact adds_of_trace_eq rfl
    · split
      · exact adds_of_trace_eq rfl
      · exact .trans (adds_of_trace_eq rfl) (announce_heedful _ hup rfl)

/-- No event but an activation has anything to tell of a tag. -/
lemma tidings_other {event : Event} (h : ∀ act, event ≠ .activated act)
    (infos : Except Status (List NfceeInfo)) (host : Host) :
    (tidings infos event host).filter isTagDiscovery = [] := by
  cases event with
  | activated act => exact absurd rfl (h act)
  | field status on => exact tidings_field infos host rfl rfl status on
  | cardData status bytes =>
    change ((host.router.apdu.push status bytes).1.map _).toList.filter _ = []
    cases (host.router.apdu.push status bytes).1 with
    | none => rfl
    | some command => rfl
  | hciReceived pipe code payload => exact tidings_pipe infos host (fun _ => rfl) pipe code payload
  | _ => rfl

/-- Where nothing is told of a tag, what is left in the trace announces none. -/
lemma adds_heedful {t : System σ} {told : List Notification} {G : Entry → Prop} (hadds : Adds G s t)
    (htold : System.notificationsOf t.trace = System.notificationsOf s.trace ++ told)
    (hquiet : told.filter isTagDiscovery = []) : Adds Heedful s t := by
  obtain ⟨new, htrace, -⟩ := hadds
  rw [htrace, notificationsOf_append] at htold
  have hnew : System.notificationsOf new = told := List.append_cancel_left htold
  refine ⟨new, htrace, fun entry hmem hannounces => ?_⟩
  unfold announcesTag at hannounces
  split at hannounces
  · next notification hpassage =>
    have hnotified : notification ∈ System.notificationsOf new :=
      List.mem_filterMap.mpr ⟨entry, hmem, by rw [hpassage]⟩
    have hfound : notification ∈ told.filter isTagDiscovery :=
      List.mem_filter.mpr ⟨hnew ▸ hnotified, hannounces⟩
    rw [hquiet] at hfound
    exact absurd hfound List.not_mem_nil
  · exact absurd hannounces nofun

lemma react_heedful (event : Event) (s : System σ) : Adds Heedful s (c.react event s) := by
  by_cases hactivated : ∃ act, event = .activated act
  · obtain ⟨act, rfl⟩ := hactivated
    exact reactToActivation_heedful act s
  · have hother : ∀ act, event ≠ .activated act := fun act h => hactivated ⟨act, h⟩
    refine adds_heedful (react_reacts event s).adds (react_tells c s event) ?_
    have hquiet := tidings_other hother (c.nfcees s.controller) s.host
    cases s.host.listener with
    | recording => exact hquiet
    | _ => rfl

lemma reactAlone_heedful (event : Event) (s : System σ) : Adds Heedful s (c.reactAlone event s) := by
  have htold : System.notificationsOf (c.reactAlone event s).trace =
      System.notificationsOf s.trace ++ [] := by
    rw [List.append_nil]
    cases event with
    | discovered status notice =>
      unfold Controller.reactAlone
      dsimp only
      split
      · exact reactToNotice_tells c s notice
      · rfl
    | _ => rfl
  exact adds_heedful (reactAlone_reacts event s).adds htold rfl

lemma deliver_heedful (happening : Happening) (s : System σ) :
    Adds Heedful s (c.deliver happening s) := by
  have hrecord (event : Event) : Adds Heedful s (s.record (.delivered event)) :=
    adds_record _ (heedful_delivered event s.host.flags)
  cases happening with
  | abortAll => exact adds_of_trace_eq rfl
  | abortSession => exact adds_of_trace_eq rfl
  | event event =>
    cases hr : s.receiver with
    | nobody =>
      rw [deliver_nobody c hr]
      exact Adds.refl s
    | session =>
      simp only [Controller.deliver, hr]
      exact (hrecord event).trans (reactAlone_heedful event _)
    | host =>
      simp only [Controller.deliver, hr]
      exact (hrecord event).trans (react_heedful event _)

end Announcements

section Heeding

lemma hearActivation_ignored {act : Activation} {host : Host}
    (h : (host.flags.disabling || isForeign act) = true) :
    hearActivation act host = host ∧ activationTidings act host = [] := by
  unfold hearActivation activationTidings
  rw [h, Bool.true_or, if_pos rfl, if_pos rfl]
  exact ⟨rfl, rfl⟩

/-- A report of a target comes to nothing exactly if the stack is on its way down or the target is none
of the reader's. -/
lemma deliver_ignored_iff (hr : s.receiver = .host) (hnone : s.host.flags.tagActive = false)
    (act : Activation) :
    (c.deliver (.event (.activated act)) s).host = s.host ∧
        System.notificationsOf (c.deliver (.event (.activated act)) s).trace =
          System.notificationsOf s.trace ↔
      s.host.flags.disabling = true ∨ isEligible act = false := by
  have hhost : (c.deliver (.event (.activated act)) s).host = hearActivation act s.host :=
    (deliver_host c hr (.activated act)).host
  have htold := deliver_tells c hr (.activated act)
  rw [hhost]
  constructor
  · rintro ⟨hsame, -⟩
    -- A target that is heeded marks that there is a tag.
    by_contra hheeded
    obtain ⟨hup, hineligible⟩ := not_or.mp hheeded
    have heligible : isEligible act = true := eq_true_of_ne_false hineligible
    have hforeign : ¬(s.host.flags.disabling || isForeign act) = true := by
      rw [foreign_iff, Bool.eq_false_iff.mpr hup, heligible]
      nofun
    have hmarked := congrArg TagHold.active (hearActivation_hold act s.host)
    rw [hsame] at hmarked
    unfold TagHold.enter at hmarked
    dsimp only at hmarked
    rw [if_neg hforeign] at hmarked
    have htag : s.host.flags.tagActive = true := hmarked
    rw [hnone] at htag
    exact absurd htag nofun
  · intro hignored
    have hforeign : (s.host.flags.disabling || isForeign act) = true := by
      rw [foreign_iff, Bool.or_eq_true]
      exact hignored.imp_right fun h => by rw [h]; rfl
    obtain ⟨hsame, hnothing⟩ := hearActivation_ignored hforeign
    refine ⟨hsame, ?_⟩
    rw [htold]
    change _ ++ heardBy s.host.listener (activationTidings act s.host) = _
    rw [hnothing, heardBy_nil, List.append_nil]

lemma routine_hold {change : Change} (h : Routine (.change change)) (host : Host) :
    holdOf (change.apply host) = holdOf host := by
  change holdOf (groundOf (change.apply host)) = holdOf (groundOf host)
  rw [routine_ground h]

/-- Bringing the stack up leaves of the hold on a tag what the reports make of it that come meanwhile. -/
lemma bringUp_hold (c : Controller σ) (hs : s.receiver ≠ .session) :
    let t := ((Lifecycle.bringUp : Op σ Bool).run c.alone s).2
    holdOf t.host = (holdOf s.host).after (t.trace.drop s.trace.length) := by
  intro t
  have hkeeps : KeepsTo Opening c.alone (Lifecycle.bringUp : Op σ Bool) :=
    bringUp_keepsTo (orderly_alone _ c) routine_opening trivial trivial
  have haccounts : Accounts Opening Eq := accounts_eq fun _ hp host => routine_hold hp host
  obtain ⟨-, new, htrace, hhold⟩ := (hkeeps s).goesBy haccounts hs
  have hsince : t.trace.drop s.trace.length = new := trace_since htrace
  rw [hsince]
  exact hhold

end Heeding

/-- Nothing is told of a tag while the stack is on its way down, and there is a mark of a tag only if a
target was reported since the field was empty while the stack was not on its way down. That is all that
keeps a report from being heeded: a target that is reported to a stack that is down is announced and marked,
and the mark stands when the stack is up again unless the field is reported empty meanwhile. -/
theorem activation_heeded_unless_disabling (c : Controller σ) (companions : List (Companion σ))
    (config : Config) (x : σ) (deeds : List Deed) :
    let s := ran c companions config x deeds
    (∀ entry ∈ s.trace, announcesTag entry = true →
        entry.flags.disabling = false ∧ entry.flags.tagActive = true) ∧
      (s.host.flags.tagActive = true →
        ∃ entry ∈ sinceLast reportsEmpty s.trace, notesTag entry = true) ∧
      (s.receiver = .host → s.host.flags.tagActive = false → ∀ act,
        let t := c.deliver (.event (.activated act)) s
        (t.host = s.host ∧ System.notificationsOf t.trace = System.notificationsOf s.trace ↔
          s.host.flags.disabling = true ∨ isEligible act = false)) ∧
      let up := ((Lifecycle.bringUp : Op σ Bool).run c.alone s).2
      up.host.flags.tagActive =
        stands notesTag reportsEmpty (up.trace.drop s.trace.length) s.host.flags.tagActive := by
  intro s
  have hevolves : Evolves c (fun _ => True) (booted config x) s :=
    ran_evolves (fun _ => trivial) c companions config x deeds
  obtain ⟨-, -, hattended⟩ := ran_at_rest c companions config x deeds
  refine ⟨?_, (ran_marks c companions config x deeds).1, ?_, ?_⟩
  · obtain ⟨new, htrace, hnew⟩ := hevolves.adds_by deliver_heedful
      (fun target s => ⟨[_], rfl, fun entry hmem => by
        rw [List.mem_singleton.mp hmem]
        exact heedful_request _ _ _ _⟩)
      (fun _ _ _ _ _ => heedful_request _ _ _ _) (fun _ _ => heedful_request _ _ _ _)
    have hall : s.trace = new := htrace
    rw [hall]
    exact hnew
  · exact fun hr hnone act => deliver_ignored_iff hr hnone act
  · intro up
    have hhold := congrArg TagHold.active (bringUp_hold c hattended.not_session)
    rw [TagHold.after_active] at hhold
    exact hhold

/-- A stack whose controller failed and refuses to be disabled is on its way down. -/
def goingDown : List Deed := firstBringUp ++ [.move (.event .transportError)]

def refusingDisable : Script := { standing := [(.disable, .failed)] }

/-- It pays no attention to a target that is reported then. -/
theorem going_down_ignores :
    let s := ran Script.controller [] {} refusingDisable goingDown
    let t := Script.controller.deliver (.event (.activated (Sample.isoDepCard 1))) s
    s.receiver = .host ∧ s.host.flags.tagActive = false ∧ s.host.flags.disabling = true ∧
      t.host = s.host ∧ System.notificationsOf t.trace = System.notificationsOf s.trace := by
  obtain ⟨-, -, hignored, -⟩ :=
    activation_heeded_unless_disabling Script.controller [] {} refusingDisable goingDown
  exact ⟨rfl, rfl, rfl, (hignored rfl rfl (Sample.isoDepCard 1)).mpr (.inl rfl)⟩

/-- A stack was taken down before a target is reported active. -/
def takenDown : List Deed :=
  firstBringUp ++ [.move (.call (.host .takeDown)), .move (.event (.activated (Sample.isoDepCard 1)))]

/-- The target is announced by a stack that is not enabled, and when the stack is up again it takes the
tag for active without having polled. -/
theorem late_activation_announced :
    let s := ran Script.controller [] {} {} takenDown
    let up := (Lifecycle.bringUp : Op Script Bool).run Script.controller.alone s
    s.host.flags.enabled = false ∧ s.host.flags.tagActive = true ∧
      (System.notificationsOf s.trace).filter isTagDiscovery =
        [.tagDiscovered 0 1 [0x04, 0x5a, 0x31, 0x22, 0x7c, 0x10, 0x80] [.isoDep, .isoDep]] ∧
      (s.trace.filter announcesTag).map (fun entry => entry.flags.enabled) = [false] ∧
      up.1 = true ∧ up.2.host.flags.active = true ∧ up.2.host.flags.tagActive = true :=
  ⟨rfl, rfl, rfl, rfl, rfl, rfl, rfl⟩

end NfcStack.Proofs
