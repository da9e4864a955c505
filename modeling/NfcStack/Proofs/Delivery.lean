import NfcStack.Proofs.Reaction

/-!
# What deliveries do

A delivery only appends to the trace: the event itself, what the listener is told of it, and the few
requests that reactions make. It leaves alone what only callers change. Both hold for a round of
deliveries and for all that happens while a caller waits.
-/

namespace NfcStack.Proofs

variable {σ : Type} (c : Controller σ)

section Relations

variable {R : System σ → System σ → Prop}

/-- Relations that hold along any number of deliveries once they hold along one. -/
structure FollowsDeliveries (R : System σ → System σ → Prop) : Prop where
  refl : ∀ s, R s s
  trans : ∀ {s t u}, R s t → R t u → R s u
  queue : ∀ s queue, R s { s with queue }
  deliver : ∀ s happening, s.late = none → R s (c.deliver happening s)

variable {c}

lemma not_kept_back {s : System σ} (h : s.late = none) : ¬s.late.isSome = true := by
  simp [h]

lemma FollowsDeliveries.takeIn (h : FollowsDeliveries c R) (happenings : List Happening)
    (s : System σ) : R s (c.takeIn happenings s) := by
  induction happenings generalizing s with
  | nil => exact h.refl s
  | cons first rest ih =>
    unfold Controller.takeIn
    split
    · exact h.queue s _
    · next hlate =>
      have hnone : s.late = none := Option.not_isSome_iff_eq_none.mp hlate
      exact h.trans (h.deliver s first hnone) (ih _)

lemma FollowsDeliveries.round (h : FollowsDeliveries c R) (s : System σ) : R s (c.round s) :=
  h.trans (h.queue s []) (h.takeIn _ _)

lemma FollowsDeliveries.attend (h : FollowsDeliveries c R) (s : System σ) : R s (c.attend s) :=
  h.trans (h.round s) (h.round _)

/-- A late notice that is taken up selects its target, and deliveries go on. -/
lemma FollowsDeliveries.release (h : FollowsDeliveries c R)
    (hselects : ∀ notice s, s.late = some notice →
      R s (c.selectDiscovered notice.target { s with late := none }))
    (s : System σ) : R s (c.release s) := by
  unfold Controller.release
  split
  · next notice hlate =>
    split
    · exact h.refl s
    · exact h.trans (hselects notice s hlate) (h.attend _)
  · exact h.refl s

end Relations

section Events

lemma deliver_nobody {s : System σ} (hr : s.receiver = .nobody) (event : Event) :
    c.deliver (.event event) s = s := by
  simp only [Controller.deliver, hr]

/-- What becomes of the host by an event, going by who receives it. -/
def hearAs (receiver : Receiver) (event : Event) (host : Host) : Host :=
  match receiver with
  | .nobody => host
  | .host => hear event host
  | .session => hearAlone event host

lemma deliver_reacts {s : System σ} (hn : s.receiver ≠ .nobody) (event : Event) :
    Reacts c event (s.record (.delivered event)) (hearAs s.receiver event s.host)
      (c.deliver (.event event) s) := by
  cases hr : s.receiver with
  | nobody => exact absurd hr hn
  | host =>
    simp only [Controller.deliver, hr]
    exact react_reacts event (s.record (.delivered event))
  | session =>
    simp only [Controller.deliver, hr]
    exact reactAlone_reacts event (s.record (.delivered event))

lemma receives_of_host {s : System σ} (hr : s.receiver = .host) : s.receiver ≠ .nobody := by
  simp [hr]

lemma deliver_host {s : System σ} (hr : s.receiver = .host) (event : Event) :
    Reacts c event (s.record (.delivered event)) (hear event s.host) (c.deliver (.event event) s) := by
  have hreacts := deliver_reacts c (receives_of_host hr) event
  rw [hr] at hreacts
  exact hreacts

lemma deliver_session {s : System σ} (hr : s.receiver = .session) (event : Event) :
    Reacts c event (s.record (.delivered event)) (hearAlone event s.host)
      (c.deliver (.event event) s) := by
  have hn : s.receiver ≠ .nobody := by simp [hr]
  have hreacts := deliver_reacts c hn event
  rw [hr] at hreacts
  exact hreacts

lemma deliver_failure {s : System σ} (hr : s.receiver = .host) {failure : Event}
    (hf : isFailure failure = true) :
    c.deliver (.event failure) s = c.reactToFailure (s.record (.delivered failure)) := by
  simp only [Controller.deliver, hr]
  unfold isFailure at hf
  split at hf
  · rfl
  · rfl
  · exact absurd hf nofun

lemma deliver_receiver (happening : Happening) (s : System σ) :
    (c.deliver happening s).receiver = s.receiver := by
  cases happening with
  | abortAll => rfl
  | abortSession => rfl
  | event event =>
    by_cases hn : s.receiver = .nobody
    · rw [deliver_nobody c hn]
    · exact (deliver_reacts c hn event).receiver

lemma follows_receiver : FollowsDeliveries c fun s t => t.receiver = s.receiver where
  refl _ := rfl
  trans h₁ h₂ := h₂.trans h₁
  queue _ _ := rfl
  deliver s happening _ := deliver_receiver c happening s

lemma release_receiver (s : System σ) : (c.release s).receiver = s.receiver :=
  (follows_receiver c).release (fun _ _ _ => rfl) s

end Events

section Steady

/-- The part of the host that only callers change. -/
def steady (host : Host) : Host :=
  { Host.fresh host.config with
    flags :=
      { rf := host.flags.rf
        readerMode := host.flags.readerMode
        screen := host.flags.screen
        discoveryDuration := host.flags.discoveryDuration }
    inUse := host.inUse
    fieldBound := host.fieldBound
    listener := host.listener
    router := { secure := host.router.secure, offHostTech := host.router.offHostTech } }

lemma rf_of_steady {host other : Host} (h : steady other = steady host) :
    other.flags.rf = host.flags.rf := by
  change (steady other).flags.rf = (steady host).flags.rf
  rw [h]

lemma screen_of_steady {host other : Host} (h : steady other = steady host) :
    other.flags.screen = host.flags.screen := by
  change (steady other).flags.screen = (steady host).flags.screen
  rw [h]

lemma inUse_of_steady {host other : Host} (h : steady other = steady host) :
    other.inUse = host.inUse := by
  change (steady other).inUse = (steady host).inUse
  rw [h]

lemma hear_steady (event : Event) (host : Host) : steady (hear event host) = steady host := by
  cases event with
  | activated act =>
    obtain ⟨tagActive, session, endpoints, h⟩ := hearActivation_shape act host
    change steady (hearActivation act host) = steady host
    rw [h]
    rfl
  | discovered status notice =>
    obtain ⟨session, h⟩ := discovered_shape status notice host
    rw [h]
    rfl
  | deactivated sleep => cases sleep <;> rfl
  | _ => rfl

lemma hearAs_steady (receiver : Receiver) (event : Event) (host : Host) :
    steady (hearAs receiver event host) = steady host := by
  cases receiver with
  | nobody => rfl
  | host => exact hear_steady event host
  | session =>
    cases event with
    | discovered status notice => exact hear_steady (.discovered status notice) host
    | _ => rfl

lemma deliver_steady (happening : Happening) (s : System σ) :
    steady (c.deliver happening s).host = steady s.host := by
  cases happening with
  | abortAll => rfl
  | abortSession => rfl
  | event event =>
    by_cases hn : s.receiver = .nobody
    · rw [deliver_nobody c hn]
    · rw [(deliver_reacts c hn event).host]
      exact hearAs_steady s.receiver event s.host

lemma follows_steady : FollowsDeliveries c fun s t => steady t.host = steady s.host where
  refl _ := rfl
  trans h₁ h₂ := h₂.trans h₁
  queue _ _ := rfl
  deliver s happening _ := deliver_steady c happening s

lemma release_steady (s : System σ) : steady (c.release s).host = steady s.host :=
  (follows_steady c).release (fun _ _ _ => rfl) s

end Steady

section Trace

/-- The trace goes on with entries of one sort. -/
def Adds (G : Entry → Prop) (s t : System σ) : Prop :=
  ∃ new, t.trace = s.trace ++ new ∧ ∀ entry ∈ new, G entry

variable {G H : Entry → Prop} {s t u : System σ}

lemma adds_of_trace_eq (h : t.trace = s.trace) : Adds G s t :=
  ⟨[], by rw [h, List.append_nil], by simp⟩

/-- What the trace of a system went on with. -/
lemma trace_since {new : List Entry} (h : t.trace = s.trace ++ new) :
    t.trace.drop s.trace.length = new := by
  rw [h, List.drop_left]

lemma Adds.refl (s : System σ) : Adds G s s := adds_of_trace_eq rfl

lemma Adds.trans (h₁ : Adds G s t) (h₂ : Adds G t u) : Adds G s u := by
  obtain ⟨new₁, e₁, g₁⟩ := h₁
  obtain ⟨new₂, e₂, g₂⟩ := h₂
  refine ⟨new₁ ++ new₂, by rw [e₂, e₁, List.append_assoc], ?_⟩
  intro entry hentry
  rcases List.mem_append.mp hentry with h | h
  · exact g₁ entry h
  · exact g₂ entry h

lemma Adds.mono (hGH : ∀ entry, G entry → H entry) (h : Adds G s t) : Adds H s t := by
  obtain ⟨new, e, g⟩ := h
  exact ⟨new, e, fun entry hentry => hGH entry (g entry hentry)⟩

lemma adds_record (passage : Passage) (h : G ⟨passage, s.host.flags⟩) :
    Adds G s (s.record passage) :=
  ⟨[_], rfl, by simpa using h⟩

/-- What a delivery may leave in the trace: the event, and what the reaction to it leaves. -/
def OfDelivery (entry : Entry) : Prop :=
  (∃ event, entry.passage = .delivered event) ∨ OfReaction entry

lemma selectDiscovered_adds (target : DiscoveryNotice) (s : System σ) :
    Adds OfReaction s (c.selectDiscovered target s) :=
  ⟨[_], rfl, by simp [OfReaction]⟩

lemma AskedFor.ofReaction {event : Event} {request : Request} (h : AskedFor event request)
    (verdict : Status) (flags : Flags) : OfReaction ⟨.request .reaction request verdict, flags⟩ := by
  cases h with
  | disable h => trivial
  | select h => trivial

lemma Reacts.adds {event : Event} {after : Host} (h : Reacts c event s after t) :
    Adds OfReaction s t := by
  cases h with
  | tells h =>
    obtain ⟨new, hnew, rfl⟩ := h
    exact ⟨new, rfl, fun entry hmem => (hnew entry hmem).ofReaction⟩
  | holds notice h hu => exact adds_of_trace_eq rfl
  | asks host h =>
    refine ⟨[_], rfl, fun entry hmem => ?_⟩
    rw [List.mem_singleton.mp hmem]
    exact h.ofReaction _ _

lemma deliver_adds (happening : Happening) (s : System σ) :
    Adds OfDelivery s (c.deliver happening s) := by
  have hrecord (event : Event) : Adds OfDelivery s (s.record (.delivered event)) :=
    adds_record _ (.inl ⟨event, rfl⟩)
  cases happening with
  | abortAll => exact adds_of_trace_eq rfl
  | abortSession => exact adds_of_trace_eq rfl
  | event event =>
    by_cases hn : s.receiver = .nobody
    · rw [deliver_nobody c hn]
      exact Adds.refl s
    · exact (hrecord event).trans ((deliver_reacts c hn event).adds.mono fun _ => .inr)

variable {c} in
/-- What every delivery leaves in the trace all of them leave. -/
lemma follows_adds_of (h : ∀ happening s, Adds G s (c.deliver happening s)) :
    FollowsDeliveries c (Adds G) where
  refl := Adds.refl
  trans := Adds.trans
  queue _ _ := adds_of_trace_eq rfl
  deliver s happening _ := h happening s

lemma follows_adds : FollowsDeliveries c (Adds OfDelivery) := follows_adds_of (deliver_adds c)

lemma release_adds (s : System σ) : Adds OfDelivery s (c.release s) := by
  refine (follows_adds c).release (fun notice s _ => ?_) s
  have hselect : Adds OfReaction s (c.selectDiscovered notice.target { s with late := none }) :=
    .trans (adds_of_trace_eq rfl) (selectDiscovered_adds c _ _)
  exact hselect.mono fun _ => .inr

end Trace

section Silence

variable {c} {s t u : System σ}

/-- Whether the host answers a happening with a request of its own. -/
def asksBack : Happening → Bool
  | .event event => isFailure event || isDiscovery event
  | _ => false

/-- Nothing differs but the host and the trace. -/
structure OnlyHears (s t : System σ) : Prop where
  receiver : t.receiver = s.receiver
  controller : t.controller = s.controller
  queue : t.queue = s.queue
  late : t.late = s.late

lemma OnlyHears.refl (s : System σ) : OnlyHears s s := ⟨rfl, rfl, rfl, rfl⟩

lemma OnlyHears.trans (h₁ : OnlyHears s t) (h₂ : OnlyHears t u) : OnlyHears s u :=
  ⟨h₂.receiver.trans h₁.receiver, h₂.controller.trans h₁.controller, h₂.queue.trans h₁.queue,
    h₂.late.trans h₁.late⟩

lemma Reacts.onlyHears {event : Event} {after : Host} (h : Reacts c event s after t)
    (hasks : asksBack (.event event) = false) : OnlyHears s t := by
  obtain ⟨hfailure, hdiscovery⟩ := Bool.or_eq_false_iff.mp hasks
  cases h with
  | tells h =>
    obtain ⟨new, -, rfl⟩ := h
    exact ⟨rfl, rfl, rfl, rfl⟩
  | holds notice h hu =>
    rw [hdiscovery] at h
    exact absurd h nofun
  | asks host h =>
    cases h with
    | disable h =>
      rw [hfailure] at h
      exact absurd h nofun
    | select h =>
      rw [hdiscovery] at h
      exact absurd h nofun

lemma deliver_onlyHears {happening : Happening} (hasks : asksBack happening = false)
    (s : System σ) : OnlyHears s (c.deliver happening s) := by
  cases happening with
  | abortAll => exact ⟨rfl, rfl, rfl, rfl⟩
  | abortSession => exact ⟨rfl, rfl, rfl, rfl⟩
  | event event =>
    by_cases hn : s.receiver = .nobody
    · rw [deliver_nobody c hn]
      exact .refl s
    · have hrecorded : OnlyHears s (s.record (.delivered event)) := ⟨rfl, rfl, rfl, rfl⟩
      exact hrecorded.trans ((deliver_reacts c hn event).onlyHears hasks)

end Silence

end NfcStack.Proofs
