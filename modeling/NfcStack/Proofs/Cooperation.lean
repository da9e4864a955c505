import NfcStack.Proofs.Exchange
import NfcStack.Proofs.LateNotices

/-!
# Obliging controllers

A controller that fails no more: it confirms that it is enabled when asked to, and reports nothing of its
life cycle that it was not asked for. Routine work with such a controller leaves the life cycle of the
stack alone, and while the radio field is free all that is in flight arrives at once.
-/

namespace NfcStack.Proofs

variable {σ : Type}

section Happenings

/-- A happening that tells nothing of the controller's life cycle. -/
def isCalm : Happening → Bool
  | .event (.enabled _) => false
  | .event .disabled => false
  | .event .transportError => false
  | .event .controllerTimeout => false
  | _ => true

/-- A happening that says where the controller's life cycle stands, and no failure. -/
def mends : Happening → Bool
  | .event (.enabled status) => status.isOk
  | .event .disabled => true
  | _ => false

/-- A happening that tells of no failure of the controller. -/
def isTame (happening : Happening) : Bool := isCalm happening || mends happening

/-- What completes a request that concerns the life cycle. -/
def completes : Request → Happening → Bool
  | .enable, .event (.enabled status) => status.isOk
  | .disable _, .event .disabled => true
  | _, _ => false

/-- A happening that tells neither of the controller's life cycle nor of a tag that comes or goes. -/
def isNeutral : Happening → Bool
  | .event (.activated _) => false
  | .event (.deactivated _) => false
  | .event (.discovered _ _) => false
  | happening => isCalm happening

/-- What a request brings about that is not neutral. -/
def answers : Request → Happening → Bool
  | .enable, .event (.enabled status) => status.isOk
  | .disable _, .event .disabled => true
  | .select _ _ _, .event (.activated _) => true
  | .deactivate sleep, .event (.deactivated asleep) => asleep == sleep
  | _, _ => false

lemma calm_of_neutral {happening : Happening} (h : isNeutral happening = true) :
    isCalm happening = true := by
  unfold isNeutral at h
  split at h
  · exact absurd h nofun
  · exact absurd h nofun
  · exact absurd h nofun
  · exact h

/-- An answer that says nothing of the life cycle is calm. -/
lemma calm_or_completes_of_answers {request : Request} {happening : Happening}
    (h : answers request happening = true) :
    isCalm happening = true ∨ completes request happening = true := by
  unfold answers at h
  split at h
  · exact .inr h
  · exact .inr rfl
  · exact .inl rfl
  · exact .inl rfl
  · exact absurd h nofun

lemma isTame_of_calm {happening : Happening} (h : isCalm happening = true) :
    isTame happening = true := by
  unfold isTame
  rw [h, Bool.true_or]

lemma isTame_of_completes {request : Request} {happening : Happening}
    (h : completes request happening = true) : isTame happening = true := by
  have hmends : mends happening = true := by
    unfold completes at h
    split at h
    · exact h
    · rfl
    · exact absurd h nofun
  unfold isTame
  rw [hmends, Bool.or_true]

lemma not_failure_of_tame {event : Event} (h : isTame (.event event) = true) :
    isFailure event = false := by
  cases event with
  | transportError => exact absurd h nofun
  | controllerTimeout => exact absurd h nofun
  | _ => rfl

/-- In states of a kind the controller can be enabled, and of its life cycle it reports what it was asked
for and nothing else. -/
structure Obliging (c : Controller σ) (P : σ → Prop) : Prop where
  stays : ∀ request x, P x → P (c.respond request x).2
  accepts : ∀ x, P x → (c.respond .enable x).1.verdict.isOk = true
  enables : ∀ x, P x → .event (.enabled .ok) ∈ (c.respond .enable x).1.happenings
  quiet : ∀ request x, P x → ∀ happening ∈ (c.respond request x).1.happenings,
    isCalm happening = true ∨ completes request happening = true

end Happenings

section Heard

/-- Whether the stack is enabled, and whether it is on its way down. -/
def life (host : Host) : Bool × Bool := (host.flags.enabled, host.flags.disabling)

lemma life_of_flags {host other : Host} (h : host.flags = other.flags) : life host = life other := by
  unfold life
  rw [h]

lemma hear_calm {happening : Happening} (h : isCalm happening = true) (host : Host) :
    life (hearHappening happening host) = life host := by
  cases happening with
  | abortAll => rfl
  | abortSession => rfl
  | event event =>
    cases event with
    | enabled status => exact absurd h nofun
    | disabled => exact absurd h nofun
    | transportError => exact absurd h nofun
    | controllerTimeout => exact absurd h nofun
    | activated act =>
      obtain ⟨tagActive, session, endpoints, hshape⟩ := hearActivation_shape act host
      change life (hearActivation act host) = life host
      rw [hshape]
      rfl
    | discovered status notice =>
      obtain ⟨session, hshape⟩ := discovered_shape status notice host
      change life (hear (.discovered status notice) host) = life host
      rw [hshape]
      rfl
    | deactivated sleep => cases sleep <;> rfl
    | _ => rfl

variable (c : Controller σ) {s : System σ}

lemma deliver_hears (hr : s.receiver = .host) (happening : Happening) :
    (c.deliver happening s).host = hearHappening happening s.host := by
  cases happening with
  | abortAll => rfl
  | abortSession => rfl
  | event event => exact (deliver_host c hr event).host

end Heard

section Still

variable {c : Controller σ} {P : σ → Prop} {s : System σ}

/-- Happenings that the host does not answer are heard one after the other, and whatever comes behind
them is taken in next. -/
lemma takeIn_still {happenings : List Happening}
    (hasks : ∀ happening ∈ happenings, asksBack happening = false) (hlate : s.late = none)
    (hr : s.receiver = .host) (rest : List Happening) :
    ∃ t, OnlyHears s t ∧ t.host = hearAll happenings s.host ∧
      c.takeIn (happenings ++ rest) s = c.takeIn rest t := by
  induction happenings generalizing s with
  | nil => exact ⟨s, .refl s, rfl, rfl⟩
  | cons first others ih =>
    obtain ⟨hfirst, hothers⟩ := List.forall_mem_cons.mp hasks
    have hheard : OnlyHears s (c.deliver first s) := deliver_onlyHears hfirst s
    obtain ⟨t, ht, hhost, hrest⟩ := ih hothers (hheard.late.trans hlate) (hheard.receiver.trans hr)
    refine ⟨t, hheard.trans ht, ?_, ?_⟩
    · rw [hhost, deliver_hears c hr, hearAll_cons]
    · rw [List.cons_append, Controller.takeIn, hlate]
      exact hrest

/-- A system in which nothing in flight makes the host ask back. -/
structure Still (P : σ → Prop) (s : System σ) : Prop where
  controller : P s.controller
  asks : ∀ happening ∈ s.queue, asksBack happening = false
  attended : Attended s
  late : s.late = none

/-- One round takes in all that is in flight. -/
lemma Still.round (hs : Still P s) :
    Still P (c.round s) ∧ (c.round s).queue = [] ∧ (c.round s).host = hearAll s.queue s.host ∧
      (c.round s).receiver = s.receiver := by
  have hattended : Attended (c.round s) := (Evolves.round (P := fun _ => True)).attended hs.attended
  rcases hs.attended with hr | ⟨hr, hq⟩
  · obtain ⟨t, ht, hhost, htaken⟩ := takeIn_still (c := c) (s := { s with queue := [] }) hs.asks
      hs.late hr []
    have hround : c.round s = t := by
      rw [List.append_nil] at htaken
      exact htaken
    rw [hround] at hattended ⊢
    refine ⟨⟨?_, ?_, hattended, ht.late.trans hs.late⟩, ht.queue, hhost, ht.receiver⟩
    · rw [ht.controller]
      exact hs.controller
    · rw [ht.queue]
      exact fun _ hmem => absurd hmem List.not_mem_nil
  · have hround : c.round s = s := by
      unfold Controller.round
      rw [hq]
      change { s with queue := [] } = s
      rw [← hq]
    rw [hround]
    refine ⟨hs, hq, ?_, rfl⟩
    rw [hq]
    rfl

/-- Whoever waits gets to hear all that is in flight, and nothing more comes of it. -/
theorem Still.attend (hs : Still P s) :
    Still P (c.attend s) ∧ (c.attend s).queue = [] ∧ (c.attend s).host = hearAll s.queue s.host := by
  obtain ⟨hfirst, hempty, hheard, -⟩ := hs.round (c := c)
  obtain ⟨hsecond, hempty', hheard', -⟩ := hfirst.round (c := c)
  refine ⟨hsecond, hempty', ?_⟩
  unfold Controller.attend
  rw [hheard', hempty, hheard]
  rfl

end Still

section InFlight

/-- The controller is well disposed, and no failure of it is on its way to the host. -/
structure Tamed (P : σ → Prop) (s : System σ) : Prop where
  controller : P s.controller
  queue : ∀ happening ∈ s.queue, isTame happening = true
  attended : Attended s

lemma Tamed.mapHost {P : σ → Prop} {s : System σ} (hs : Tamed P s) (f : Host → Host) :
    Tamed P (s.mapHost f) :=
  ⟨hs.controller, hs.queue, hs.attended⟩

/-- What comes to be in flight from one system to another is calm, and as long as all of it is calm the
life cycle stands still. -/
structure Leaves (P : σ → Prop) (s t : System σ) : Prop where
  tamed : Tamed P t
  left : ∀ happening ∈ t.queue, isCalm happening = true ∨ happening ∈ s.queue
  life : (∀ happening ∈ s.queue, isCalm happening = true) → life t.host = life s.host

variable {c : Controller σ} {P : σ → Prop} {s t u : System σ}

lemma Leaves.calm (h : Leaves P s t) (hs : ∀ happening ∈ s.queue, isCalm happening = true) :
    ∀ happening ∈ t.queue, isCalm happening = true := by
  intro happening hmem
  rcases h.left happening hmem with hcalm | hold
  · exact hcalm
  · exact hs happening hold

lemma Leaves.trans (h₁ : Leaves P s t) (h₂ : Leaves P t u) : Leaves P s u where
  tamed := h₂.tamed
  left happening hmem := by
    rcases h₂.left happening hmem with hcalm | hold
    · exact .inl hcalm
    · exact h₁.left happening hold
  life hs := (h₂.life (h₁.calm hs)).trans (h₁.life hs)

/-- Where nothing joins the queue, only the life cycle is left to look at. -/
lemma leaves_of_eq (hs : Tamed P s) (hc : t.controller = s.controller) (hq : t.queue = s.queue)
    (ht : Attended t) (hl : life t.host = life s.host) : Leaves P s t where
  tamed := ⟨by rw [hc]; exact hs.controller, by rw [hq]; exact hs.queue, ht⟩
  left happening hmem := by
    rw [hq] at hmem
    exact .inr hmem
  life _ := hl

lemma mem_issue {origin : Origin} {request : Request} {happening : Happening}
    (h : happening ∈ (c.issue origin request s).2.queue) :
    happening ∈ s.queue ∨ happening ∈ (c.respond request s.controller).1.happenings := by
  have harrivals : ∃ taken : Bool, (c.issue origin request s).2.queue =
      s.queue ++ (if taken then (c.respond request s.controller).1.happenings else []) := ⟨_, rfl⟩
  obtain ⟨taken, hqueue⟩ := harrivals
  rw [hqueue, List.mem_append] at h
  rcases h with hold | hnew
  · exact .inl hold
  · cases taken with
    | true => exact .inr hnew
    | false => exact absurd hnew List.not_mem_nil

lemma mem_issue_accepted (origin : Origin) {request : Request} {happening : Happening}
    (hr : s.receiver = .host) (hok : (c.respond request s.controller).1.verdict.isOk = true)
    (h : happening ∈ (c.respond request s.controller).1.happenings) :
    happening ∈ (c.issue origin request s).2.queue := by
  have htaken : ((c.respond request s.controller).1.verdict.isOk &&
      (if request = .enable then Receiver.host else s.receiver) != .nobody) = true := by
    rw [hok, hr, ite_self]
    rfl
  have hqueue : (c.issue origin request s).2.queue =
      s.queue ++ (c.respond request s.controller).1.happenings :=
    congrArg (s.queue ++ ·) (if_pos htaken)
  rw [hqueue]
  exact List.mem_append_right _ h

/-- Nothing comes of a request that is refused. -/
lemma issue_refused {origin : Origin} {request : Request}
    (h : ¬(c.issue origin request s).1.isOk = true) : (c.issue origin request s).2.queue = s.queue := by
  have hnothing : ¬((c.issue origin request s).1.isOk &&
      (if request = .enable then Receiver.host else s.receiver) != .nobody) = true := by
    rw [Bool.and_eq_true]
    exact fun hboth => h hboth.1
  exact (congrArg (s.queue ++ ·) (if_neg hnothing)).trans (List.append_nil _)

/-- What comes of a request to enable the controller joins the queue, whoever received events before. -/
lemma Obliging.enable_queue (hc : Obliging c P) (hx : P s.controller) :
    (c.issue .caller .enable s).2.queue = s.queue ++ (c.respond .enable s.controller).1.happenings := by
  have htaken : (((c.issue .caller .enable s).1.isOk && Receiver.host != .nobody) = true) := by
    have hok : (c.issue .caller .enable s).1.isOk = true := hc.accepts s.controller hx
    rw [hok]
    rfl
  exact congrArg (s.queue ++ ·) (if_pos htaken)

lemma Obliging.issue_tamed (hc : Obliging c P) (origin : Origin) (request : Request)
    (hs : Tamed P s) : Tamed P (c.issue origin request s).2 where
  controller := hc.stays request s.controller hs.controller
  attended := issue_attended origin request hs.attended
  queue happening hmem := by
    rcases mem_issue hmem with hold | hnew
    · exact hs.queue happening hold
    · rcases hc.quiet request s.controller hs.controller happening hnew with hcalm | hown
      · exact isTame_of_calm hcalm
      · exact isTame_of_completes hown

/-- A request that does not concern the life cycle. -/
lemma Obliging.issue_leaves (hc : Obliging c P) (origin : Origin) {request : Request}
    (hreq : ∀ happening, completes request happening = false) (hs : Tamed P s) :
    Leaves P s (c.issue origin request s).2 where
  tamed := hc.issue_tamed origin request hs
  left happening hmem := by
    rcases mem_issue hmem with hold | hnew
    · exact .inr hold
    · rcases hc.quiet request s.controller hs.controller happening hnew with hcalm | hown
      · exact .inl hcalm
      · rw [hreq] at hown
        exact absurd hown nofun
  life _ := rfl

lemma Obliging.selectDiscovered_leaves (hc : Obliging c P) (target : DiscoveryNotice)
    (hs : Tamed P s) : Leaves P s (c.selectDiscovered target s) := by
  have hselect : Leaves P s (c.issue .reaction (.select target.target target.protocol
      (RadioInterface.forProtocol target.protocol)) s).2 := hc.issue_leaves .reaction (fun _ => rfl) hs
  exact hselect.trans (leaves_of_eq hselect.tamed rfl rfl hselect.tamed.attended rfl)

/-- A reaction adds to what is in flight only by the selection of a target. -/
lemma Obliging.reacts_left (hc : Obliging c P) {event : Event} {after : Host}
    (h : Reacts c event s after t) (hf : isFailure event = false) (hs : Tamed P s) :
    P t.controller ∧ ∀ happening ∈ t.queue, isCalm happening = true ∨ happening ∈ s.queue := by
  cases h with
  | tells h =>
    obtain ⟨new, -, rfl⟩ := h
    exact ⟨hs.controller, fun _ => .inr⟩
  | holds notice h hu => exact ⟨hs.controller, fun _ => .inr⟩
  | asks host h =>
    cases h with
    | disable h =>
      rw [hf] at h
      exact absurd h nofun
    | select h target protocol interface =>
      have hbefore : Tamed P { s with host } := ⟨hs.controller, hs.queue, hs.attended⟩
      have hselect : Leaves P { s with host }
          (c.issue .reaction (.select target protocol interface) { s with host }).2 :=
        hc.issue_leaves .reaction (fun _ => rfl) hbefore
      exact ⟨hselect.tamed.controller, hselect.left⟩

lemma Obliging.deliver_left (hc : Obliging c P) {happening : Happening}
    (ht : isTame happening = true) (hs : Tamed P s) (hr : s.receiver = .host) :
    P (c.deliver happening s).controller ∧
      ∀ other ∈ (c.deliver happening s).queue, isCalm other = true ∨ other ∈ s.queue := by
  cases happening with
  | abortAll => exact ⟨hs.controller, fun _ => .inr⟩
  | abortSession => exact ⟨hs.controller, fun _ => .inr⟩
  | event event =>
    have hrecorded : Tamed P (s.record (.delivered event)) := ⟨hs.controller, hs.queue, hs.attended⟩
    have hleft := hc.reacts_left (deliver_host c hr event) (not_failure_of_tame ht) hrecorded
    exact hleft

lemma Obliging.deliver_tamed (hc : Obliging c P) {happening : Happening}
    (ht : isTame happening = true) (hs : Tamed P s) (hr : s.receiver = .host) :
    Tamed P (c.deliver happening s) := by
  obtain ⟨hcontroller, hleft⟩ := hc.deliver_left ht hs hr
  refine ⟨hcontroller, fun other hmem => ?_, .inl ((deliver_receiver c happening s).trans hr)⟩
  rcases hleft other hmem with hcalm | hold
  · exact isTame_of_calm hcalm
  · exact hs.queue other hold

/-- What is taken in does not come back into the queue, unless a late notice held it up. -/
lemma Obliging.takeIn_left (hc : Obliging c P) {happenings : List Happening}
    (ht : ∀ happening ∈ happenings, isTame happening = true) (hs : Tamed P s)
    (hr : s.receiver = .host) :
    Tamed P (c.takeIn happenings s) ∧
      ∀ other ∈ (c.takeIn happenings s).queue, isCalm other = true ∨ other ∈ s.queue ∨
        ((c.takeIn happenings s).late.isSome = true ∧ other ∈ happenings) := by
  -- Any of the happenings may be the notice that holds up those behind it.
  induction happenings generalizing s with
  | nil => exact ⟨hs, fun _ hmem => .inr (.inl hmem)⟩
  | cons first rest ih =>
    obtain ⟨hfirst, hrest⟩ := List.forall_mem_cons.mp ht
    unfold Controller.takeIn
    split
    · next hlate =>
      refine ⟨⟨hs.controller, fun other hmem => ?_, .inl hr⟩, fun other hmem => ?_⟩
      · rcases List.mem_append.mp hmem with hheld | hold
        · exact ht other hheld
        · exact hs.queue other hold
      · rcases List.mem_append.mp hmem with hheld | hold
        · exact .inr (.inr ⟨hlate, hheld⟩)
        · exact .inr (.inl hold)
    · have hr' : (c.deliver first s).receiver = .host := (deliver_receiver c first s).trans hr
      obtain ⟨htamed, hleft⟩ := ih hrest (hc.deliver_tamed hfirst hs hr) hr'
      refine ⟨htamed, fun other hmem => ?_⟩
      rcases hleft other hmem with hcalm | hold | ⟨hlate, hheld⟩
      · exact .inl hcalm
      · rcases (hc.deliver_left hfirst hs hr).2 other hold with hcalm | hold
        · exact .inl hcalm
        · exact .inr (.inl hold)
      · exact .inr (.inr ⟨hlate, List.mem_cons_of_mem first hheld⟩)

lemma takeIn_life {happenings : List Happening}
    (hcalm : ∀ happening ∈ happenings, isCalm happening = true) (hr : s.receiver = .host) :
    life (c.takeIn happenings s).host = life s.host := by
  induction happenings generalizing s with
  | nil => rfl
  | cons first rest ih =>
    obtain ⟨hfirst, hrest⟩ := List.forall_mem_cons.mp hcalm
    unfold Controller.takeIn
    split
    · rfl
    · have hr' : (c.deliver first s).receiver = .host := (deliver_receiver c first s).trans hr
      rw [ih hrest hr', deliver_hears c hr, hear_calm hfirst]

lemma Obliging.round_leaves (hc : Obliging c P) (hs : Tamed P s) : Leaves P s (c.round s) := by
  have hempty : Tamed P { s with queue := [] } := by
    refine ⟨hs.controller, fun _ hmem => absurd hmem List.not_mem_nil, ?_⟩
    rcases hs.attended with hr | ⟨hr, -⟩
    · exact .inl hr
    · exact .inr ⟨hr, rfl⟩
  rcases hs.attended with hr | ⟨hr, hq⟩
  · obtain ⟨htamed, hleft⟩ := hc.takeIn_left hs.queue hempty hr
    refine ⟨htamed, fun happening hmem => ?_, fun hcalm => takeIn_life (s := { s with queue := [] }) hcalm hr⟩
    rcases hleft happening hmem with hcalm | hold | ⟨-, hheld⟩
    · exact .inl hcalm
    · exact absurd hold List.not_mem_nil
    · exact .inr hheld
  · have hround : c.round s = { s with queue := [] } := by
      unfold Controller.round
      rw [hq]
      rfl
    rw [hround]
    exact leaves_of_eq hs rfl hq.symm hempty.attended rfl

lemma completes_routine {request : Request} (h : Routine (.request request)) :
    ∀ happening, completes request happening = false := by
  intro happening
  cases request with
  | enable => exact h.elim
  | disable graceful => exact h.elim
  | _ => rfl

lemma life_routine {change : Change} (h : Routine (.change change)) (host : Host) :
    life (change.apply host) = life host := by
  change life (groundOf (change.apply host)) = life (groundOf host)
  rw [routine_ground h]

/-- Routine work leaves the life cycle to what is in flight. -/
theorem Obliging.evolves (hc : Obliging c P) (h : Evolves c Routine s t) (hs : Tamed P s) :
    Leaves P s t := by
  induction h with
  | refl s => exact leaves_of_eq hs rfl rfl hs.attended rfl
  | trans _ _ ih₁ ih₂ =>
    have hfirst := ih₁ hs
    exact hfirst.trans (ih₂ hfirst.tamed)
  | request request hp _ => exact hc.issue_leaves .caller (completes_routine hp) hs
  | query => exact leaves_of_eq hs rfl rfl hs.attended rfl
  | report event hp => exact hp.elim
  | @change s change hp => exact leaves_of_eq hs rfl rfl hs.attended (life_routine hp s.host)
  | round => exact hc.round_leaves hs
  | wear notice patience _ => exact leaves_of_eq hs rfl rfl hs.attended rfl
  | lapse _ => exact leaves_of_eq hs rfl rfl hs.attended rfl
  | holdUp => exact leaves_of_eq hs rfl rfl hs.attended rfl
  | @occupy s t resource _ ih =>
    have htaken : Leaves P s (s.mapHost (takeResource resource)) :=
      leaves_of_eq hs rfl rfl hs.attended rfl
    have hdone := htaken.trans (ih htaken.tamed)
    have hback : Leaves P t (t.mapHost (giveBack s.host.inUse)) :=
      leaves_of_eq hdone.tamed rfl rfl hdone.tamed.attended rfl
    refine (hdone.trans hback).trans ?_
    -- With the field free again a notice that was kept back selects its target.
    unfold takeUpNotice
    split
    · split
      · exact leaves_of_eq hback.tamed rfl rfl hback.tamed.attended rfl
      · have hnone : Leaves P (t.mapHost (giveBack s.host.inUse))
            { t.mapHost (giveBack s.host.inUse) with late := none } :=
          leaves_of_eq hback.tamed rfl rfl hback.tamed.attended rfl
        exact hnone.trans (hc.selectDiscovered_leaves _ hnone.tamed)
    · exact leaves_of_eq hback.tamed rfl rfl hback.tamed.attended rfl

end InFlight

section FreeField

/-- No operation uses the radio field, and so no notice is kept back. -/
def Free (s : System σ) : Prop := s.late = none ∧ s.host.usesField = false

variable {c : Controller σ} {P : σ → Prop} {s t : System σ}

lemma free_of_held (hheld : NoticeHeld s) (hu : s.host.usesField = false) : Free s := by
  refine ⟨?_, hu⟩
  cases hl : s.late with
  | none => rfl
  | some notice =>
    have hused : s.host.usesField = true := hheld (by rw [hl]; rfl)
    rw [hu] at hused
    exact absurd hused nofun

lemma free_of_idle (hlate : s.late = none) (hidle : s.host.inUse = []) : Free s := by
  refine ⟨hlate, ?_⟩
  unfold Host.usesField
  rw [hidle]
  rfl

lemma Evolves.free {Q : Act → Prop} (h : Evolves c Q s t) (hs : Free s) : Free t := by
  have hu : t.host.usesField = s.host.usesField := by
    unfold Host.usesField
    rw [h.inUse]
  exact free_of_held (h.noticeHeld (noticeHeld_of_none hs.1)) (hu.trans hs.2)

lemma deliver_free (happening : Happening) (hs : Free s) : Free (c.deliver happening s) := by
  have hu : (c.deliver happening s).host.usesField = s.host.usesField := by
    unfold Host.usesField
    rw [inUse_of_steady (deliver_steady c happening s)]
  exact free_of_held (deliver_held happening s hs.1) (hu.trans hs.2)

lemma takeIn_hears (happenings : List Happening) (hf : Free s) (hr : s.receiver = .host) :
    (c.takeIn happenings s).host = hearAll happenings s.host := by
  induction happenings generalizing s with
  | nil => rfl
  | cons first rest ih =>
    have hr' : (c.deliver first s).receiver = .host := (deliver_receiver c first s).trans hr
    unfold Controller.takeIn
    rw [if_neg (not_kept_back hf.1), ih (deliver_free first hf) hr', deliver_hears c hr, hearAll_cons]

/-- All that is in flight arrives in one round. -/
lemma round_hears (hf : Free s) (ha : Attended s) :
    (c.round s).host = hearAll s.queue s.host := by
  rcases ha with hr | ⟨-, hq⟩
  · exact takeIn_hears (s := { s with queue := [] }) s.queue hf hr
  · unfold Controller.round
    rw [hq]
    rfl

/-- A system that is left alone: what is in flight does not touch the life cycle. -/
structure AtPeace (P : σ → Prop) (s : System σ) : Prop where
  tamed : Tamed P s
  calm : ∀ happening ∈ s.queue, isCalm happening = true
  free : Free s

lemma AtPeace.mapHost (hs : AtPeace P s) {f : Host → Host} (hu : (f s.host).usesField = false) :
    AtPeace P (s.mapHost f) :=
  ⟨hs.tamed.mapHost f, hs.calm, hs.free.1, hu⟩

lemma Obliging.round_atPeace (hc : Obliging c P) (hs : Tamed P s) (hf : Free s) :
    AtPeace P (c.round s) := by
  have hfree : Free (c.round s) := (Evolves.round (P := fun _ => True)).free hf
  have hleaves := hc.round_leaves hs
  refine ⟨hleaves.tamed, ?_, hfree⟩
  rcases hs.attended with hr | ⟨-, hq⟩
  · have hempty : Tamed P { s with queue := [] } :=
      ⟨hs.controller, fun _ hmem => absurd hmem List.not_mem_nil, .inl hr⟩
    obtain ⟨-, hleft⟩ := hc.takeIn_left hs.queue hempty hr
    intro happening hmem
    rcases hleft happening hmem with hcalm | hold | ⟨hlate, -⟩
    · exact hcalm
    · exact absurd hold List.not_mem_nil
    · change (c.round s).late.isSome = true at hlate
      rw [hfree.1] at hlate
      exact absurd hlate nofun
  · refine hleaves.calm fun happening hmem => ?_
    rw [hq] at hmem
    exact absurd hmem List.not_mem_nil

lemma Obliging.attend_atPeace (hc : Obliging c P) (hs : Tamed P s) (hf : Free s) :
    AtPeace P (c.attend s) := by
  have hround := hc.round_atPeace hs hf
  exact hc.round_atPeace hround.tamed hround.free

lemma Obliging.atPeace (hc : Obliging c P) (h : Evolves c Routine s t) (hs : AtPeace P s) :
    AtPeace P t ∧ life t.host = life s.host := by
  have hleaves := hc.evolves h hs.tamed
  exact ⟨⟨hleaves.tamed, hleaves.calm hs.calm, h.free hs.free⟩, hleaves.life hs.calm⟩

/-- After all that was in flight the life cycle stands where the first round left it. -/
lemma Obliging.attend_life (hc : Obliging c P) (hs : Tamed P s) (hf : Free s) :
    life (c.attend s).host = life (hearAll s.queue s.host) := by
  have hround := hc.round_atPeace hs hf
  have hsecond : life (c.attend s).host = life (c.round s).host :=
    (hc.round_leaves hround.tamed).life hround.calm
  rw [hsecond, round_hears hf hs.attended]

/-- A system that is left alone, with the life cycle at some stage. -/
def RestsAt (P : σ → Prop) (stage : Bool × Bool) (s : System σ) : Prop :=
  AtPeace P s ∧ life s.host = stage

variable {stage : Bool × Bool}

lemma Obliging.routine_leads (hc : Obliging c P) {op : Op σ α} (h : KeepsTo Routine c.alone op) :
    Leads c (RestsAt P stage) op fun _ => RestsAt P stage := by
  rintro s ⟨hpeace, hlife⟩
  obtain ⟨hpeace', hlife'⟩ := hc.atPeace (h s) hpeace
  exact ⟨hpeace', hlife'.trans hlife⟩

lemma Obliging.attend_leads (hc : Obliging c P) :
    Leads c (RestsAt P stage) (Op.attend : Op σ Unit) fun _ => RestsAt P stage :=
  hc.routine_leads keepsTo_attend

end FreeField

end NfcStack.Proofs
