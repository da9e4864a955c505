import NfcStack.Proofs.Delivery

/-!
# What a wait hears

A venue that is open during a wait keeps the last of the completions that were delivered meanwhile. The
outcome of a wait can therefore be read off the trace.
-/

namespace NfcStack.Proofs

variable {σ α : Type} (c : Controller σ)

section Windows

/-- The delivered events of a trace, in order. -/
def eventsOf (trace : List Entry) : List Event :=
  trace.filterMap fun entry => match entry.passage with
    | .delivered event => some event
    | _ => none

lemma eventsOf_append (first rest : List Entry) :
    eventsOf (first ++ rest) = eventsOf first ++ eventsOf rest :=
  List.filterMap_append

/-- The events that were delivered from one system to another. -/
def eventsSince (s t : System σ) : List Event := eventsOf (t.trace.drop s.trace.length)

lemma eventsSince_eq {s t : System σ} {new : List Entry} (h : t.trace = s.trace ++ new) :
    eventsSince s t = eventsOf new :=
  congrArg eventsOf (trace_since h)

lemma eventsOf_reaction {trace : List Entry} (h : ∀ entry ∈ trace, OfReaction entry) :
    eventsOf trace = [] := by
  refine List.filterMap_eq_nil_iff.mpr fun entry hentry => ?_
  have hof := h entry hentry
  unfold OfReaction at hof
  split
  · next event hp =>
    rw [hp] at hof
    exact hof.elim
  · rfl

/-- A delivery leaves one event in the trace, the one that is delivered. -/
theorem deliver_events {s : System σ} (hn : s.receiver ≠ .nobody) (event : Event) :
    ∃ new, (c.deliver (.event event) s).trace = s.trace ++ new ∧ eventsOf new = [event] := by
  obtain ⟨new, htrace, hnew⟩ := (deliver_reacts c hn event).adds
  refine ⟨⟨.delivered event, s.host.flags⟩ :: new, ?_, ?_⟩
  · rw [htrace, System.record_trace, List.append_assoc]
    rfl
  · change event :: eventsOf new = [event]
    rw [eventsOf_reaction hnew]

/-- A rendezvous that was armed still is, and keeps the last answer among some events. -/
def Keeps (answer : Event → Option α) (events : List Event) (r r' : Rendezvous α) : Prop :=
  r.armed = true →
    r'.armed = true ∧ r'.value = (events.filterMap answer).getLast?.or r.value

variable {answer : Event → Option α}

lemma keeps_nil (r : Rendezvous α) : Keeps answer [] r r := fun h => ⟨h, rfl⟩

lemma keeps_append {first rest : List Event} {r r' r'' : Rendezvous α}
    (h₁ : Keeps answer first r r') (h₂ : Keeps answer rest r' r'') :
    Keeps answer (first ++ rest) r r'' := by
  intro harmed
  obtain ⟨harmed', hvalue'⟩ := h₁ harmed
  obtain ⟨harmed'', hvalue''⟩ := h₂ harmed'
  refine ⟨harmed'', ?_⟩
  rw [hvalue'', hvalue', List.filterMap_append, List.getLast?_append, Option.or_assoc]

lemma keeps_abort (r : Rendezvous α) : Keeps answer [] r r.abort := by
  intro harmed
  unfold Rendezvous.abort
  rw [if_pos harmed]
  exact ⟨harmed, rfl⟩

lemma keeps_deaf {event : Event} (h : answer event = none) {r r' : Rendezvous α}
    (hr : Keeps answer [] r r') : Keeps answer [event] r r' := by
  intro harmed
  rw [List.filterMap_cons, h]
  exact hr harmed

lemma keeps_notify (answer : Event → Option α) {event : Event} {value : α}
    (h : answer event = some value) (r : Rendezvous α) : Keeps answer [event] r (r.notify value) := by
  intro harmed
  unfold Rendezvous.notify
  rw [if_pos harmed, List.filterMap_cons, h]
  exact ⟨harmed, rfl⟩

/-- Where all answers are the same, so is the last. -/
lemma getLast?_of_all {values : List α} {value : α} (hall : ∀ other ∈ values, other = value)
    (hmem : value ∈ values) : values.getLast? = some value := by
  cases hlast : values.getLast? with
  | none =>
    rw [List.getLast?_eq_none_iff.mp hlast] at hmem
    exact absurd hmem List.not_mem_nil
  | some other => rw [hall other (List.mem_of_getLast? hlast)]

/-- A venue of the host, with the events that complete its waits. -/
structure Hears (venue : Venue α) (answer : Event → Option α) : Prop where
  view : ∀ f host, venue.view (venue.map f host) = f (venue.view host)
  hear : ∀ event host, Keeps answer [event] (venue.view host) (venue.view (hear event host))
  abort : ∀ host, Keeps answer [] (venue.view host) (venue.view (Host.abortAll host))
  abortSession : ∀ host,
    Keeps answer [] (venue.view host) (venue.view (host.mapSession Session.abort))

variable {venue : Venue α}

/-- The events among happenings. -/
def eventsAmong (happenings : List Happening) : List Event :=
  happenings.filterMap fun happening => match happening with
    | .event event => some event
    | _ => none

/-- Where the events among happenings have one answer only, it is the last. -/
lemma lastAnswer_of_all {happenings : List Happening} {value : α}
    (hall : ∀ event, .event event ∈ happenings → ∀ other, answer event = some other → other = value)
    {event : Event} (hmem : .event event ∈ happenings) (hanswer : answer event = some value) :
    ((eventsAmong happenings).filterMap answer).getLast? = some value := by
  have hanswers : ∀ other ∈ (eventsAmong happenings).filterMap answer, other = value := by
    intro other hother
    obtain ⟨event, hevent, hanswer⟩ := List.mem_filterMap.mp hother
    obtain ⟨happening, hhappening, hfound⟩ := List.mem_filterMap.mp hevent
    cases happening with
    | event found =>
      obtain rfl := Option.some.inj hfound
      exact hall found hhappening other hanswer
    | _ => exact absurd hfound nofun
  have hheard : event ∈ eventsAmong happenings := List.mem_filterMap.mpr ⟨_, hmem, rfl⟩
  exact getLast?_of_all hanswers (List.mem_filterMap.mpr ⟨event, hheard, hanswer⟩)

lemma Hears.all (h : Hears venue answer) (happenings : List Happening) (host : Host) :
    Keeps answer (eventsAmong happenings) (venue.view host)
      (venue.view (hearAll happenings host)) := by
  induction happenings generalizing host with
  | nil => exact keeps_nil _
  | cons first rest ih =>
    cases first with
    | abortAll => exact keeps_append (h.abort host) (ih _)
    | abortSession => exact keeps_append (h.abortSession host) (ih _)
    | event event => exact keeps_append (h.hear event host) (ih _)

/-- Events of the tag are heard at no venue outside the session. -/
lemma keeps_tag (hv : ∀ host flags session endpoints,
      venue.view { host with flags, session, endpoints } = venue.view host)
    {event : Event} (htag : concernsTag event = true) (hnone : answer event = none) (host : Host) :
    Keeps answer [event] (venue.view host) (venue.view (hear event host)) := by
  obtain ⟨flags, session, endpoints, hshape⟩ := hear_tag htag host
  have hview := hv host flags session endpoints
  rw [hshape, hview]
  exact keeps_deaf hnone (keeps_nil _)

/-- From one system to another a venue was open to all events that were delivered. -/
def Listens (venue : Venue α) (answer : Event → Option α) (s t : System σ) : Prop :=
  s.receiver ≠ .session →
    t.receiver = s.receiver ∧ ∃ new, t.trace = s.trace ++ new ∧
      Keeps answer (eventsOf new) (venue.view s.host) (venue.view t.host)

lemma listens_of_eq {s t : System σ} (hr : t.receiver = s.receiver) (ht : t.trace = s.trace)
    (hv : Keeps answer [] (venue.view s.host) (venue.view t.host)) : Listens venue answer s t :=
  fun _ => ⟨hr, [], by rw [ht, List.append_nil], hv⟩

lemma listens_deliver (h : Hears venue answer) (happening : Happening) (s : System σ) :
    Listens venue answer s (c.deliver happening s) := by
  cases happening with
  | abortAll => exact listens_of_eq rfl rfl (h.abort s.host)
  | abortSession => exact listens_of_eq rfl rfl (h.abortSession s.host)
  | event event =>
    intro hsession
    cases hr : s.receiver with
    | session => exact absurd hr hsession
    | nobody =>
      rw [deliver_nobody c hr]
      exact ⟨hr, [], (List.append_nil _).symm, keeps_nil _⟩
    | host =>
      obtain ⟨new, htrace, hevents⟩ := deliver_events c (receives_of_host hr) event
      refine ⟨(deliver_receiver c _ s).trans hr, new, htrace, ?_⟩
      rw [hevents, (deliver_host c hr event).host]
      exact h.hear event s.host

lemma follows_listens (h : Hears venue answer) : FollowsDeliveries c (Listens venue answer) where
  refl _ := listens_of_eq rfl rfl (keeps_nil _)
  queue _ _ := listens_of_eq rfl rfl (keeps_nil _)
  deliver s happening _ := listens_deliver c h happening s
  trans := by
    intro s t u h₁ h₂ hsession
    obtain ⟨hr₁, new₁, htrace₁, hkeeps₁⟩ := h₁ hsession
    obtain ⟨hr₂, new₂, htrace₂, hkeeps₂⟩ := h₂ (by rw [hr₁]; exact hsession)
    refine ⟨hr₂.trans hr₁, new₁ ++ new₂, by rw [htrace₂, htrace₁, List.append_assoc], ?_⟩
    rw [eventsOf_append]
    exact keeps_append hkeeps₁ hkeeps₂

end Windows

section Venues

/-- What completes a request of the radio. All four requests have their waits at one venue. -/
def radioAnswer : Event → Option Status
  | .pollingEnabled status => some status
  | .pollingDisabled status => some status
  | .discoveryStarted status => some status
  | .discoveryStopped status => some status
  | _ => none

def commitAnswer : Event → Option Unit
  | .routingCommitted => some ()
  | _ => none

def enableAnswer : Event → Option Status
  | .enabled status => some status
  | _ => none

def disableAnswer : Event → Option Unit
  | .disabled => some ()
  | _ => none

lemma hears_polling : Hears Venue.polling radioAnswer where
  view _ _ := rfl
  abort host := keeps_abort host.polling
  abortSession _ := keeps_nil _
  hear event host := by
    cases event with
    | pollingEnabled status => exact keeps_notify radioAnswer rfl _
    | pollingDisabled status => exact keeps_notify radioAnswer rfl _
    | discoveryStarted status => exact keeps_notify radioAnswer rfl _
    | discoveryStopped status => exact keeps_notify radioAnswer rfl _
    | transportError => exact keeps_deaf rfl (keeps_abort _)
    | controllerTimeout => exact keeps_deaf rfl (keeps_abort _)
    | activated act => exact keeps_tag (fun _ _ _ _ => rfl) rfl rfl host
    | discovered status notice => exact keeps_tag (fun _ _ _ _ => rfl) rfl rfl host
    | deactivated sleep => exact keeps_tag (fun _ _ _ _ => rfl) rfl rfl host
    | _ => exact keeps_deaf rfl (keeps_nil _)

lemma hears_commit : Hears Venue.commit commitAnswer where
  view _ _ := rfl
  abort host := keeps_abort host.router.commit
  abortSession _ := keeps_nil _
  hear event host := by
    cases event with
    | routingCommitted => exact keeps_notify commitAnswer rfl _
    | activated act => exact keeps_tag (fun _ _ _ _ => rfl) rfl rfl host
    | discovered status notice => exact keeps_tag (fun _ _ _ _ => rfl) rfl rfl host
    | deactivated sleep => exact keeps_tag (fun _ _ _ _ => rfl) rfl rfl host
    | _ => exact keeps_deaf rfl (keeps_nil _)

lemma hears_enable : Hears Venue.enable enableAnswer where
  view _ _ := rfl
  abort host := keeps_abort host.enable
  abortSession _ := keeps_nil _
  hear event host := by
    cases event with
    | enabled status => exact keeps_notify enableAnswer rfl _
    | transportError => exact keeps_deaf rfl (keeps_abort _)
    | controllerTimeout => exact keeps_deaf rfl (keeps_abort _)
    | activated act => exact keeps_tag (fun _ _ _ _ => rfl) rfl rfl host
    | discovered status notice => exact keeps_tag (fun _ _ _ _ => rfl) rfl rfl host
    | deactivated sleep => exact keeps_tag (fun _ _ _ _ => rfl) rfl rfl host
    | _ => exact keeps_deaf rfl (keeps_nil _)

lemma hears_disable : Hears Venue.disable disableAnswer where
  view _ _ := rfl
  abort host := keeps_abort host.disable
  abortSession _ := keeps_nil _
  hear event host := by
    cases event with
    | disabled => exact keeps_notify disableAnswer rfl _
    | transportError => exact keeps_deaf rfl (keeps_abort _)
    | controllerTimeout => exact keeps_deaf rfl (keeps_abort _)
    | activated act => exact keeps_tag (fun _ _ _ _ => rfl) rfl rfl host
    | discovered status notice => exact keeps_tag (fun _ _ _ _ => rfl) rfl rfl host
    | deactivated sleep => exact keeps_tag (fun _ _ _ _ => rfl) rfl rfl host
    | _ => exact keeps_deaf rfl (keeps_nil _)

end Venues

end NfcStack.Proofs
