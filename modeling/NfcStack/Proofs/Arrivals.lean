import NfcStack.Proofs.Exchange

/-!
# What arrives during a wait

All that reaches the host while a caller waits, in order, and the flags of the host at each moment. Events
leave a mark in the trace and aborts leave none, so how a wait ends is told by what arrived: it completes
with the last arrival that completes it, and without one it is aborted exactly if something woke the caller.
-/

namespace NfcStack.Proofs

variable {σ α β : Type} (c : Controller σ)

section Accounts

/-- A happening that reached whoever receives, and the flags of the host when it did. -/
structure Arrival where
  receiver : Receiver
  flags : Flags
  happening : Happening
  deriving DecidableEq, Repr

namespace Arrival

def event? (a : Arrival) : Option Event :=
  match a.happening with
  | .event event => some event
  | _ => none

/-- Whether an arrival wakes those who wait in the session: an abort does, and where a host receives so does a
failure of the controller. -/
def wakes (a : Arrival) : Bool :=
  match a.happening with
  | .event event => a.receiver == .host && isFailure event
  | _ => true

end Arrival

/-- The arrival of a happening. Events arrive only if somebody receives them. -/
def arrival? (receiver : Receiver) (flags : Flags) (happening : Happening) : Option Arrival :=
  match happening, receiver with
  | .event _, .nobody => none
  | _, _ => some ⟨receiver, flags, happening⟩

/-- What arrives while happenings are taken in. -/
def takenIn : List Happening → System σ → List Arrival
  | [], _ => []
  | happening :: rest, s =>
    if s.late.isSome then []
    else (arrival? s.receiver s.host.flags happening).toList ++ takenIn rest (c.deliver happening s)

def arrivalsOfRound (s : System σ) : List Arrival := takenIn c s.queue { s with queue := [] }

def arrivalsOfAttend (s : System σ) : List Arrival := arrivalsOfRound c s ++ arrivalsOfRound c (c.round s)

/-- What arrives while the time of a wait passes. -/
def arrivalsOfWait (s : System σ) : List Arrival :=
  match s.late with
  | none => arrivalsOfAttend c s
  | some notice =>
    if s.host.fieldBound ≤ notice.patience then [] else arrivalsOfAttend c { s with late := none }

/-- Relations that hold along what arrives once they hold along one delivery. -/
structure FollowsArrivals (R : List Arrival → System σ → System σ → Prop) : Prop where
  refl : ∀ s, R [] s s
  trans : ∀ {first rest s t u}, R first s t → R rest t u → R (first ++ rest) s u
  queue : ∀ s queue, R [] s { s with queue }
  late : ∀ s late, R [] s { s with late }
  deliver : ∀ s happening,
    R (arrival? s.receiver s.host.flags happening).toList s (c.deliver happening s)

variable {c} {R : List Arrival → System σ → System σ → Prop}

lemma FollowsArrivals.takeIn (h : FollowsArrivals c R) (happenings : List Happening) (s : System σ) :
    R (takenIn c happenings s) s (c.takeIn happenings s) := by
  induction happenings generalizing s with
  | nil => exact h.refl s
  | cons first rest ih =>
    unfold takenIn Controller.takeIn
    by_cases hlate : s.late.isSome = true
    · rw [if_pos hlate, if_pos hlate]
      exact h.queue s _
    · rw [if_neg hlate, if_neg hlate]
      exact h.trans (h.deliver s first) (ih _)

lemma FollowsArrivals.round (h : FollowsArrivals c R) (s : System σ) :
    R (arrivalsOfRound c s) s (c.round s) := by
  have htaken := h.trans (h.queue s []) (h.takeIn s.queue _)
  exact htaken

lemma FollowsArrivals.attend (h : FollowsArrivals c R) (s : System σ) :
    R (arrivalsOfAttend c s) s (c.attend s) :=
  h.trans (h.round s) (h.round _)

lemma FollowsArrivals.wait (h : FollowsArrivals c R) (s : System σ) :
    R (arrivalsOfWait c s) s ((Op.pass : Op σ Unit).run c.alone s).2 := by
  change R (arrivalsOfWait c s) s (Op.pass c.alone s).2
  unfold Op.pass arrivalsOfWait
  cases s.late with
  | none => exact h.attend s
  | some notice =>
    dsimp only
    by_cases hkept : s.host.fieldBound ≤ notice.patience
    · rw [if_pos hkept, if_pos hkept]
      exact h.late s _
    · rw [if_neg hkept, if_neg hkept]
      have hattended := h.trans (h.late s none) (h.attend _)
      exact hattended

end Accounts

section Marks

end Marks

section Waits

/-- A rendezvous that was armed still is; it holds the last of some values, and was aborted if somebody was
woken. -/
def Stirs (values : List α) (woken : Bool) (r r' : Rendezvous α) : Prop :=
  r.armed = true →
    r'.armed = true ∧ r'.value = values.getLast?.or r.value ∧ r'.aborted = (r.aborted || woken)

lemma stirs_nothing (r : Rendezvous α) : Stirs [] false r r :=
  fun h => ⟨h, rfl, (Bool.or_false _).symm⟩

lemma stirs_notify (value : α) (r : Rendezvous α) : Stirs [value] false r (r.notify value) := by
  intro harmed
  unfold Rendezvous.notify
  rw [if_pos harmed]
  exact ⟨harmed, rfl, (Bool.or_false _).symm⟩

lemma stirs_abort (r : Rendezvous α) : Stirs [] true r r.abort := by
  intro harmed
  unfold Rendezvous.abort
  rw [if_pos harmed]
  exact ⟨harmed, rfl, (Bool.or_true _).symm⟩

lemma Stirs.append {first rest : List α} {woken woken' : Bool} {r r' r'' : Rendezvous α}
    (h₁ : Stirs first woken r r') (h₂ : Stirs rest woken' r' r'') :
    Stirs (first ++ rest) (woken || woken') r r'' := by
  intro harmed
  obtain ⟨harmed', hvalue', haborted'⟩ := h₁ harmed
  obtain ⟨harmed'', hvalue'', haborted''⟩ := h₂ harmed'
  refine ⟨harmed'', ?_, ?_⟩
  · rw [hvalue'', hvalue', List.getLast?_append, Option.or_assoc]
  · rw [haborted'', haborted', Bool.or_assoc]

/-- A venue of the session, with the arrivals that complete its waits. -/
structure Catches (venue : Venue α) (completes : Arrival → Option α) : Prop where
  view : ∀ f host, venue.view (venue.map f host) = f (venue.view host)
  hear : ∀ event host, Stirs (completes ⟨.host, host.flags, .event event⟩).toList (isFailure event)
    (venue.view host) (venue.view (hear event host))
  alone : ∀ event host, Stirs (completes ⟨.session, host.flags, .event event⟩).toList false
    (venue.view host) (venue.view (hearAlone event host))
  aborts : ∀ receiver flags,
    completes ⟨receiver, flags, .abortAll⟩ = none ∧ completes ⟨receiver, flags, .abortSession⟩ = none
  abort : ∀ host, venue.view (Host.abortAll host) = (venue.view host).abort ∧
    venue.view (host.mapSession Session.abort) = (venue.view host).abort

variable {venue : Venue α} {completes : Arrival → Option α}

/-- From one system to another a venue took in all that arrived. -/
def CatchesAll (venue : Venue α) (completes : Arrival → Option α) (arrivals : List Arrival)
    (s t : System σ) : Prop :=
  Stirs (arrivals.filterMap completes) (arrivals.any Arrival.wakes) (venue.view s.host)
    (venue.view t.host)

lemma deliver_catches (h : Catches venue completes) (s : System σ) (happening : Happening) :
    CatchesAll venue completes (arrival? s.receiver s.host.flags happening).toList s
      (c.deliver happening s) := by
  have haborted (host : Host) (hview : venue.view host = (venue.view s.host).abort) :
      Stirs [] true (venue.view s.host) (venue.view host) := by
    rw [hview]
    exact stirs_abort _
  unfold CatchesAll
  cases happening with
  | abortAll =>
    simp only [arrival?, Option.toList, List.filterMap_cons, (h.aborts _ _).1]
    exact haborted _ (h.abort s.host).1
  | abortSession =>
    simp only [arrival?, Option.toList, List.filterMap_cons, (h.aborts _ _).2]
    exact haborted _ (h.abort s.host).2
  | event event =>
    have hone (a : Arrival) : [a].filterMap completes = (completes a).toList := by
      cases hvalue : completes a <;> simp [hvalue]
    cases hr : s.receiver with
    | nobody =>
      rw [deliver_nobody c hr]
      exact stirs_nothing _
    | host =>
      rw [(deliver_host c hr event).host]
      have hheard := h.hear event s.host
      rw [← hone] at hheard
      have hwakes : [(⟨.host, s.host.flags, .event event⟩ : Arrival)].any Arrival.wakes =
          isFailure event := Bool.or_false _
      rw [← hwakes] at hheard
      exact hheard
    | session =>
      rw [(deliver_session c hr event).host]
      have hheard := h.alone event s.host
      rw [← hone] at hheard
      exact hheard

lemma follows_catches (h : Catches venue completes) :
    FollowsArrivals c (CatchesAll venue completes) where
  refl _ := stirs_nothing _
  queue _ _ := stirs_nothing _
  late _ _ := stirs_nothing _
  deliver := deliver_catches c h
  trans := by
    intro first rest s t u h₁ h₂
    unfold CatchesAll
    rw [List.filterMap_append, List.any_append]
    exact h₁.append h₂

/-- How a wait ends, given the values that completed it and whether the caller was woken. -/
def outcomeOf (values : List α) (woken : Bool) : Outcome α :=
  match values.getLast? with
  | some value => .completed value
  | none => if woken then .aborted else .timedOut

lemma Stirs.outcome {values : List α} {woken : Bool} {r : Rendezvous α}
    (h : Stirs values woken { armed := true } r) : r.outcome = outcomeOf values woken := by
  obtain ⟨-, hvalue, haborted⟩ := h rfl
  unfold Rendezvous.outcome outcomeOf
  rw [Option.or_none] at hvalue
  rw [Bool.false_or] at haborted
  cases hlast : values.getLast? with
  | none => simp only [hvalue, hlast, haborted]
  | some value => simp only [hvalue, hlast]

/-- What arrived during the wait for a request. -/
def arrivalsOf (x : Exchange σ) : List Arrival :=
  if x.verdict.isOk then arrivalsOfWait c x.asked else []

variable {c} in
/-- A relation that holds along what arrives holds along the wait for a request. -/
theorem FollowsArrivals.duringCall {R : List Arrival → System σ → System σ → Prop}
    (h : FollowsArrivals c R) (venue : Venue β) (request : Request) (s : System σ) :
    R (arrivalsOf c (exchange c venue request s)) (exchange c venue request s).asked
      (exchange c venue request s).ended := by
  change R (if (exchange c venue request s).verdict.isOk then _ else _) _
    (if (exchange c venue request s).verdict.isOk then _ else _)
  split
  · exact h.wait _
  · exact h.refl _

/-- A call ends by what arrived in its wait. -/
theorem call_outcome (h : Catches venue completes) (request : Request) (s : System σ) :
    ((Op.call venue request).run c.alone s).1 =
      if (exchange c venue request s).verdict.isOk then
        outcomeOf ((arrivalsOf c (exchange c venue request s)).filterMap completes)
          ((arrivalsOf c (exchange c venue request s)).any Arrival.wakes)
      else .rejected (exchange c venue request s).verdict := by
  have hcaught := (follows_catches c h).duringCall venue request s
  have hopened : venue.view (exchange c venue request s).asked.host = { armed := true } :=
    h.view .arm s.host
  unfold CatchesAll at hcaught
  rw [hopened] at hcaught
  rw [call_alone, hcaught.outcome]

end Waits

section Venues

/-- A part of the session that tags in the field do not change, apart from the wait for their activation. -/
structure Undisturbed (f : Session → β) : Prop where
  admission : ∀ session act admitted, session.admit? act = some admitted → f admitted = f session
  collect : ∀ session notice, f (session.collect notice).2 = f session
  connection : ∀ (session : Session) connection, f { session with connection } = f session
  deactivated : ∀ (session : Session) deactivated, f { session with deactivated } = f session
  forget : ∀ session, f session.forget = f session

variable {f : Session → β}

/-- Whether an activation is taken for the one that a reconnection waits for. -/
def resumes (flags : Flags) (act : Activation) : Bool :=
  !(flags.disabling || isForeign act) && flags.reconnecting

lemma Undisturbed.activation (h : Undisturbed f) (act : Activation) (host : Host) :
    f (hearActivation act host).session =
      f (if resumes host.flags act then
          { host.session with activated := host.session.activated.notify () }
        else host.session) := by
  unfold hearActivation resumes
  by_cases hignored : (host.flags.disabling || isForeign act) = true
  · rw [if_pos hignored, hignored]
    rfl
  · rw [if_neg hignored, Bool.eq_false_iff.mpr hignored]
    dsimp only
    have hflag : (host.mapFlags fun flags => { flags with tagActive := true }).flags.reconnecting =
        host.flags.reconnecting := rfl
    rw [hflag]
    by_cases hagain : host.flags.reconnecting = true
    · rw [if_pos hagain, hagain]
      rfl
    · rw [if_neg hagain, Bool.eq_false_iff.mpr hagain]
      cases hadmit : (host.mapFlags fun flags => { flags with tagActive := true }).session.admit? act with
      | none => rfl
      | some admitted =>
        dsimp only
        rw [keepEndpoint_session]
        exact h.admission host.session act admitted hadmit

lemma Undisturbed.notice (h : Undisturbed f) (notice : DiscoveryNotice) (host : Host) :
    f (hearNotice notice host).session = f host.session := by
  have hcollected := h.collect host.session notice
  unfold hearNotice
  dsimp only
  split
  · exact hcollected
  · split
    · exact hcollected
    · exact (h.connection _ _).trans hcollected

lemma Undisturbed.discovered (h : Undisturbed f) (status : Status) (notice : DiscoveryNotice)
    (host : Host) : f (hear (.discovered status notice) host).session = f host.session := by
  change f (if status.isOk then hearNotice notice host else host).session = _
  split
  · exact h.notice notice host
  · rfl

lemma Undisturbed.deactivation (h : Undisturbed f) (sleep : Bool) (host : Host) :
    f (hear (.deactivated sleep) host).session = f host.session := by
  cases sleep with
  | true => exact h.deactivated host.session _
  | false => exact h.forget host.session

/-- The waits of the session and what it received are none of a tag's business. -/
lemma undisturbed_waits : Undisturbed fun session : Session =>
    (session.select, session.activated, session.transceive, session.received) where
  admission session act admitted h := by
    obtain ⟨protocol, topazCapacity, signatures, slots, present, rfl⟩ := admit_shape h
    rfl
  collect session notice := by
    obtain ⟨notices, h⟩ := collect_shape session notice
    rw [h]
  connection _ _ := rfl
  deactivated _ _ := rfl
  forget _ := rfl

lemma Undisturbed.part {γ : Type} (h : Undisturbed f) (g : β → γ) : Undisturbed fun s => g (f s) where
  admission session act admitted hadmit := congrArg g (h.admission session act admitted hadmit)
  collect session notice := congrArg g (h.collect session notice)
  connection session connection := congrArg g (h.connection session connection)
  deactivated session deactivated := congrArg g (h.deactivated session deactivated)
  forget session := congrArg g (h.forget session)

/-- Completions of a selection. -/
def selectionIn (a : Arrival) : Option Status :=
  match a.happening with
  | .event (.selected status) => some status
  | _ => none

/-- Signals that the tag is active again. A session by itself takes every activation for one; a host only
those of a tag that was put to sleep. -/
def wakingIn (a : Arrival) : Option Unit :=
  match a.happening, a.receiver with
  | .event (.activated _), .session => some ()
  | .event (.activated act), .host => if resumes a.flags act then some () else none
  | _, _ => none

lemma stirs_same {r r' : Rendezvous α} (h : r' = r) : Stirs [] false r r' := by
  rw [h]
  exact stirs_nothing r

/-- A venue at which a session waits for something that it takes in. -/
structure Receives (venue : Venue α) (completes : Arrival → Option α) (f : Session → Rendezvous α) : Prop
    extends Undisturbed f where
  view : ∀ host, venue.view host = f host.session
  map : ∀ g host, venue.view (venue.map g host) = g (venue.view host)
  activated : ∀ (session : Session) activated, f { session with activated } = f session
  aborts : ∀ receiver flags,
    completes ⟨receiver, flags, .abortAll⟩ = none ∧ completes ⟨receiver, flags, .abortSession⟩ = none
  abort : ∀ session, f session.abort = (f session).abort
  receive : ∀ receiver flags event session, Stirs (completes ⟨receiver, flags, .event event⟩).toList false
    (f session) (f (session.receive event))

lemma Receives.catches {venue : Venue α} {completes : Arrival → Option α} {f : Session → Rendezvous α}
    (h : Receives venue completes f) : Catches venue completes where
  view := h.map
  aborts := h.aborts
  abort host := by
    rw [h.view, h.view, h.view]
    exact ⟨h.abort host.session, h.abort host.session⟩
  hear event host := by
    have hreceived := h.receive .host host.flags event host.session
    -- Of a failure the session takes in nothing, but whoever waits is woken.
    have hfailed : Stirs (completes ⟨.host, host.flags, .event event⟩).toList true
        (f host.session) (f (host.session.receive event).abort) := by
      have hwoken := hreceived.append (stirs_abort _)
      rw [List.append_nil, ← h.abort] at hwoken
      exact hwoken
    rw [h.view, h.view]
    cases event with
    | transportError => exact hfailed
    | controllerTimeout => exact hfailed
    | activated act =>
      have hsame : f (hear (.activated act) host).session = f host.session := by
        refine (h.activation act host).trans ?_
        split
        · exact h.activated host.session _
        · rfl
      rw [hsame]
      exact hreceived
    | discovered status notice =>
      rw [h.discovered status notice host]
      exact hreceived
    | deactivated sleep =>
      rw [h.deactivation sleep host]
      exact hreceived
    | _ => exact hreceived
  alone event host := by
    have hreceived := h.receive .session host.flags event host.session
    rw [h.view, h.view]
    cases event with
    | activated act =>
      have hsame : f (hearAlone (.activated act) host).session = f host.session := h.activated host.session _
      rw [hsame]
      exact hreceived
    | deactivated sleep =>
      have hsame : f (hearAlone (.deactivated sleep) host).session = f host.session :=
        h.toUndisturbed.deactivated host.session _
      rw [hsame]
      exact hreceived
    | discovered status notice =>
      have hsame : f (hearAlone (.discovered status notice) host).session = f host.session :=
        h.discovered status notice host
      rw [hsame]
      exact hreceived
    | _ => exact hreceived

lemma catches_select : Catches Venue.select selectionIn :=
  Receives.catches (f := Session.select)
    { undisturbed_waits.part (·.1) with
      view := fun _ => rfl
      map := fun _ _ => rfl
      activated := fun _ _ => rfl
      aborts := fun _ _ => ⟨rfl, rfl⟩
      abort := fun _ => rfl
      receive := fun _ _ event _ => by
        cases event with
        | selected status => exact stirs_notify status _
        | data status bytes => cases status <;> exact stirs_nothing _
        | _ => exact stirs_nothing _ }

lemma catches_activated : Catches Venue.activated wakingIn where
  view _ _ := rfl
  aborts _ _ := ⟨rfl, rfl⟩
  abort _ := ⟨rfl, rfl⟩
  hear event host := by
    have h := undisturbed_waits.part (·.2.1)
    cases event with
    | activated act =>
      have hview : Venue.activated.view (hear (.activated act) host) = _ := h.activation act host
      change Stirs (if resumes host.flags act then some () else none : Option Unit).toList false _ _
      rw [hview]
      by_cases hresumes : resumes host.flags act = true
      · rw [if_pos hresumes, if_pos hresumes]
        exact stirs_notify () _
      · rw [if_neg hresumes, if_neg hresumes]
        exact stirs_nothing _
    | transportError => exact stirs_abort _
    | controllerTimeout => exact stirs_abort _
    | discovered status notice => exact stirs_same (h.discovered status notice host)
    | deactivated sleep => exact stirs_same (h.deactivation sleep host)
    | data status bytes => cases status <;> exact stirs_nothing _
    | _ => exact stirs_nothing _
  alone event host := by
    cases event with
    | activated act => exact stirs_notify () _
    | discovered status notice =>
      exact stirs_same ((undisturbed_waits.part (·.2.1)).discovered status notice host)
    | data status bytes => cases status <;> exact stirs_nothing _
    | _ => exact stirs_nothing _

end Venues

end NfcStack.Proofs
