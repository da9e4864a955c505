import NfcStack.Proofs.Evolution
import NfcStack.Proofs.Hearing

/-!
# Exchanges

A call while nobody else acts: the venue is armed, the request is made, and if it was accepted the wait
takes in what arrives. The outcome of the call is the last completion among the events of the wait.
-/

namespace NfcStack.Proofs

variable {σ α : Type}

section Asking

/-- The interface over which targets of a protocol are selected: ISO-DEP and MIFARE have their own, and all
others are reached by frames. -/
def interfaceFor (protocol : UInt8) : UInt8 :=
  if protocol = Protocol.isoDep then 0x02
  else if protocol = Protocol.mifare then 0x80
  else 0x01

/-- The request that selects a target. -/
def selectionRequest (target : Connection) : Request :=
  .select target.handle target.protocol (interfaceFor target.protocol)

lemma selectRequest_eq (target : Connection) : Tag.selectRequest target = selectionRequest target := rfl

/-- The requests of callers in a trace, in order. -/
def callerRequests (trace : List Entry) : List Request :=
  trace.filterMap fun entry => match entry.passage with
    | .request .caller request _ => some request
    | _ => none

lemma callerRequests_append (first rest : List Entry) :
    callerRequests (first ++ rest) = callerRequests first ++ callerRequests rest :=
  List.filterMap_append

lemma callerRequests_delivery {trace : List Entry} (h : ∀ entry ∈ trace, OfDelivery entry) :
    callerRequests trace = [] := by
  refine List.filterMap_eq_nil_iff.mpr fun entry hentry => ?_
  have hof := h entry hentry
  unfold OfDelivery OfReaction at hof
  split
  · next hp =>
    rw [hp] at hof
    rcases hof with ⟨event, hevent⟩ | hfalse
    · exact absurd hevent nofun
    · exact hfalse.elim
  · rfl

/-- From one system to another, callers made exactly these requests, in order. -/
def Asks (s t : System σ) (requests : List Request) : Prop :=
  ∃ new, t.trace = s.trace ++ new ∧ callerRequests new = requests

variable {s t u : System σ}

lemma asks_of_trace_eq (h : t.trace = s.trace) : Asks s t [] :=
  ⟨[], by rw [h, List.append_nil], rfl⟩

lemma Adds.asks (h : Adds OfDelivery s t) : Asks s t [] := by
  obtain ⟨new, htrace, hnew⟩ := h
  exact ⟨new, htrace, callerRequests_delivery hnew⟩

lemma Asks.trans {first rest : List Request} (h₁ : Asks s t first) (h₂ : Asks t u rest) :
    Asks s u (first ++ rest) := by
  obtain ⟨new₁, htrace₁, hnew₁⟩ := h₁
  obtain ⟨new₂, htrace₂, hnew₂⟩ := h₂
  refine ⟨new₁ ++ new₂, by rw [htrace₂, htrace₁, List.append_assoc], ?_⟩
  rw [callerRequests_append, hnew₁, hnew₂]

lemma Asks.made {requests : List Request} (h : Asks s t requests) :
    callerRequests (t.trace.drop s.trace.length) = requests := by
  obtain ⟨new, htrace, hnew⟩ := h
  rw [trace_since htrace]
  exact hnew

lemma Asks.covers {requests : List Request} (h : Asks s t requests) : s.trace <+: t.trace := by
  obtain ⟨new, htrace, -⟩ := h
  exact ⟨new, htrace.symm⟩

end Asking

/-- What was in flight when a wait began reaches its end by deliveries, unless a late notice keeps all
of it back. -/
lemma FollowsDeliveries.pass {c : Controller σ} {R : System σ → System σ → Prop}
    (h : FollowsDeliveries c R) (hlate : ∀ s late, R s { s with late }) (s : System σ) :
    R s ((Op.pass : Op σ Unit).run c.alone s).2 := by
  change R s (Op.pass c.alone s).2
  unfold Op.pass
  cases hl : s.late with
  | none => exact h.attend s
  | some notice =>
    dsimp only
    split
    · exact hlate s _
    · exact h.trans (hlate s none) (h.attend _)

section Exchanges

/-- A request with the wait that follows it. -/
structure Exchange (σ : Type) where
  verdict : Status
  /-- The system right after the request. -/
  asked : System σ
  /-- The system at the end of the wait. -/
  ended : System σ

namespace Exchange

def accepted (x : Exchange σ) : Prop := x.verdict.isOk = true

/-- The events that were delivered during the wait. -/
def events (x : Exchange σ) : List Event := eventsOf (x.ended.trace.drop x.asked.trace.length)

/-- The last completion that arrived during the wait. -/
def answer? (x : Exchange σ) (answer : Event → Option α) : Option α :=
  (x.events.filterMap answer).getLast?

end Exchange

variable (c : Controller σ)

/-- A request at a venue while nobody else acts. -/
def exchange (venue : Venue α) (request : Request) (s : System σ) : Exchange σ :=
  let asked := c.issue .caller request (s.mapHost (venue.map .arm))
  { verdict := asked.1
    asked := asked.2
    ended := if asked.1.isOk then ((Op.pass : Op σ Unit).run c.alone asked.2).2 else asked.2 }

variable {c} in
/-- What deliveries keep, the wait for a request keeps. -/
lemma FollowsDeliveries.duringCall {R : System σ → System σ → Prop} (h : FollowsDeliveries c R)
    (hlate : ∀ s late, R s { s with late }) (venue : Venue α) (request : Request) (s : System σ) :
    R (exchange c venue request s).asked (exchange c venue request s).ended := by
  change R _ (if (exchange c venue request s).verdict.isOk then _ else _)
  split
  · exact h.pass hlate _
  · exact h.refl _

lemma call_alone (venue : Venue α) (request : Request) (s : System σ) :
    (Op.call venue request).run c.alone s =
      (if (exchange c venue request s).verdict.isOk then
          (venue.view (exchange c venue request s).ended.host).outcome
        else .rejected (exchange c venue request s).verdict,
        (exchange c venue request s).ended.mapHost (venue.map .disarm)) := by
  unfold Op.call exchange
  simp only [Op.run_bind, Op.run_update, Op.run_issue]
  change (if (c.issue .caller request (s.mapHost (venue.map .arm))).1.isOk = true then _ else _ :
    Op σ (Outcome α)).run c.alone _ = _
  split
  · rfl
  · rfl

lemma exchange_asks (venue : Venue α) (request : Request) (s : System σ) :
    Asks s (exchange c venue request s).ended [request] := by
  have hasked : Asks s (exchange c venue request s).asked [request] := ⟨[_], rfl, rfl⟩
  have hwait := (follows_adds c).duringCall (fun _ _ => adds_of_trace_eq rfl) venue request s
  exact hasked.trans hwait.asks

lemma call_asks (venue : Venue α) (request : Request) (s : System σ) :
    Asks s ((Op.call venue request).run c.alone s).2 [request] := by
  rw [call_alone]
  exact exchange_asks c venue request s

lemma call_covers (venue : Venue α) (request : Request) (s : System σ) :
    (exchange c venue request s).ended.trace <+:
      ((Op.call venue request).run c.alone s).2.trace := by
  rw [call_alone]
  exact List.prefix_refl _

variable {venue : Venue α} {answer : Event → Option α} {request : Request} {s : System σ}

/-- At the end of the wait the venue holds the last completion that arrived. -/
theorem exchange_listens (h : Hears venue answer) (hreq : request ≠ .enable)
    (hs : s.receiver ≠ .session) :
    (exchange c venue request s).ended.receiver = s.receiver ∧
      (venue.view (exchange c venue request s).ended.host).value =
        (exchange c venue request s).answer? answer := by
  let x := exchange c venue request s
  have hr : x.asked.receiver = s.receiver := issue_receiver c .caller request _ hreq
  have hlisten : Listens venue answer x.asked x.ended :=
    (follows_listens c h).duringCall (fun _ _ => listens_of_eq rfl rfl (keeps_nil _)) venue request s
  obtain ⟨hended, new, htrace, hkeeps⟩ := hlisten (by rw [hr]; exact hs)
  have hview : venue.view x.asked.host = { armed := true } := h.view .arm s.host
  have hvalue := (hkeeps (by rw [hview])).2
  have hevents : x.events = eventsOf new := by
    unfold Exchange.events
    rw [htrace, List.drop_left]
  refine ⟨hended.trans hr, ?_⟩
  rw [hvalue, hview, Option.or_none]
  unfold Exchange.answer?
  rw [hevents]

/-- A call completes with the last completion that arrived in its wait. -/
theorem call_completed (h : Hears venue answer) (hreq : request ≠ .enable)
    (hs : s.receiver ≠ .session) (value : α) :
    ((Op.call venue request).run c.alone s).1 = .completed value ↔
      (exchange c venue request s).accepted ∧
        (exchange c venue request s).answer? answer = some value := by
  rw [call_alone, ← (exchange_listens c h hreq hs).2]
  unfold Exchange.accepted
  by_cases hok : (exchange c venue request s).verdict.isOk = true
  · simp only [hok, if_true, true_and]
    unfold Rendezvous.outcome
    cases (venue.view (exchange c venue request s).ended.host).value with
    | some found => simp
    | none =>
      dsimp only
      split
      · simp
      · simp
  · simp [hok]

lemma call_receiver (h : Hears venue answer) (hreq : request ≠ .enable)
    (hs : s.receiver ≠ .session) :
    ((Op.call venue request).run c.alone s).2.receiver = s.receiver := by
  rw [call_alone]
  exact (exchange_listens c h hreq hs).1

end Exchanges

section Field

variable (c : Controller σ)

/-- While nobody else acts, an operation takes a resource unless it is inside another that has it. -/
lemma reserving_alone (resource : Resource) (op : Op σ α) (s : System σ) :
    (Op.reserving resource op).run c.alone s =
      if s.host.inUse.contains resource then op.run c.alone s
      else
        ((op.run c.alone (s.mapHost (takeResource resource))).1,
          c.release ((op.run c.alone (s.mapHost (takeResource resource))).2.mapHost
            (giveBack s.host.inUse))) := by
  have hrun : (Op.reserving resource op).run c.alone s =
      (if s.host.inUse.contains resource then op else Op.occupying resource op).run c.alone s := rfl
  rw [hrun]
  by_cases hin : s.host.inUse.contains resource = true
  · rw [if_pos hin, if_pos hin]
  · rw [if_neg hin, if_neg hin]
    rfl

/-- The system in which an operation begins that has a resource for itself. -/
def reserved (resource : Resource) (s : System σ) : System σ :=
  if s.host.inUse.contains resource then s else s.mapHost (takeResource resource)

/-- The system in which such an operation ends: unless it was inside another that has the resource, that is
given back. -/
def returned (resource : Resource) (s t : System σ) : System σ :=
  if s.host.inUse.contains resource then t else c.release (t.mapHost (giveBack s.host.inUse))

lemma reserving_run (resource : Resource) (op : Op σ α) (s : System σ) :
    (Op.reserving resource op).run c.alone s =
      ((op.run c.alone (reserved resource s)).1,
        returned c resource s (op.run c.alone (reserved resource s)).2) := by
  rw [reserving_alone]
  unfold reserved returned
  split
  · rfl
  · rfl

lemma returned_asks (resource : Resource) (s t : System σ) : Asks t (returned c resource s t) [] := by
  unfold returned
  split
  · exact asks_of_trace_eq rfl
  · exact (asks_of_trace_eq rfl).trans (release_adds c _).asks

/-- Taking a resource and giving it back asks for nothing. -/
lemma asks_within (resource : Resource) {requests : List Request} {s t : System σ}
    (h : Asks (reserved resource s) t requests) : Asks s (returned c resource s t) requests := by
  have hreserved : Asks s (reserved resource s) [] := by
    refine asks_of_trace_eq ?_
    unfold reserved
    split
    · rfl
    · rfl
  have hwhole := (hreserved.trans h).trans (returned_asks c resource s t)
  rw [List.append_nil] at hwhole
  exact hwhole

lemma reserving_asks (resource : Resource) (op : Op σ α) {requests : List Request} {s : System σ}
    (h : Asks (reserved resource s) (op.run c.alone (reserved resource s)).2 requests) :
    Asks s ((Op.reserving resource op).run c.alone s).2 requests := by
  rw [reserving_run]
  exact asks_within c resource h

/-- The system in which an operation begins that holds the radio field. -/
def entered (bound : Host → UInt64) (s : System σ) : System σ :=
  (s.mapHost fun host => if host.usesField then host else takeResource .field host).mapHost
    fun host => { host with fieldBound := bound host }

lemma entered_held (bound : Host → UInt64) {s : System σ} (h : s.host.usesField = true) :
    entered bound s = s.mapHost fun host => { host with fieldBound := bound host } :=
  congrArg (fun held => System.mapHost _ { s with host := held }) (if_pos h)

lemma entered_free (bound : Host → UInt64) {s : System σ} (h : ¬s.host.usesField = true) :
    entered bound s =
      (s.mapHost (takeResource .field)).mapHost fun host => { host with fieldBound := bound host } :=
  congrArg (fun held => System.mapHost _ { s with host := held }) (if_neg h)

/-- The system in which such an operation ends: unless the field was held before, it is given back. -/
def left (s t : System σ) : System σ :=
  let t := t.mapHost fun host => { host with fieldBound := s.host.fieldBound }
  if s.host.usesField then t else c.release (t.mapHost (giveBack s.host.inUse))

lemma holdingField_alone (bound : Host → UInt64) (op : Op σ α) (s : System σ) :
    (Op.holdingField bound op).run c.alone s =
      ((op.run c.alone (entered bound s)).1, left c s (op.run c.alone (entered bound s)).2) := by
  unfold Op.holdingField entered left
  rw [reserving_alone]
  by_cases hu : s.host.usesField = true
  · have hin : s.host.inUse.contains .field = true := hu
    simp only [System.mapHost, hu, hin, if_true]
    rfl
  · have hin : ¬s.host.inUse.contains .field = true := hu
    simp only [System.mapHost, hu, hin]
    rfl

lemma whenReady_run (otherwise : α) (op : Op σ α) (s : System σ) :
    (Tag.whenReady otherwise op).run c.alone s =
      if s.host.flags.tagReady then op.run c.alone s else (otherwise, s) := by
  change (if s.host.flags.tagReady = true then op else pure otherwise : Op σ α).run c.alone s = _
  split
  · rfl
  · rfl

lemma entered_session (bound : Host → UInt64) (s : System σ) :
    (entered bound s).host.session = s.host.session := by
  unfold entered
  simp only [System.mapHost_host]
  split
  · rfl
  · rfl

lemma entered_flags (bound : Host → UInt64) (s : System σ) :
    (entered bound s).host.flags = s.host.flags := by
  unfold entered
  simp only [System.mapHost_host]
  split
  · rfl
  · rfl

lemma left_asks (s t : System σ) : Asks t (left c s t) [] := by
  unfold left
  dsimp only
  split
  · exact asks_of_trace_eq rfl
  · exact (asks_of_trace_eq rfl).trans (release_adds c _).asks

lemma holdingField_asks (bound : Host → UInt64) (op : Op σ α) {requests : List Request}
    {s : System σ} (h : Asks (entered bound s) (op.run c.alone (entered bound s)).2 requests) :
    Asks s ((Op.holdingField bound op).run c.alone s).2 requests := by
  rw [holdingField_alone]
  have hentered : Asks s (entered bound s) [] := asks_of_trace_eq rfl
  have hwhole := (hentered.trans h).trans (left_asks c s _)
  rw [List.append_nil] at hwhole
  exact hwhole

lemma left_receiver (s t : System σ) : (left c s t).receiver = t.receiver := by
  unfold left
  dsimp only
  split
  · rfl
  · rw [release_receiver]
    rfl

end Field

section Leading

variable {β : Type} {c : Controller σ} {A : System σ → Prop}

/-- From systems of one kind an operation leads to systems of another, while nobody else acts. -/
def Leads (c : Controller σ) (A : System σ → Prop) (op : Op σ α) (B : α → System σ → Prop) : Prop :=
  ∀ s, A s → B (op.run c.alone s).1 (op.run c.alone s).2

lemma Leads.bind {op : Op σ α} {next : α → Op σ β} {B : α → System σ → Prop}
    {D : β → System σ → Prop} (h : Leads c A op B) (hn : ∀ a, Leads c (B a) (next a) D) :
    Leads c A (op >>= next) D := by
  intro s hs
  rw [Op.run_bind]
  exact hn _ _ (h s hs)

lemma Leads.mono {op : Op σ α} {B D : α → System σ → Prop} (h : Leads c A op B)
    (hBD : ∀ a s, B a s → D a s) : Leads c A op D :=
  fun s hs => hBD _ _ (h s hs)

lemma leads_read {f : Host → α} {next : α → Op σ β} {B : β → System σ → Prop}
    (h : ∀ a, Leads c A (next a) B) : Leads c A (Op.read f >>= next) B :=
  fun s hs => h (f s.host) s hs

/-- Of what is read something may be known. -/
lemma leads_read_of {f : Host → α} {φ : α → Prop} {next : α → Op σ β} {B : β → System σ → Prop}
    (hf : ∀ s, A s → φ (f s.host)) (h : ∀ a, φ a → Leads c A (next a) B) :
    Leads c A (Op.read f >>= next) B :=
  fun s hs => h (f s.host) (hf s hs) s hs

/-- What is read may be known before. -/
lemma leads_known {f : Host → α} {next : α → Op σ β} {B : β → System σ → Prop} (a : α)
    (hf : ∀ s, A s → f s.host = a) (h : Leads c A (next a) B) : Leads c A (Op.read f >>= next) B := by
  intro s hs
  rw [Op.run_bind, Op.run_read, hf s hs]
  exact h s hs

lemma leads_pure (a : α) {B : α → System σ → Prop} (h : ∀ s, A s → B a s) :
    Leads c A (pure a : Op σ α) B := h

lemma leads_given {φ : Prop} {op : Op σ α} {B : α → System σ → Prop} (h : φ → Leads c A op B) :
    Leads c (fun s => φ ∧ A s) op B :=
  fun s hs => h hs.1 s hs.2

lemma release_idle {s : System σ} (f : Host → Host) (h : s.late = none) :
    c.release (s.mapHost f) = s.mapHost f := by
  have hlate : (s.mapHost f).late = none := h
  unfold Controller.release
  rw [hlate]

/-- The system in which an operation begins that has the life cycle for itself. -/
def inLifecycle (s : System σ) : System σ := s.mapHost (takeResource .lifecycle)

/-- While nothing is in use an operation that takes the life cycle leads where it leads without that, if no
notice is kept back there. -/
lemma lifecycle_alone {op : Op σ α} {s : System σ} (hidle : s.host.inUse = [])
    (hlate : (op.run c.alone (inLifecycle s)).2.late = none) :
    (Op.reserving .lifecycle op).run c.alone s =
      ((op.run c.alone (inLifecycle s)).1,
        (op.run c.alone (inLifecycle s)).2.mapHost (giveBack [])) := by
  have hfree : ¬s.host.inUse.contains .lifecycle = true := by
    rw [hidle]
    nofun
  rw [reserving_alone, if_neg hfree, hidle]
  exact congrArg (_, ·) (release_idle _ hlate)

/-- An operation that holds the life cycle of the stack leads where it would lead without that. -/
lemma lifecycle_leads {op : Op σ α} {B : α → System σ → Prop}
    (hA : ∀ s, A s → A (s.mapHost (takeResource .lifecycle)))
    (hB : ∀ a t, B a t → t.late = none ∧ B a (t.mapHost (giveBack [])))
    (h : Leads c A op B) :
    Leads c (fun s => A s ∧ s.host.inUse = []) (Op.reserving .lifecycle op) B := by
  rintro s ⟨hs, hidle⟩
  obtain ⟨hlate, hback⟩ := hB _ _ (h _ (hA s hs))
  rw [lifecycle_alone hidle hlate]
  exact hback

lemma callForever_alone (venue : Venue α) (request : Request) (s : System σ) :
    (Op.callForever venue request).run c.alone s =
      let asked := c.issue .caller request (s.mapHost (venue.map .arm))
      if asked.1.isOk then
        ((venue.view (c.attend asked.2).host).unboundedOutcome,
          (c.attend asked.2).mapHost (venue.map .disarm))
      else (.rejected asked.1, asked.2.mapHost (venue.map .disarm)) := by
  unfold Op.callForever
  simp only [Op.run_bind, Op.run_update, Op.run_issue]
  change (if (c.issue .caller request (s.mapHost (venue.map .arm))).1.isOk = true then _ else _ :
    Op σ (Outcome α)).run c.alone _ = _
  split
  · rfl
  · rfl

end Leading

end NfcStack.Proofs
