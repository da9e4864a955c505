import NfcStack.Proofs.MessageReads
import NfcStack.Proofs.Tidings
import NfcStack.Proofs.WaysDown

/-!
# Controllers that store messages

A controller that stores a message tells of it only when it is asked to read or to write. What is on its way of
messages arrives or stays on its way, and what the host does by itself brings nothing new, so that between the
moves of a run nothing tells of messages and the stored message stays.
-/

namespace NfcStack.Proofs

variable {σ α : Type} {c : Controller σ} {stored : σ → Bytes} {s t : System σ}

section News

/-- Whether a happening tells of a message: one that was read, or how a read or a write ended. -/
def tellsOfMessage : Happening → Bool
  | .event (.ndefData _) => true
  | .event (.readDone _) => true
  | .event (.writeDone _) => true
  | _ => false

def messageNews (happenings : List Happening) : List Happening := happenings.filter tellsOfMessage

lemma messageNews_append (first rest : List Happening) :
    messageNews (first ++ rest) = messageNews first ++ messageNews rest :=
  List.filter_append ..

/-- What arrived of messages. -/
def messagesIn (arrived : List Arrival) : List Happening := messageNews (arrived.map Arrival.happening)

lemma messagesIn_append (first rest : List Arrival) :
    messagesIn (first ++ rest) = messagesIn first ++ messagesIn rest := by
  unfold messagesIn
  rw [List.map_append, messageNews_append]

lemma mem_messagesIn {arrived : List Arrival} {a : Arrival} (h : a ∈ arrived)
    (hnews : tellsOfMessage a.happening = true) : a.happening ∈ messagesIn arrived :=
  List.mem_filter.mpr ⟨List.mem_map_of_mem h, hnews⟩

lemma readIn_other {a : Arrival} (h : tellsOfMessage a.happening = false) : readIn a = none := by
  obtain ⟨receiver, flags, happening⟩ := a
  cases happening with
  | event event =>
    cases event with
    | readDone status => exact absurd h nofun
    | _ => rfl
  | _ => rfl

lemma fill_other {a : Arrival} (h : tellsOfMessage a.happening = false) (message : Bytes) :
    fill message a = message := by
  obtain ⟨receiver, flags, happening⟩ := a
  cases happening with
  | event event =>
    cases event with
    | ndefData message => exact absurd h nofun
    | readDone status => exact absurd h nofun
    | _ => rfl
  | _ => rfl

/-- Where a message and the end of its read are all that arrived of messages, the read ended like this and the
buffer holds the message. -/
lemma messagesIn_read {arrived : List Arrival} {message : Bytes} {status : Status}
    (h : messagesIn arrived = [.event (.ndefData message), .event (.readDone status)]) :
    arrived.filterMap readIn = [status] ∧ arrived.foldl fill [] = if status.isOk then message else [] := by
  let tells (a : Arrival) : Bool := tellsOfMessage a.happening
  have hread : arrived.filterMap readIn = (arrived.filter tells).filterMap readIn := by
    rw [List.filterMap_filter]
    refine congrArg (arrived.filterMap ·) (funext fun a => ?_)
    split
    · rfl
    · next hother => exact readIn_other (eq_false_of_ne_true hother)
  have hfill : arrived.foldl fill [] = (arrived.filter tells).foldl fill [] := by
    rw [List.foldl_filter]
    refine congrArg (arrived.foldl · []) (funext₂ fun message a => ?_)
    split
    · rfl
    · next hother => exact fill_other (eq_false_of_ne_true hother) message
  unfold messagesIn messageNews at h
  rw [List.filter_map] at h
  obtain ⟨⟨_, _, _⟩, rest, hlist, rfl, hrest⟩ := List.map_eq_cons_iff.mp h
  obtain ⟨⟨_, _, _⟩, rest, rfl, rfl, hnone⟩ := List.map_eq_cons_iff.mp hrest
  obtain rfl := List.map_eq_nil_iff.mp hnone
  have hlist : arrived.filter tells = _ := hlist
  rw [hread, hfill, hlist]
  exact ⟨rfl, rfl⟩

/-- Completions of a write. -/
def writtenIn (a : Arrival) : Option Status :=
  match a.happening with
  | .event (.writeDone status) => some status
  | _ => none

lemma writtenIn_some {a : Arrival} {status : Status} (h : writtenIn a = some status) :
    a.happening = .event (.writeDone status) := by
  unfold writtenIn at h
  split at h
  · next hhappening =>
    rw [hhappening, Option.some.inj h]
  · exact absurd h nofun

lemma readIn_some {a : Arrival} {status : Status} (h : readIn a = some status) :
    a.happening = .event (.readDone status) := by
  obtain ⟨receiver, flags, happening⟩ := a
  cases happening with
  | event event =>
    cases event with
    | readDone found =>
      obtain rfl := Option.some.inj h
      rfl
    | _ => exact absurd h nofun
  | _ => exact absurd h nofun

lemma catches_write : Catches Venue.write writtenIn :=
  Receives.catches (f := Session.write)
    { undisturbed_messages.part (·.2.1) with
      view := fun _ => rfl
      map := fun _ _ => rfl
      activated := fun _ _ => rfl
      aborts := fun _ _ => ⟨rfl, rfl⟩
      abort := fun _ => rfl
      receive := fun _ _ event _ => by
        cases event with
        | writeDone status => exact stirs_notify status _
        | data status bytes => cases status <;> exact stirs_nothing _
        | _ => exact stirs_nothing _ }

end News

section Stores

/-- Whether a request is about the message of a tag. -/
def concernsMessage : Request → Bool
  | .readNdef => true
  | .writeNdef _ => true
  | _ => false

/-- A controller that stores a message: a read delivers it, a write that is acknowledged replaces it, and
nothing else tells of messages or changes what is stored. -/
structure Stores (c : Controller σ) (stored : σ → Bytes) : Prop where
  reads : ∀ x, messageNews (c.respond .readNdef x).1.happenings = [] ∨
    ∃ status, messageNews (c.respond .readNdef x).1.happenings =
      [.event (.ndefData (stored x)), .event (.readDone status)]
  writes : ∀ message x, messageNews (c.respond (.writeNdef message) x).1.happenings = [] ∨
    ∃ status, messageNews (c.respond (.writeNdef message) x).1.happenings = [.event (.writeDone status)] ∧
      (status = .ok → stored (c.respond (.writeNdef message) x).2 = message)
  silent : ∀ request x, concernsMessage request = false →
    messageNews (c.respond request x).1.happenings = []
  keeps : ∀ request x, (∀ message, request ≠ .writeNdef message) →
    stored (c.respond request x).2 = stored x

lemma keeps_of_silent {request : Request} (h : concernsMessage request = false) (message : Bytes) :
    request ≠ .writeNdef message := by
  rintro rfl
  exact absurd h nofun

lemma AskedFor.silent {event : Event} {request : Request} (h : AskedFor event request) :
    concernsMessage request = false := by
  cases h with
  | disable => rfl
  | select => rfl

lemma Stores.issue_news (hc : Stores c stored) (origin : Origin) {request : Request}
    (h : concernsMessage request = false) (s : System σ) :
    messageNews (c.issue origin request s).2.queue = messageNews s.queue := by
  have harrivals : ∃ taken : Bool, (c.issue origin request s).2.queue =
      s.queue ++ (if taken then (c.respond request s.controller).1.happenings else []) := ⟨_, rfl⟩
  obtain ⟨taken, hqueue⟩ := harrivals
  rw [hqueue, messageNews_append]
  cases taken with
  | true => exact (congrArg _ (hc.silent request s.controller h)).trans (List.append_nil _)
  | false => exact List.append_nil _

/-- A reaction leaves the stored message alone and brings no news of messages. -/
lemma Stores.reacts (hc : Stores c stored) {event : Event} {after : Host} (h : Reacts c event s after t) :
    messageNews t.queue = messageNews s.queue ∧ stored t.controller = stored s.controller := by
  cases h with
  | tells h =>
    obtain ⟨new, -, rfl⟩ := h
    exact ⟨rfl, rfl⟩
  | holds notice h hu => exact ⟨rfl, rfl⟩
  | asks host h => exact ⟨hc.issue_news .reaction h.silent _, hc.keeps _ _ (keeps_of_silent h.silent)⟩

lemma Stores.deliver (hc : Stores c stored) (happening : Happening) (s : System σ) :
    messageNews (c.deliver happening s).queue = messageNews s.queue ∧
      stored (c.deliver happening s).controller = stored s.controller := by
  cases happening with
  | abortAll => exact ⟨rfl, rfl⟩
  | abortSession => exact ⟨rfl, rfl⟩
  | event event =>
    by_cases hn : s.receiver = .nobody
    · rw [deliver_nobody c hn]
      exact ⟨rfl, rfl⟩
    · exact hc.reacts (s := s.record (.delivered event)) (deliver_reacts c hn event)

lemma Stores.follows_stored (hc : Stores c stored) :
    FollowsDeliveries c fun s t => stored t.controller = stored s.controller where
  refl _ := rfl
  trans h₁ h₂ := h₂.trans h₁
  queue _ _ := rfl
  deliver s happening _ := (hc.deliver happening s).2

/-- Of the news of messages that are taken in those that did not arrive are kept back. -/
lemma Stores.takeIn_news (hc : Stores c stored) (happenings : List Happening)
    (hn : s.receiver ≠ .nobody) :
    messagesIn (takenIn c happenings s) ++ messageNews (c.takeIn happenings s).queue =
      messageNews happenings ++ messageNews s.queue := by
  induction happenings generalizing s with
  | nil => rfl
  | cons first rest ih =>
    have hn' : (c.deliver first s).receiver ≠ .nobody := by
      rw [deliver_receiver]
      exact hn
    have harrival : (arrival? s.receiver s.host.flags first).toList =
        [⟨s.receiver, s.host.flags, first⟩] := by
      cases first with
      | abortAll => rfl
      | abortSession => rfl
      | event event =>
        cases hr : s.receiver with
        | nobody => exact absurd hr hn
        | host => rfl
        | session => rfl
    have hfirst : messagesIn [⟨s.receiver, s.host.flags, first⟩] = messageNews [first] := rfl
    unfold takenIn Controller.takeIn
    split
    · exact messageNews_append (first :: rest) s.queue
    · rw [harrival, messagesIn_append, hfirst, List.append_assoc, ih hn', (hc.deliver first s).1,
        ← List.append_assoc, ← messageNews_append]
      rfl

lemma Stores.round_news (hc : Stores c stored) (hn : s.receiver ≠ .nobody) :
    messagesIn (arrivalsOfRound c s) ++ messageNews (c.round s).queue = messageNews s.queue :=
  (hc.takeIn_news (s := { s with queue := [] }) s.queue hn).trans (List.append_nil _)

lemma Stores.attend_news (hc : Stores c stored) (hn : s.receiver ≠ .nobody) :
    messagesIn (arrivalsOfAttend c s) ++ messageNews (c.attend s).queue = messageNews s.queue := by
  have hn' : (c.round s).receiver ≠ .nobody := by
    rw [(follows_receiver c).round]
    exact hn
  unfold arrivalsOfAttend Controller.attend
  rw [messagesIn_append, List.append_assoc, hc.round_news hn', hc.round_news hn]

/-- All that is on its way of messages arrives while a caller waits or is on its way afterwards. -/
lemma Stores.wait_news (hc : Stores c stored) (hn : s.receiver ≠ .nobody) :
    messagesIn (arrivalsOfWait c s) ++ messageNews ((Op.pass : Op σ Unit).run c.alone s).2.queue =
      messageNews s.queue := by
  change messagesIn (arrivalsOfWait c s) ++ messageNews (Op.pass c.alone s).2.queue = _
  unfold arrivalsOfWait Op.pass
  cases s.late with
  | none => exact hc.attend_news hn
  | some notice =>
    dsimp only
    by_cases hkept : s.host.fieldBound ≤ notice.patience
    · rw [if_pos hkept, if_pos hkept]
      rfl
    · rw [if_neg hkept, if_neg hkept]
      exact hc.attend_news (s := { s with late := none }) hn

/-- While nobody uses the radio field nothing is kept back. -/
lemma Stores.takeIn_free (hc : Stores c stored) (happenings : List Happening) (hf : Free s) :
    messageNews (c.takeIn happenings s).queue = messageNews s.queue := by
  induction happenings generalizing s with
  | nil => rfl
  | cons first rest ih =>
    unfold Controller.takeIn
    rw [if_neg (not_kept_back hf.1), ih (deliver_free first hf), (hc.deliver first s).1]

end Stores

section Holding

/-- The controller holds a message, nothing that tells of messages is on its way, and somebody receives what it
reports. -/
structure Holds (stored : σ → Bytes) (message : Bytes) (s : System σ) : Prop where
  stored : stored s.controller = message
  quiet : messageNews s.queue = []
  received : s.receiver ≠ .nobody

variable {message : Bytes}

lemma Holds.mapHost (h : Holds stored message s) (f : Host → Host) : Holds stored message (s.mapHost f) :=
  ⟨h.stored, h.quiet, h.received⟩

lemma issue_received (origin : Origin) (request : Request) (hn : s.receiver ≠ .nobody) :
    (c.issue origin request s).2.receiver ≠ .nobody := by
  change (if request = .enable then Receiver.host else s.receiver) ≠ .nobody
  split
  · nofun
  · exact hn

lemma Stores.issue_holds (hc : Stores c stored) (h : Holds stored message s) (origin : Origin)
    {request : Request} (hreq : concernsMessage request = false) :
    Holds stored message (c.issue origin request s).2 where
  stored := (hc.keeps request s.controller (keeps_of_silent hreq)).trans h.stored
  quiet := (hc.issue_news origin hreq s).trans h.quiet
  received := issue_received origin request h.received

lemma Stores.attend_holds (hc : Stores c stored) (h : Holds stored message s) :
    Holds stored message (c.attend s) where
  stored := (hc.follows_stored.attend s).trans h.stored
  quiet := (List.append_eq_nil_iff.mp ((hc.attend_news h.received).trans h.quiet)).2
  received := by
    rw [(follows_receiver c).attend]
    exact h.received

lemma Stores.pass_holds (hc : Stores c stored) (h : Holds stored message s) :
    Holds stored message ((Op.pass : Op σ Unit).run c.alone s).2 where
  stored := (hc.follows_stored.pass (fun _ _ => rfl) s).trans h.stored
  quiet := (List.append_eq_nil_iff.mp ((hc.wait_news h.received).trans h.quiet)).2
  received := by
    rw [(follows_receiver c).pass fun _ _ => rfl]
    exact h.received

/-- A request that is not about messages leaves the message with the controller. -/
lemma Stores.exchange_holds (hc : Stores c stored) (h : Holds stored message s) (venue : Venue α)
    {request : Request} (hreq : concernsMessage request = false) :
    Holds stored message (exchange c venue request s).ended := by
  have hasked : Holds stored message (exchange c venue request s).asked :=
    hc.issue_holds (h.mapHost (venue.map .arm)) .caller hreq
  change Holds stored message (if (exchange c venue request s).verdict.isOk then _ else _)
  split
  · exact hc.pass_holds hasked
  · exact hasked

lemma Stores.release_holds (hc : Stores c stored) (h : Holds stored message s) :
    Holds stored message (c.release s) := by
  unfold Controller.release
  split
  · next notice hlate =>
    split
    · exact h
    · have hfree : Holds stored message { s with late := none } := ⟨h.stored, h.quiet, h.received⟩
      have hselect := hc.issue_holds hfree .reaction (show concernsMessage (.select notice.target.target
        notice.target.protocol (RadioInterface.forProtocol notice.target.protocol)) = false from rfl)
      exact hc.attend_holds (hselect.mapHost _)
  · exact h

lemma Stores.left_holds (hc : Stores c stored) (h : Holds stored message t) (s : System σ) :
    Holds stored message (left c s t) := by
  unfold left
  dsimp only
  split
  · exact h.mapHost _
  · exact hc.release_holds ((h.mapHost _).mapHost _)

lemma entered_holds (h : Holds stored message s) (bound : Host → UInt64) :
    Holds stored message (entered bound s) :=
  (h.mapHost _).mapHost _

/-- All that an accepted request brings of messages arrives in its wait or is on its way afterwards. -/
lemma Stores.exchange_news (hc : Stores c stored) (h : Holds stored message s) (venue : Venue α)
    {request : Request} (hreq : request ≠ .enable) (haccepted : (exchange c venue request s).accepted) :
    messagesIn (arrivalsOf c (exchange c venue request s)) ++
        messageNews (exchange c venue request s).ended.queue =
      messageNews (c.respond request s.controller).1.happenings := by
  let x := exchange c venue request s
  have hasked : messageNews x.asked.queue = messageNews (c.respond request s.controller).1.happenings := by
    have htaken : (x.verdict.isOk && (if request = .enable then Receiver.host else s.receiver) != .nobody) =
        true := by
      rw [if_neg hreq, Bool.and_eq_true]
      exact ⟨haccepted, bne_iff_ne.mpr h.received⟩
    have hqueue : x.asked.queue = s.queue ++ (c.respond request s.controller).1.happenings :=
      congrArg (s.queue ++ ·) (if_pos htaken)
    rw [hqueue, messageNews_append, h.quiet]
    rfl
  have hreceived : x.asked.receiver ≠ .nobody := issue_received .caller request h.received
  have hwait := hc.wait_news hreceived
  have harrived : arrivalsOf c x = arrivalsOfWait c x.asked := if_pos haccepted
  have hended : x.ended = ((Op.pass : Op σ Unit).run c.alone x.asked).2 := if_pos haccepted
  change messagesIn (arrivalsOf c x) ++ messageNews x.ended.queue = _
  rw [harrived, hended, hwait, hasked]

end Holding

section Runs

/-- Between the moves of a run nothing that tells of messages is on its way. -/
theorem Stores.ran_holds (hc : Stores c stored) (companions : List (Companion σ)) (config : Config) (x : σ)
    (deeds : List Deed) (hactive : (ran c companions config x deeds).host.flags.active = true) :
    Holds stored (stored (ran c companions config x deeds).controller)
      (ran c companions config x deeds) where
  stored := rfl
  quiet := by
    have hall : ∀ act, (fun _ : Act => True) act := fun _ => trivial
    rcases ran_attended hall c companions config x deeds with hbooted | ⟨s, hevolves, hattended⟩
    · rw [hbooted]
      rfl
    · -- All that was on its way is delivered in the first round, and reactions bring no news of messages.
      have hfree : Free (c.round s) := (Evolves.round (P := fun _ => True)).free (hevolves.free ⟨rfl, rfl⟩)
      rw [hattended]
      exact hc.takeIn_free (s := { c.round s with queue := [] }) _ hfree
  received := by
    have hevolves : Evolves c (fun _ => True) (booted config x) (ran c companions config x deeds) :=
      ran_evolves (fun _ => trivial) c companions config x deeds
    have hattended := (ran_at_rest c companions config x deeds).attended
    exact receives_of_host (active_receives hactive hattended (hevolves.woken fun _ => rfl))

end Runs

section Scripted

/-- A script uses up a refusal at most. -/
lemma verdict_shape (script : Script) (kind : RequestKind) :
    ∃ refusals, (script.verdict kind).2 = { script with refusals } := by
  unfold Script.verdict
  split
  · exact ⟨_, rfl⟩
  · exact ⟨_, rfl⟩

/-- A scripted controller refuses a request, or completes it and may keep that back. -/
lemma respond_cases (script : Script) (request : Request) :
    (script.respond request).1.happenings = [] ∧ (script.respond request).2.message = script.message ∨
      ∃ refusals, let completed := ({ script with refusals } : Script).complete request
        ((script.respond request).1.happenings = [] ∨
          (script.respond request).1.happenings = completed.1.map .event) ∧
        (script.respond request).2 = completed.2 := by
  obtain ⟨refusals, hverdict⟩ := verdict_shape script request.kind
  unfold Script.respond
  split
  · exact .inl ⟨rfl, rfl⟩
  · dsimp only
    rw [hverdict]
    split
    · refine .inr ⟨refusals, ?_, rfl⟩
      dsimp only
      split
      · exact .inl rfl
      · exact .inr rfl
    · exact .inl ⟨rfl, rfl⟩

lemma complete_silent (script : Script) {request : Request} (h : concernsMessage request = false) :
    messageNews ((script.complete request).1.map .event) = [] := by
  cases request with
  | readNdef => exact absurd h nofun
  | writeNdef message => exact absurd h nofun
  | select target protocol interface =>
    change messageNews ((if (script.completion .select).isOk then _ else _ : List Event).map .event) = []
    unfold Script.reactivation
    split
    · split
      · split
        · rfl
        · rfl
      · rfl
    · rfl
  | sendFrame frame =>
    unfold Script.complete
    dsimp only
    split
    · rfl
    · rfl
  | registerNfcees =>
    change messageNews ((script.announcement ++ [Event.nfceesRegistered _]).map .event) = []
    unfold Script.announcement
    split
    · rfl
    · rfl
  | _ => rfl

lemma complete_keeps (script : Script) {request : Request} (h : ∀ message, request ≠ .writeNdef message) :
    (script.complete request).2.message = script.message := by
  cases request with
  | writeNdef message => exact absurd rfl (h message)
  | sendFrame frame =>
    unfold Script.complete
    dsimp only
    split
    · rfl
    · rfl
  | detectNdef =>
    change script.nextDetection.2.message = script.message
    unfold Script.nextDetection
    dsimp only
    split
    · rfl
    · rfl
  | _ => rfl

/-- A scripted controller stores the message of the tag. -/
theorem script_stores : Stores Script.controller Script.message where
  reads script := by
    rcases respond_cases script .readNdef with ⟨hnothing, -⟩ | ⟨refusals, hnothing | hevents, -⟩
    · exact .inl (congrArg messageNews hnothing)
    · exact .inl (congrArg messageNews hnothing)
    · exact .inr ⟨_, congrArg messageNews hevents⟩
  writes message script := by
    rcases respond_cases script (.writeNdef message) with
      ⟨hnothing, -⟩ | ⟨refusals, hnothing | hevents, hafter⟩
    · exact .inl (congrArg messageNews hnothing)
    · exact .inl (congrArg messageNews hnothing)
    · refine .inr ⟨_, congrArg messageNews hevents, fun hok => ?_⟩
      change (script.respond (.writeNdef message)).2.message = message
      rw [hafter]
      change (if Status.isOk _ then _ else _ : Script).message = message
      rw [hok]
      rfl
  silent request script h := by
    rcases respond_cases script request with ⟨hnothing, -⟩ | ⟨refusals, hnothing | hevents, -⟩
    · exact congrArg messageNews hnothing
    · exact congrArg messageNews hnothing
    · exact (congrArg messageNews hevents).trans (complete_silent _ h)
  keeps request script h := by
    rcases respond_cases script request with ⟨-, hsame⟩ | ⟨refusals, -, hafter⟩
    · exact hsame
    · exact (congrArg Script.message hafter).trans (complete_keeps _ h)

end Scripted

end NfcStack.Proofs
