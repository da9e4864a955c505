import NfcStack.Proofs.FrameAnswers

/-!
# Reading messages

The buffer for messages is filled by whatever the controller reports, at any time, and cleared by reads and by
reports of a failed read. A read clears it before it asks. While nobody else acts, what it gives therefore came
in its own wait, and whether it asks goes by the recorded check alone.
-/

namespace NfcStack.Proofs

variable {σ : Type} {c : Controller σ} {s t : System σ}

section Buffer

/-- Completions of a read. -/
def readOf : Event → Option Status
  | .readDone status => some status
  | _ => none

/-- What an event makes of the buffer: a message replaces it, and a failed read clears it. -/
def fillBy (message : Bytes) : Event → Bytes
  | .ndefData message => message
  | .readDone status => if status.isOk then message else []
  | _ => message

def readIn (a : Arrival) : Option Status := a.event?.bind readOf

def fill (message : Bytes) (a : Arrival) : Bytes := (a.event?.map (fillBy message)).getD message

/-- From one system to another the buffer took in all that arrived. -/
def Fills (arrived : List Arrival) (s t : System σ) : Prop :=
  t.host.session.message = arrived.foldl fill s.host.session.message

/-- The waits for messages and the buffer are none of a tag's business. -/
lemma undisturbed_messages : Undisturbed fun session : Session =>
    (session.read, session.write, session.message) where
  admission session act admitted h := by
    obtain ⟨protocol, topazCapacity, signatures, slots, present, rfl⟩ := admit_shape h
    rfl
  collect session notice := by
    obtain ⟨notices, h⟩ := collect_shape session notice
    rw [h]
  connection _ _ := rfl
  deactivated _ _ := rfl
  forget _ := rfl

lemma hear_fills (receiver : Receiver) (flags : Flags) (event : Event) (host : Host) :
    (hear event host).session.message = fill host.session.message ⟨receiver, flags, .event event⟩ := by
  have h := undisturbed_messages.part (·.2.2)
  cases event with
  | activated act =>
    refine (h.activation act host).trans ?_
    split <;> rfl
  | discovered status notice => exact h.discovered status notice host
  | deactivated sleep => exact h.deactivation sleep host
  | data status bytes => cases status <;> rfl
  | _ => rfl

lemma hearAlone_fills (receiver : Receiver) (flags : Flags) (event : Event) (host : Host) :
    (hearAlone event host).session.message = fill host.session.message ⟨receiver, flags, .event event⟩ := by
  cases event with
  | discovered status notice => exact hear_fills receiver flags (.discovered status notice) host
  | data status bytes => cases status <;> rfl
  | _ => rfl

lemma follows_fills (c : Controller σ) : FollowsArrivals c (Fills (σ := σ)) where
  refl _ := rfl
  queue _ _ := rfl
  late _ _ := rfl
  trans := by
    intro first rest s t u h₁ h₂
    unfold Fills at h₁ h₂ ⊢
    rw [h₂, h₁, List.foldl_append]
  deliver s happening := by
    cases happening with
    | abortAll => rfl
    | abortSession => rfl
    | event event =>
      unfold Fills
      cases hr : s.receiver with
      | nobody =>
        rw [deliver_nobody c hr]
        rfl
      | host =>
        rw [(deliver_host c hr event).host]
        exact hear_fills .host s.host.flags event s.host
      | session =>
        rw [(deliver_session c hr event).host]
        exact hearAlone_fills .session s.host.flags event s.host

lemma catches_read : Catches Venue.read readIn :=
  Receives.catches (f := Session.read)
    { undisturbed_messages.part (·.1) with
      view := fun _ => rfl
      map := fun _ _ => rfl
      activated := fun _ _ => rfl
      aborts := fun _ _ => ⟨rfl, rfl⟩
      abort := fun _ => rfl
      receive := fun _ _ event _ => by
        cases event with
        | readDone status => exact stirs_notify status _
        | data status bytes => cases status <;> exact stirs_nothing _
        | _ => exact stirs_nothing _ }

end Buffer

section Reads

/-- The message that a read gives, given the verdict on its request and what arrived while it waited. -/
def messageTo (verdict : Status) (arrived : List Arrival) : Option Bytes :=
  if verdict.isOk && (arrived.filterMap readIn).getLast? = some .ok then
    let message := arrived.foldl fill []
    if message.isEmpty then none else some message
  else none

/-- A system whose buffer for messages is empty. -/
def unread (s : System σ) : System σ :=
  s.mapHost (Host.mapSession fun session => { session with message := [] })

/-- The request of a read with its wait. When it is made, the radio field is held and the buffer is empty. -/
def readExchange (c : Controller σ) (s : System σ) : Exchange σ :=
  exchange c Venue.read .readNdef (unread (entered Host.waitBound s))

/-- The last check found a message that is not empty. -/
def Promises (check : Option NdefCheck) : Prop := ∃ info size, check = some (.found info size) ∧ 0 < size

lemma promises_iff (check : Option NdefCheck) :
    check.any NdefCheck.hasMessage = true ↔ Promises check := by
  unfold Promises
  constructor
  · intro h
    cases check with
    | none => exact absurd h nofun
    | some check =>
      cases check with
      | found info size => exact ⟨info, size, rfl, of_decide_eq_true h⟩
      | _ => exact absurd h nofun
  · rintro ⟨info, size, rfl, hsize⟩
    exact decide_eq_true hsize

/-- There is a tag, and the last check found a message on it. -/
def readable (host : Host) : Bool := host.flags.tagReady && host.session.lastCheck.any NdefCheck.hasMessage

/-- What a read goes on with after its wait. -/
lemma readCall_alone (c : Controller σ) (s : System σ) :
    let x := exchange c Venue.read .readNdef (unread s)
    (do
      match ← Op.call Venue.read .readNdef with
      | .completed .ok => do
        Op.elapse
        let message ← Op.read (·.session.message)
        Tag.clearMessage
        return if message.isEmpty then none else some message
      | _ => do
        Tag.clearMessage
        return none : Op σ (Option Bytes)).run c.alone (unread s) =
      (messageTo x.verdict (arrivalsOf c x), unread (x.ended.mapHost (Venue.read.map .disarm))) := by
  intro x
  have houtcome := call_outcome c catches_read .readNdef (unread s)
  have hfilled : x.ended.host.session.message = (arrivalsOf c x).foldl fill [] :=
    (follows_fills c).duringCall Venue.read .readNdef (unread s)
  have hended : ((Op.call Venue.read .readNdef).run c.alone (unread s)).2 =
      x.ended.mapHost (Venue.read.map .disarm) := by
    rw [call_alone]
  rw [Op.run_bind]
  generalize (Op.call Venue.read .readNdef).run c.alone (unread s) = called at houtcome hended
  obtain ⟨outcome, t⟩ := called
  obtain rfl : t = x.ended.mapHost (Venue.read.map .disarm) := hended
  change outcome = if x.verdict.isOk then
      outcomeOf ((arrivalsOf c x).filterMap readIn) ((arrivalsOf c x).any Arrival.wakes)
    else .rejected x.verdict at houtcome
  unfold messageTo
  rw [← hfilled]
  cases hok : x.verdict.isOk with
  | false =>
    rw [hok] at houtcome
    rw [houtcome]
    rfl
  | true =>
    rw [hok, if_pos rfl] at houtcome
    unfold outcomeOf at houtcome
    cases hlast : ((arrivalsOf c x).filterMap readIn).getLast? with
    | some status =>
      rw [hlast] at houtcome
      rw [houtcome]
      cases status <;> rfl
    | none =>
      rw [hlast] at houtcome
      rw [houtcome]
      cases (arrivalsOf c x).any Arrival.wakes <;> rfl

/-- What a read gives and what it leaves. -/
lemma read_alone (c : Controller σ) (s : System σ) :
    (Tag.readNdef : Op σ (Option Bytes)).run c.alone s =
      if s.host.flags.tagReady then
        if s.host.session.lastCheck.any NdefCheck.hasMessage then
          let x := readExchange c s
          (messageTo x.verdict (arrivalsOf c x), left c s (unread (x.ended.mapHost (Venue.read.map .disarm))))
        else (none, left c s (unread (entered Host.waitBound s)))
      else (none, s) := by
  unfold Tag.readNdef
  rw [whenReady_run]
  by_cases hready : s.host.flags.tagReady = true
  · rw [if_pos hready, if_pos hready, holdingField_alone]
    have hcheck : (entered Host.waitBound s).host.session.lastCheck = s.host.session.lastCheck :=
      congrArg Session.lastCheck (entered_session Host.waitBound s)
    have hrun (op : Op σ (Option Bytes)) :
        (do
          Tag.clearMessage
          Op.elapse
          let lastCheck ← Op.read (·.session.lastCheck)
          if lastCheck.any NdefCheck.hasMessage then op
          else return none : Op σ (Option Bytes)).run c.alone (entered Host.waitBound s) =
            if s.host.session.lastCheck.any NdefCheck.hasMessage then
              op.run c.alone (unread (entered Host.waitBound s))
            else (none, unread (entered Host.waitBound s)) := by
      rw [← hcheck]
      change (if (entered Host.waitBound s).host.session.lastCheck.any NdefCheck.hasMessage then op
        else pure none : Op σ (Option Bytes)).run c.alone (unread (entered Host.waitBound s)) = _
      split
      · rfl
      · rfl
    have hcall := readCall_alone c (entered Host.waitBound s)
    rw [hrun]
    split
    · exact congrArg (fun called => (called.1, left c s called.2)) hcall
    · rfl
  · rw [if_neg hready, if_neg hready]

lemma read_gives (c : Controller σ) (s : System σ) :
    let x := readExchange c s
    ((Tag.readNdef : Op σ (Option Bytes)).run c.alone s).1 =
      if readable s.host then messageTo x.verdict (arrivalsOf c x) else none := by
  intro x
  rw [read_alone]
  unfold readable
  cases s.host.flags.tagReady with
  | false => rfl
  | true =>
    rw [if_pos rfl, Bool.true_and]
    split <;> rfl

/-- A read asks for the message exactly if there is one to be read. -/
theorem read_asks (c : Controller σ) (s : System σ) :
    Asks s ((Tag.readNdef : Op σ (Option Bytes)).run c.alone s).2
      (if readable s.host then [.readNdef] else []) := by
  have hleft {requests : List Request} {t : System σ} (h : Asks (entered Host.waitBound s) t requests) :
      Asks s (left c s t) requests := by
    have hentered : Asks s (entered Host.waitBound s) [] := asks_of_trace_eq rfl
    have hwhole := (hentered.trans h).trans (left_asks c s t)
    rw [List.append_nil] at hwhole
    exact hwhole
  rw [read_alone]
  unfold readable
  cases s.host.flags.tagReady with
  | false => exact asks_of_trace_eq rfl
  | true =>
    rw [if_pos rfl, Bool.true_and]
    split
    · exact hleft (exchange_asks c Venue.read .readNdef (unread (entered Host.waitBound s)))
    · exact hleft (asks_of_trace_eq rfl)

end Reads

end NfcStack.Proofs
