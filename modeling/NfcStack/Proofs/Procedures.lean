import NfcStack.Call.Session
import NfcStack.Proofs.FailedReconnect

/-!
# Procedures of the session

The operations of the session that wait for a completion, written out step by step. A procedure runs as the
operation does, and gives besides what it went through: each of its waits with the system at its end, and
the connections it recorded.
-/

namespace NfcStack.Proofs

variable {σ α β : Type}

section Stations

/-- The rendezvous of the session. -/
inductive Station where
  | select
  | activated
  | deactivated
  | transceive
  | presence
  | read
  | write
  | format
  | lock
  | check
  deriving DecidableEq, Repr

/-- What completes a wait. -/
abbrev Station.Value : Station → Type
  | .activated => Unit
  | .deactivated => Unit
  | .check => NdefCheck
  | _ => Status

def Station.venue : (station : Station) → Venue station.Value
  | .select => Venue.select
  | .activated => Venue.activated
  | .deactivated => Venue.deactivated
  | .transceive => Venue.transceive
  | .presence => Venue.presence
  | .read => Venue.read
  | .write => Venue.write
  | .format => Venue.format
  | .lock => Venue.lock
  | .check => Venue.check

lemma Station.onlyHolds (station : Station) : OnlyHolds station.venue := by
  intro f host
  cases station <;> rfl

/-- The change of arming or closing a rendezvous. -/
def Station.moved (station : Station) (f : Rendezvous station.Value → Rendezvous station.Value) : Change :=
  .waits (station.venue.map f) (station.onlyHolds f)

/-- A wait, with the system at its end. -/
structure Wait (σ : Type) where
  station : Station
  ended : System σ

namespace Wait

def rendezvous (w : Wait σ) : Rendezvous w.station.Value := w.station.venue.view w.ended.host

def outcome (w : Wait σ) : Outcome w.station.Value := w.rendezvous.outcome

/-- Whether anything completed the wait. -/
def completed (w : Wait σ) : Bool := w.rendezvous.value.isSome

end Wait

/-- What a procedure goes through. -/
inductive Mark (σ : Type) where
  | waited (wait : Wait σ)
  | connected (target : Connection)

def marksOf : Change → List (Mark σ)
  | .session (.connection target) => [.connected target]
  | _ => []

end Stations

/-- Requests of another kind do not commit the routing table. -/
lemma ne_commit {request : Request} (h : (request.kind == .commitRouting) = false) :
    request ≠ .commitRouting := by
  rintro rfl
  exact Bool.noConfusion h

/-- An operation of the session, step by step. None commits the routing table. -/
inductive Procedure : Type → Type 1 where
  | done {α : Type} (result : α) : Procedure α
  | look {α β : Type} (f : Host → β) (next : β → Procedure α) : Procedure α
  | alter {α : Type} (change : Change) (next : Procedure α) : Procedure α
  /-- Lets a moment pass in which something may come in. -/
  | elapse {α : Type} (next : Procedure α) : Procedure α
  /-- Makes a request. -/
  | ask {α : Type} (request : Request) (h : request ≠ .commitRouting) (next : Status → Procedure α) :
      Procedure α
  /-- Makes a request that nobody waits for. -/
  | send {α : Type} (request : Request) (h : request ≠ .commitRouting) (next : Status → Procedure α) :
      Procedure α
  /-- Waits at a rendezvous and closes it. -/
  | wait {α : Type} (station : Station) (next : Outcome station.Value → Procedure α) : Procedure α
  /-- Holds the radio field for a part. -/
  | holding {α β : Type} (bound : Host → UInt64) (inner : Procedure β) (next : β → Procedure α) :
      Procedure α

namespace Procedure

section Running

def run : {α : Type} → Procedure α → Op σ α
  | _, .done result => pure result
  | _, .look f next => do (next (← Op.read f)).run
  | _, .alter change next => do
    Op.update change.apply
    next.run
  | _, .elapse next => do
    Op.elapse
    next.run
  | _, .ask request _ next => do (next (← Op.issue request)).run
  | _, .send request _ next => do (next (← Op.send request)).run
  | _, .wait station next => do (next (← Op.await station.venue)).run
  | _, .holding bound inner next => do (next (← Op.holdingField bound inner.run)).run

/-- A wait at a rendezvous, with its outcome. -/
def awaited (station : Station) : Op σ (Outcome station.Value × Wait σ) := fun env s =>
  let ended := ((Op.pass : Op σ Unit).run env s).2
  (((station.venue.view ended.host).outcome, ⟨station, ended⟩),
    ended.mapHost (station.venue.map .disarm))

/-- Runs a procedure and gives what it went through. -/
def logged : {α : Type} → Procedure α → Op σ (α × List (Mark σ))
  | _, .done result => pure (result, [])
  | _, .look f next => do (next (← Op.read f)).logged
  | _, .alter change next => do
    Op.update change.apply
    let (result, marks) ← next.logged
    return (result, marksOf change ++ marks)
  | _, .elapse next => do
    Op.elapse
    next.logged
  | _, .ask request _ next => do (next (← Op.issue request)).logged
  | _, .send request _ next => do (next (← Op.send request)).logged
  | _, .wait station next => do
    let (outcome, waited) ← awaited station
    let (result, marks) ← (next outcome).logged
    return (result, .waited waited :: marks)
  | _, .holding bound inner next => do
    let (between, first) ← Op.holdingField bound inner.logged
    let (result, rest) ← (next between).logged
    return (result, first ++ rest)

/-- What a procedure gives, and what it goes through. -/
def account (p : Procedure α) (env : Environment σ) (s : System σ) : α × List (Mark σ) :=
  (p.logged.run env s).1

lemma reserving_map (f : α → β) (resource : Resource) (op : Op σ α) :
    Op.reserving resource (f <$> op) = f <$> Op.reserving resource op := by
  funext env s
  change (if env.taken.contains resource = true then _ else _ : Op σ β) env s =
    (f <$> (if env.taken.contains resource = true then _ else _ : Op σ α) : Op σ β) env s
  split
  · rfl
  · change (if s.host.inUse.contains resource = true then _ else _ : Op σ β) env s =
      (f <$> (if s.host.inUse.contains resource = true then _ else _ : Op σ α) : Op σ β) env s
    split
    · rfl
    · rfl

lemma holdingField_map (f : α → β) (bound : Host → UInt64) (op : Op σ α) :
    Op.holdingField bound (f <$> op) = f <$> Op.holdingField bound op := by
  unfold Op.holdingField
  rw [← reserving_map]
  rfl

/-- A procedure that tells what it goes through runs like one that does not. -/
lemma fst_logged (p : Procedure α) : (Prod.fst <$> p.logged : Op σ α) = p.run := by
  induction p with
  | done result => rfl
  | look f next ih => exact funext fun env => funext fun s => congrFun (congrFun (ih _) env) s
  | alter change next ih => exact funext fun env => funext fun s => congrFun (congrFun ih env) _
  | elapse next ih => exact funext fun env => funext fun s => congrFun (congrFun ih env) _
  | ask request h next ih => exact funext fun env => funext fun s => congrFun (congrFun (ih _) env) _
  | send request h next ih => exact funext fun env => funext fun s => congrFun (congrFun (ih _) env) _
  | wait station next ih => exact funext fun env => funext fun s => congrFun (congrFun (ih _) env) _
  | holding bound inner next ihInner ih =>
    funext env s
    unfold run
    rw [← ihInner, holdingField_map]
    exact congrFun (congrFun (ih _) env) _

lemma account_result (p : Procedure α) (env : Environment σ) (s : System σ) :
    (p.account env s).1 = (p.run.run env s).1 := by
  rw [← fst_logged]
  rfl

lemma logged_system (p : Procedure α) (env : Environment σ) (s : System σ) :
    (p.logged.run env s).2 = (p.run.run env s).2 := by
  rw [← fst_logged]
  rfl

end Running

section Holding

/-- The system in which an operation begins that holds the radio field. -/
def heldFrom (env : Environment σ) (bound : Host → UInt64) (s : System σ) : System σ :=
  let held := if env.taken.contains .field then { s with heldUp := true }
    else if s.host.usesField then s else (env.goOn s).mapHost (takeResource .field)
  held.mapHost fun host => { host with fieldBound := bound host }

lemma holdingField_fst (env : Environment σ) (bound : Host → UInt64) (op : Op σ α) (s : System σ) :
    ((Op.holdingField bound op).run env s).1 = (op.run env (heldFrom env bound s)).1 := by
  unfold Op.holdingField Op.reserving heldFrom
  rw [Op.run_bind, Op.run_isTaken]
  dsimp only
  by_cases htaken : env.taken.contains .field = true
  · rw [if_pos htaken, if_pos htaken]
    rfl
  · rw [if_neg htaken, if_neg htaken, Op.run_bind, Op.run_read]
    dsimp only
    by_cases hused : s.host.usesField = true
    · have hin : s.host.inUse.contains .field = true := hused
      rw [if_pos hin, if_pos hused]
      rfl
    · have hin : ¬s.host.inUse.contains .field = true := hused
      rw [if_neg hin, if_neg hused]
      rfl

/-- The account of a part that holds the field is that of the part by itself, and the rest is appended. -/
lemma account_holding (bound : Host → UInt64) (inner : Procedure β) (next : β → Procedure α)
    (env : Environment σ) (s : System σ) :
    ∃ t, (holding bound inner next).account env s =
      (((next (inner.account env (heldFrom env bound s)).1).account env t).1,
        (inner.account env (heldFrom env bound s)).2 ++
          ((next (inner.account env (heldFrom env bound s)).1).account env t).2) := by
  have hheld : ((Op.holdingField bound inner.logged).run env s).1 =
      inner.account env (heldFrom env bound s) := holdingField_fst env bound _ s
  refine ⟨((Op.holdingField bound inner.logged).run env s).2, ?_⟩
  rw [← hheld]
  rfl

end Holding

section Parts

variable (next : β → Procedure α)

/-- Makes a request and waits for its completion. -/
def call (station : Station) (request : Request) (h : request ≠ .commitRouting)
    (next : Outcome station.Value → Procedure α) : Procedure α :=
  .alter (station.moved .arm) <| .elapse <| .ask request h fun verdict =>
    if verdict.isOk then .wait station next
    else .alter (station.moved .disarm) (next (.rejected verdict))

lemma run_call (station : Station) (request : Request) (h : request ≠ .commitRouting)
    (next : Outcome station.Value → Procedure α) :
    (call station request h next).run =
      (do (next (← Op.call station.venue request)).run : Op σ α) := by
  funext env s
  let asked := env.controller.issue .caller request (env.meantime (s.mapHost (station.venue.map .arm)))
  have hcall : Op.call station.venue request env s =
      (if asked.1.isOk then Op.await station.venue
        else do
          Op.update (station.venue.map .disarm)
          return .rejected asked.1 : Op σ _) env (env.interlude request asked.2) := rfl
  change (if asked.1.isOk then wait station next
      else alter (station.moved .disarm) (next (.rejected asked.1))).run env
        (env.interlude request asked.2) =
    (next (Op.call station.venue request env s).1).run env (Op.call station.venue request env s).2
  rw [hcall]
  split
  · rfl
  · rfl

lemma account_call (station : Station) (request : Request) (h : request ≠ .commitRouting)
    (next : Outcome station.Value → Procedure α) (env : Environment σ) (s : System σ) :
    (call station request h next).account env s =
      let asked := (Op.issue request).run env (env.meantime (s.mapHost (station.venue.map .arm)))
      if asked.1.isOk then (wait station next).account env asked.2
      else (next (.rejected asked.1)).account env (asked.2.mapHost (station.venue.map .disarm)) := by
  let asked := (Op.issue request : Op σ Status).run env (env.meantime (s.mapHost (station.venue.map .arm)))
  change (if asked.1.isOk then wait station next
    else alter (station.moved .disarm) (next (.rejected asked.1))).account env asked.2 =
      if asked.1.isOk then (wait station next).account env asked.2
      else (next (.rejected asked.1)).account env (asked.2.mapHost (station.venue.map .disarm))
  split
  · rfl
  · rfl

lemma call_runs {station : Station} {request : Request} {h : request ≠ .commitRouting}
    {next : Outcome station.Value → Procedure α} {after : Outcome station.Value → Op σ α}
    (hnext : ∀ outcome, (next outcome).run = after outcome) :
    (call station request h next).run = Op.call station.venue request >>= after := by
  rw [run_call]
  exact bind_congr hnext

lemma branch_runs {φ : Prop} [Decidable φ] {p q : Procedure α} {first second : Op σ α}
    (hp : p.run = first) (hq : q.run = second) :
    (if φ then p else q).run = if φ then first else second := by
  split
  · exact hp
  · exact hq

lemma holding_runs {bound : Host → UInt64} {inner : Procedure β} {op : Op σ β} (h : inner.run = op)
    (next : β → Procedure α) :
    (holding bound inner next).run = (do (next (← Op.holdingField bound op)).run : Op σ α) := by
  rw [← h]
  rfl

/-- Goes one way with a tag and another without. -/
def ifReady (p q : Procedure α) : Procedure α :=
  .look (·.flags.tagReady) fun ready => if ready then p else q

lemma account_ifReady (p q : Procedure α) (env : Environment σ) (s : System σ) :
    (ifReady p q).account env s =
      if s.host.flags.tagReady then p.account env s else q.account env s := by
  change (if s.host.flags.tagReady = true then p else q).account env s = _
  split
  · rfl
  · rfl

lemma ifReady_runs {p q : Procedure α} (otherwise : β) {op : Op σ β} {after : β → Op σ α}
    (hp : p.run = op >>= after) (hq : q.run = after otherwise) :
    (ifReady p q).run = Tag.whenReady otherwise op >>= after := by
  funext env s
  change (if s.host.flags.tagReady = true then p else q).run env s =
    ((if s.host.flags.tagReady = true then op else pure otherwise : Op σ β) >>= after) env s
  split
  · rw [hp]
  · rw [hq]
    rfl

/-- Holds the radio field for a part that needs a tag. -/
def onTag (otherwise : β) (inner : Procedure β) : Procedure α :=
  ifReady (.holding Host.waitBound inner next) (next otherwise)

lemma onTag_runs (otherwise : β) {inner : Procedure β} {op : Op σ β} (h : inner.run = op) :
    (onTag next otherwise inner).run =
      (do (next (← Tag.whenReady otherwise (Op.holdingField Host.waitBound op))).run : Op σ α) :=
  ifReady_runs otherwise (holding_runs h next) rfl

end Parts

section Operations

/-- Selects a target for the first time. -/
def connect (target : Connection) (next : Status → Procedure α) : Procedure α :=
  onTag next .busy <|
    call .select (Tag.selectRequest target) (ne_commit rfl) fun (outcome : Outcome Status) =>
      match outcome with
      | .completed .ok => .alter (.session (.connection target)) (.done .ok)
      | .timedOut => .send (.deactivate false) (ne_commit rfl) fun _ => .done .timeout
      | outcome => .done outcome.status

/-- Selects a target that was put to sleep and waits until it is active again. -/
def reselect (target : Connection) : Procedure Bool :=
  .alter (Station.activated.moved .arm) <|
    call .select (Tag.selectRequest target) (ne_commit rfl) fun (outcome : Outcome Status) =>
      match outcome with
      | .completed .ok => .wait .activated fun (activation : Outcome Unit) =>
        if activation.isCompleted then .alter (.session (.connection target)) (.done true)
        else .done false
      | .timedOut => .send (.deactivate false) (ne_commit rfl) fun _ =>
        .alter (Station.activated.moved .disarm) (.done false)
      | _ => .alter (Station.activated.moved .disarm) (.done false)

/-- Puts the tag to sleep, and selects a target again unless that was refused. -/
def sleepAndSelect (target : Connection) : Procedure Bool :=
  call .deactivated (.deactivate true) (ne_commit rfl) fun (outcome : Outcome Unit) =>
    match outcome with
    | .rejected _ => .done false
    | _ => reselect target

/-- Leaves a connection under the same protocol as it is unless a restart is wanted. -/
def selectAgain (target : Connection) (restart : Bool) : Procedure Bool :=
  .look (·.session.connection) fun current =>
    if !restart && current.any (fun connection => connection.protocol == target.protocol) then .done true
    else sleepAndSelect target

def reconnect (target : Connection) (restart : Bool) (next : Bool → Procedure α) : Procedure α :=
  onTag next false (selectAgain target restart)

/-- Sends a frame and waits for the answer. -/
def exchange (frame : Bytes) (next : Status × Bytes → Procedure α) : Procedure α :=
  .alter (Station.transceive.moved .arm) <| .elapse <| .alter (.session .clearReceived) <| .elapse <|
    .ask (.sendFrame frame) (ne_commit rfl) fun verdict =>
      if verdict.isOk then .wait .transceive fun (outcome : Outcome Status) =>
        .look (·.session.received) fun response =>
          .alter (.session .clearReceived) (next (outcome.status, response))
      else .alter (Station.transceive.moved .disarm) (next (verdict, []))

/-- A last refusal of a frame leads to a new selection. -/
def concede (handle : UInt8) (last : Status × Bytes) : Procedure (Status × Bytes) :=
  if Tag.isRefusal last.2 then
    reconnect ⟨handle, Protocol.mifare, .mifareClassic⟩ true fun _ => .done last
  else .done last

/-- Looks after a tag that refused a frame. -/
def recover (handle : UInt8) (frame : Bytes) (first : Status × Bytes) : Procedure (Status × Bytes) :=
  if Tag.isRefusal first.2 then
    if Tag.isAuthentication frame then concede handle first else exchange frame (concede handle)
  else .done first

/-- Looks after the answer of the tag that is connected. -/
def lookAfter (connection : Option Connection) (frame : Bytes) (first : Status × Bytes) :
    Procedure (Status × Bytes) :=
  match connection with
  | some target =>
    if target.protocol = Protocol.mifare then recover target.handle frame first else .done first
  | none => .done first

/-- Exchanges a frame with the connected tag. -/
def transceive (frame buffer : Bytes) (next : Status × Bytes → Procedure α) : Procedure α :=
  ifReady
    (.alter (.session (.inTransceive true)) <|
      .holding Host.exchangeBound
        (.look (·.session.connection) fun connection => exchange frame (lookAfter connection frame))
        fun answer => .alter (.session (.inTransceive false)) (next answer))
    (next (.busy, buffer))

def probe : Procedure Bool :=
  .look (·.config.presenceOption) fun option =>
    call .presence (.presenceCheck option) (ne_commit rfl) fun (outcome : Outcome Status) =>
      match outcome with
      | .completed status => .done status.isOk
      | .rejected _ => .look (·.session.present) .done
      | _ => .done false

def checkPresence (next : Bool → Procedure α) : Procedure α :=
  ifReady
    (.look id fun host =>
      if host.session.inTransceive || host.usesField then next true
      else .holding Host.waitBound probe fun present =>
        .alter (.session (.present present)) (next present))
    (next false)

def recordCheck (check : NdefCheck) : Procedure (Option NdefCheck) :=
  .alter (.session (.check check)) (.done (some check))

def checkNdef (next : Option NdefCheck → Procedure α) : Procedure α :=
  onTag next none <| .alter .settled <|
    call .check .detectNdef (ne_commit rfl) fun (outcome : Outcome NdefCheck) =>
      match outcome with
      | .completed check => recordCheck check
      | .rejected _ => .done none
      | _ => recordCheck .timedOut

def readNdef (next : Option Bytes → Procedure α) : Procedure α :=
  onTag next none <| .alter (.session .clearMessage) <| .elapse <|
    .look (·.session.lastCheck) fun lastCheck =>
    if lastCheck.any NdefCheck.hasMessage then
      call .read .readNdef (ne_commit rfl) fun (outcome : Outcome Status) =>
        match outcome with
        | .completed .ok => .elapse <| .look (·.session.message) fun message =>
          .alter (.session .clearMessage) (.done (if message.isEmpty then none else some message))
        | _ => .alter (.session .clearMessage) (.done none)
    else .done none

/-- A request that completed with `ok` is confirmed. -/
def verdictOf (outcome : Outcome Status) : Procedure Bool :=
  match outcome with
  | .completed status => .done status.isOk
  | _ => .done false

def format (next : Bool → Procedure α) : Procedure α :=
  onTag next false (call .format .format (ne_commit rfl) verdictOf)

/-- Writes a message to a tag that is prepared for it. -/
def writePrepared (message : Bytes) (prepared : Bool) : Procedure Bool :=
  if prepared then
    call .write (.writeNdef (if message.isEmpty then Tag.emptyMessage else message)) (ne_commit rfl) verdictOf
  else .done false

def writeNdef (message : Bytes) (next : Bool → Procedure α) : Procedure α :=
  onTag next false <| .look (·.session.lastCheck) fun lastCheck =>
    if lastCheck = some .formatable then format (writePrepared message) else writePrepared message true

def makeReadOnly (next : Bool → Procedure α) : Procedure α :=
  onTag next false <| call .lock (.lock true) (ne_commit rfl) fun (outcome : Outcome Status) =>
    match outcome with
    | .rejected .rejected => call .lock (.lock false) (ne_commit rfl) verdictOf
    | .completed status => .done status.isOk
    | _ => .done false

lemma run_connect (target : Connection) (next : Status → Procedure α) :
    (connect target next).run = (do (next (← Tag.connect target)).run : Op σ α) := by
  refine onTag_runs next .busy (call_runs fun outcome => ?_)
  cases outcome with
  | completed status => cases status <;> rfl
  | _ => rfl

lemma run_reselect (target : Connection) : (reselect target).run = (Tag.reselect target : Op σ Bool) := by
  refine bind_congr fun _ => call_runs fun outcome => ?_
  cases outcome with
  | completed status =>
    cases status with
    | ok => exact bind_congr fun activation => branch_runs rfl rfl
    | _ => rfl
  | _ => rfl

lemma run_reconnect (target : Connection) (restart : Bool) (next : Bool → Procedure α) :
    (reconnect target restart next).run = (do (next (← Tag.reconnect target restart)).run : Op σ α) := by
  refine onTag_runs next false (bind_congr fun current => branch_runs rfl (call_runs fun outcome => ?_))
  cases outcome with
  | rejected status => rfl
  | _ => exact run_reselect target

lemma run_exchange (frame : Bytes) (next : Status × Bytes → Procedure α) :
    (exchange frame next).run = (do (next (← Tag.exchange frame)).run : Op σ α) := by
  unfold Tag.exchange
  simp only [bind_assoc]
  refine bind_congr fun _ => bind_congr fun _ => bind_congr fun _ => bind_congr fun _ =>
    bind_congr fun verdict => ?_
  by_cases hok : verdict.isOk = true
  · simp only [if_pos hok]
    rfl
  · simp only [if_neg hok]
    rfl

lemma run_concede (handle : UInt8) (last : Status × Bytes) :
    (concede handle last).run = (do
      if Tag.isRefusal last.2 then do
        let _ ← Tag.reconnect ⟨handle, Protocol.mifare, .mifareClassic⟩ true
        return last
      else return last : Op σ (Status × Bytes)) :=
  branch_runs (run_reconnect _ true _) rfl

lemma run_recover (handle : UInt8) (frame : Bytes) (first : Status × Bytes) :
    (recover handle frame first).run = (Tag.recover handle frame first : Op σ (Status × Bytes)) := by
  refine branch_runs ?_ rfl
  by_cases hauth : Tag.isAuthentication frame = true
  · simp only [if_pos hauth]
    exact run_concede handle first
  · simp only [if_neg hauth]
    rw [run_exchange]
    exact bind_congr fun last => run_concede handle last

lemma run_transceive (frame buffer : Bytes) (next : Status × Bytes → Procedure α) :
    (transceive frame buffer next).run = (do (next (← Tag.transceive frame buffer)).run : Op σ α) := by
  refine ifReady_runs _ ?_ rfl
  simp only [bind_assoc, pure_bind]
  refine bind_congr fun _ => ?_
  refine holding_runs (bind_congr fun connection => ?_) _
  rw [run_exchange]
  refine bind_congr fun first => ?_
  cases connection with
  | none => rfl
  | some target => exact branch_runs (run_recover _ _ _) rfl

lemma run_probe : probe.run = (Tag.probe : Op σ Bool) := by
  refine bind_congr fun option => call_runs fun outcome => ?_
  cases outcome <;> rfl

lemma run_checkPresence (next : Bool → Procedure α) :
    (checkPresence next).run = (do (next (← Tag.checkPresence)).run : Op σ α) := by
  refine ifReady_runs _ ?_ rfl
  simp only [bind_assoc]
  refine bind_congr fun host => ?_
  by_cases hbusy : (host.session.inTransceive || host.usesField) = true
  · simp only [if_pos hbusy]
    rfl
  · simp only [if_neg hbusy, bind_assoc]
    exact holding_runs run_probe _

lemma run_checkNdef (next : Option NdefCheck → Procedure α) :
    (checkNdef next).run = (do (next (← Tag.checkNdef)).run : Op σ α) := by
  refine onTag_runs next none (bind_congr fun _ => call_runs fun outcome => ?_)
  cases outcome <;> rfl

lemma run_readNdef (next : Option Bytes → Procedure α) :
    (readNdef next).run = (do (next (← Tag.readNdef)).run : Op σ α) := by
  refine onTag_runs next none (bind_congr fun _ => bind_congr fun _ => bind_congr fun lastCheck =>
    branch_runs ?_ rfl)
  refine call_runs fun outcome => ?_
  cases outcome with
  | completed status => cases status <;> rfl
  | _ => rfl

lemma run_format (next : Bool → Procedure α) :
    (format next).run = (do (next (← Tag.format)).run : Op σ α) :=
  onTag_runs next false (call_runs fun outcome => by cases outcome <;> rfl)

lemma run_writePrepared (message : Bytes) (prepared : Bool) :
    (writePrepared message prepared).run = (do
      if prepared then
        Tag.confirmed Venue.write
          (.writeNdef (if message.isEmpty then Tag.emptyMessage else message))
      else return false : Op σ Bool) :=
  branch_runs (call_runs fun outcome => by cases outcome <;> rfl) rfl

lemma run_writeNdef (message : Bytes) (next : Bool → Procedure α) :
    (writeNdef message next).run = (do (next (← Tag.writeNdef message)).run : Op σ α) := by
  refine onTag_runs next false (bind_congr fun lastCheck => ?_)
  by_cases hformat : lastCheck = some .formatable
  · simp only [if_pos hformat]
    rw [run_format]
    exact bind_congr fun prepared => run_writePrepared message prepared
  · simp only [if_neg hformat]
    exact run_writePrepared message true

lemma run_makeReadOnly (next : Bool → Procedure α) :
    (makeReadOnly next).run = (do (next (← Tag.makeReadOnly)).run : Op σ α) := by
  refine onTag_runs next false (call_runs fun outcome => ?_)
  cases outcome with
  | rejected status =>
    cases status with
    | rejected => exact call_runs fun outcome => by cases outcome <;> rfl
    | _ => rfl
  | _ => rfl

end Operations

section Marks

variable {env : Environment σ}

/-- No connection was recorded. -/
def Silent (marks : List (Mark σ)) : Prop := ∀ target, .connected target ∉ marks

lemma silent_nil : Silent ([] : List (Mark σ)) := fun _ => List.not_mem_nil

lemma silent_append {first rest : List (Mark σ)} :
    Silent (first ++ rest) ↔ Silent first ∧ Silent rest := by
  refine ⟨fun h => ⟨fun target hmem => h target (List.mem_append_left _ hmem),
    fun target hmem => h target (List.mem_append_right _ hmem)⟩, ?_⟩
  rintro ⟨hfirst, hrest⟩ target hmem
  exact (List.mem_append.mp hmem).elim (hfirst target) (hrest target)

lemma silent_waited {w : Wait σ} {marks : List (Mark σ)} (h : Silent marks) :
    Silent (.waited w :: marks) := by
  intro target hmem
  rcases List.mem_cons.mp hmem with hwait | hrest
  · exact absurd hwait nofun
  · exact h target hrest

lemma sparesConnection_of_silent {change : Change} (h : Silent (marksOf change : List (Mark σ))) :
    SparesConnection (.change change) := by
  cases change with
  | session change =>
    cases change with
    | connection target => exact absurd (List.mem_singleton_self _) (h target)
    | _ => trivial
  | _ => trivial

/-- Where a procedure goes through no recording, nothing that was done records a connection. -/
lemma logged_spares (ho : Orderly SparesConnection env) (p : Procedure α) (s : System σ)
    (h : Silent (p.account env s).2) :
    Evolves env.controller SparesConnection s (p.logged.run env s).2 := by
  have hwaits : AllowsWaits SparesConnection := fun _ _ => trivial
  induction p generalizing s with
  | done result => exact .refl s
  | look f next ih => exact ih _ s h
  | alter change next ih =>
    obtain ⟨hchange, hrest⟩ := silent_append.mp h
    exact .trans (.change change (sparesConnection_of_silent hchange)) (ih _ hrest)
  | elapse next ih => exact (ho.meantime s).trans (ih _ h)
  | ask request hr next ih =>
    have hkept : SparesConnection (.request request) := trivial
    have hissue := along_issue ho.composes hkept hr s
    exact hissue.trans (ih _ _ h)
  | send request hr next ih =>
    have hkept : SparesConnection (.request request) := trivial
    exact (keepsTo_send ho hkept hr s).trans (ih _ _ h)
  | wait station next ih =>
    have hawait := keepsTo_await ho hwaits station.onlyHolds s
    exact hawait.trans (ih _ _ fun target hmem => h target (List.mem_cons_of_mem _ hmem))
  | holding bound inner next ihInner ih =>
    obtain ⟨hinner, hrest⟩ := silent_append.mp h
    have hheld := holdingField_evolves_if ho (fun _ => trivial)
      (φ := fun (result : _ × List (Mark σ)) => Silent result.2) bound ihInner s hinner
    exact hheld.trans (ih _ _ hrest)

/-- The waits that a procedure goes through. -/
def waits (p : Procedure α) (env : Environment σ) (s : System σ) : List (Wait σ) :=
  (p.account env s).2.filterMap fun mark => match mark with
    | .waited w => some w
    | .connected _ => none

lemma mem_waits {p : Procedure α} {s : System σ} {w : Wait σ} :
    w ∈ p.waits env s ↔ .waited w ∈ (p.account env s).2 := by
  refine List.mem_filterMap.trans ⟨fun ⟨mark, hmark, hwait⟩ => ?_, fun h => ⟨_, h, rfl⟩⟩
  cases mark with
  | waited other => exact Option.some.inj hwait ▸ hmark
  | connected target => exact absurd hwait nofun

lemma not_waited {p : Procedure α} {s : System σ} (h : p.waits env s = []) (w : Wait σ) :
    .waited w ∉ (p.account env s).2 := by
  intro hmark
  have hwait := mem_waits.mpr hmark
  rw [h] at hwait
  exact absurd hwait List.not_mem_nil

end Marks

end Procedure

/-- The operations of the session that wait for a completion. -/
def SessionCall.procedure? : SessionCall → Option (Procedure Answer)
  | .connect target => some (.connect target fun status => .done (.status status))
  | .reconnect target restart => some (.reconnect target restart fun done => .done (.verdict done))
  | .transceive frame buffer =>
    some (.transceive frame buffer fun answer => .done (.exchanged answer.1 answer.2))
  | .checkPresence => some (.checkPresence fun present => .done (.verdict present))
  | .checkNdef => some (.checkNdef fun check => .done (.check check))
  | .readNdef => some (.readNdef fun message => .done (.message message))
  | .writeNdef message => some (.writeNdef message fun done => .done (.verdict done))
  | .format => some (.format fun done => .done (.verdict done))
  | .makeReadOnly => some (.makeReadOnly fun done => .done (.verdict done))
  | _ => none

/-- The procedure of an operation runs as the operation does. -/
theorem procedure_run {call : SessionCall} {p : Procedure Answer}
    (h : SessionCall.procedure? call = some p) : p.run = (call.run : Op σ Answer) := by
  cases call with
  | connect target => exact Option.some.inj h ▸ Procedure.run_connect target _
  | reconnect target restart => exact Option.some.inj h ▸ Procedure.run_reconnect target restart _
  | transceive frame buffer => exact Option.some.inj h ▸ Procedure.run_transceive frame buffer _
  | checkPresence => exact Option.some.inj h ▸ Procedure.run_checkPresence _
  | checkNdef => exact Option.some.inj h ▸ Procedure.run_checkNdef _
  | readNdef => exact Option.some.inj h ▸ Procedure.run_readNdef _
  | writeNdef message => exact Option.some.inj h ▸ Procedure.run_writeNdef message _
  | format => exact Option.some.inj h ▸ Procedure.run_format _
  | makeReadOnly => exact Option.some.inj h ▸ Procedure.run_makeReadOnly _
  | _ => exact absurd h nofun

end NfcStack.Proofs
