import NfcStack.Call.Run
import NfcStack.Proofs.Delivery

/-!
# Evolutions

Everything callers and events do to a system, as one relation between the system before and the
system after. An act is a request, a report that nobody asked for, or one change of the host; all
operations are made of acts, of deliveries, and of brackets that hold a resource. What every run
keeps is proved by cases on this relation, once for each kind of step.
-/

namespace NfcStack.Proofs

variable {σ α β : Type}

/-- A host without any rendezvous: what is left when nobody waits. -/
def unarmed (host : Host) : Host :=
  { host with
    session :=
      { host.session with
        select := {}, activated := {}, deactivated := {}, transceive := {}, presence := {}
        read := {}, write := {}, format := {}, lock := {}, check := {} }
    router :=
      { host.router with
        register := {}, routing := {}, aid := {}, commit := {}, mode := {}, remaining := {} }
    enable := {}, disable := {}, powerSubState := {}, parameter := {}, polling := {} }

/-- A change that only arms, closes or wakes rendezvous. -/
def OnlyWaits (f : Host → Host) : Prop := ∀ host, unarmed (f host) = unarmed host

lemma OnlyWaits.flags {f : Host → Host} (h : OnlyWaits f) (host : Host) :
    (f host).flags = host.flags := by
  change (unarmed (f host)).flags = (unarmed host).flags
  rw [h]

/-- What a caller records in the tag session. -/
inductive SessionChange where
  | connection (target : Connection)
  | letGo
  | clearReceived
  | inTransceive (busy : Bool)
  | present (seen : Bool)
  | check (found : NdefCheck)
  | clearMessage
  | timeouts (table : TimeoutTable)
  | resetTimeouts
  | forget

def SessionChange.apply : SessionChange → Session → Session
  | .connection target, session => { session with connection := some target }
  | .letGo, session => { session with connection := none, timeouts := session.timeouts.reset }
  | .clearReceived, session => { session with received := [] }
  | .inTransceive busy, session => { session with inTransceive := busy }
  | .present seen, session => { session with present := seen }
  | .check found, session => { session with lastCheck := some found }
  | .clearMessage, session => { session with message := [] }
  | .timeouts table, session => { session with timeouts := table }
  | .resetTimeouts, session => { session with timeouts := session.timeouts.reset }
  | .forget, session => session.forget

/-- A host that took in an activation by hand, with a new endpoint unless the session is full. -/
def welcomed (act : Activation) (host : Host) : Host :=
  match host.session.admit? act with
  | none => host
  | some session =>
    { host with session, endpoints := host.endpoints ++ [Endpoint.ofSession session act] }

/-- What a caller changes in the host by itself. -/
inductive Change where
  | radio (on : Bool)
  | polling (on : Bool)
  | readerMode (on : Bool) (duration : UInt16)
  | discoveryDuration (duration : UInt16)
  | discoveryBegun
  | discoveryEnded
  /-- The stack is on its way down. -/
  | disabling
  /-- The stack is down. -/
  | down
  | screen (state : UInt8)
  /-- No tag is being selected again. -/
  | settled
  | fieldBound (bound : UInt64)
  | listener (next : Listener)
  | secure (on : Bool)
  | offHostTech (routed : TechMask)
  | waits (f : Host → Host) (h : OnlyWaits f)
  | session (change : SessionChange)
  | welcome (act : Activation)
  | endpoint (number : Nat) (f : Endpoint → Endpoint)

def Change.apply : Change → Host → Host
  | .radio on, host => host.mapFlags fun flags => { flags with rf := on }
  | .polling on, host => host.mapFlags fun flags => { flags with polling := on }
  | .readerMode on duration, host =>
    host.mapFlags fun flags => { flags with readerMode := on, discoveryDuration := duration }
  | .discoveryDuration duration, host =>
    host.mapFlags fun flags => { flags with discoveryDuration := duration }
  | .discoveryBegun, host =>
    host.mapFlags fun flags => { flags with discovery := true, reconnecting := false }
  | .discoveryEnded, host =>
    host.mapFlags fun flags => { flags with discovery := false, readerMode := false }
  | .disabling, host => host.mapFlags fun flags => { flags with disabling := true }
  | .down, host =>
    { host with
      flags :=
        { host.flags with
          enabled := false
          disabling := false
          discovery := false
          polling := false
          rf := false
          tagActive := false
          reconnecting := false }
      session := host.session.abort
      polling := host.polling.abort
      router := host.router.abort }
  | .screen state, host => host.mapFlags fun flags => { flags with screen := state }
  | .settled, host => host.mapFlags fun flags => { flags with reconnecting := false }
  | .fieldBound bound, host => { host with fieldBound := bound }
  | .listener next, host => { host with listener := next }
  | .secure on, host => host.mapRouter fun router => { router with secure := on }
  | .offHostTech routed, host => host.mapRouter fun router => { router with offHostTech := routed }
  | .waits f _, host => f host
  | .session change, host => host.mapSession change.apply
  | .welcome act, host => welcomed act host
  | .endpoint number f, host => host.mapEndpoint number f

/-- One thing that somebody does. -/
inductive Act where
  | request (request : Request)
  | report (event : Event)
  | change (change : Change)

def takeResource (resource : Resource) (host : Host) : Host :=
  { host with inUse := resource :: host.inUse }

def giveBack (before : List Resource) (host : Host) : Host := { host with inUse := before }

/-- A late notice selects its target if the radio field is free. -/
def takeUpNotice (c : Controller σ) (s : System σ) : System σ :=
  match s.late with
  | some notice =>
    if s.host.usesField then s else c.selectDiscovered notice.target { s with late := none }
  | none => s

/-- One system comes out of another by acts of a kind and by deliveries. Only a commit of the routing
table has a condition of its own: radio discovery does not run. -/
inductive Evolves (c : Controller σ) (P : Act → Prop) : System σ → System σ → Prop where
  | refl (s : System σ) : Evolves c P s s
  | trans {s t u : System σ} : Evolves c P s t → Evolves c P t u → Evolves c P s u
  | request {s : System σ} (request : Request) (hp : P (.request request))
      (hc : request = .commitRouting → s.host.flags.rf = false) :
      Evolves c P s (c.issue .caller request s).2
  | query {s : System σ} : Evolves c P s (c.queryNfcees .caller s).2
  | report {s : System σ} (event : Event) (hp : P (.report event)) : Evolves c P s (s.arrive event)
  | change {s : System σ} (change : Change) (hp : P (.change change)) :
      Evolves c P s (s.mapHost change.apply)
  | round {s : System σ} : Evolves c P s (c.round s)
  /-- A wait ends before the late notice is out of patience. -/
  | wear {s : System σ} (notice : LateNotice) (patience : UInt64) (h : s.late = some notice) :
      Evolves c P s { s with late := some { notice with patience } }
  /-- A late notice is out of patience. -/
  | lapse {s : System σ} (h : s.late.isSome) : Evolves c P s { s with late := none }
  | holdUp {s : System σ} : Evolves c P s { s with heldUp := true }
  /-- A resource is held while the system goes on. -/
  | occupy {s t : System σ} (resource : Resource)
      (h : Evolves c P (s.mapHost (takeResource resource)) t) :
      Evolves c P s (takeUpNotice c (t.mapHost (giveBack s.host.inUse)))

namespace Evolves

variable {c : Controller σ} {P Q : Act → Prop} {s t : System σ}

/-- Fewer kinds of acts are an evolution by more kinds. -/
lemma mono (hPQ : ∀ act, P act → Q act) (h : Evolves c P s t) : Evolves c Q s t := by
  induction h with
  | refl s => exact .refl s
  | trans _ _ ih₁ ih₂ => exact .trans ih₁ ih₂
  | request request hp hc => exact .request request (hPQ _ hp) hc
  | query => exact .query
  | report event hp => exact .report event (hPQ _ hp)
  | change change hp => exact .change change (hPQ _ hp)
  | round => exact .round
  | wear notice patience h => exact .wear notice patience h
  | lapse h => exact .lapse h
  | holdUp => exact .holdUp
  | occupy resource _ ih => exact .occupy resource ih

lemma attend (s : System σ) : Evolves c P s (c.attend s) :=
  .trans .round .round

/-- Giving a resource back, with the late notice that this may let in. -/
lemma release_after (resource : Resource)
    (h : Evolves c P (s.mapHost (takeResource resource)) t) :
    Evolves c P s (c.release (t.mapHost (giveBack s.host.inUse))) := by
  have hb : Evolves c P s (takeUpNotice c (t.mapHost (giveBack s.host.inUse))) := .occupy resource h
  unfold takeUpNotice at hb
  unfold Controller.release
  cases hl : (t.mapHost (giveBack s.host.inUse)).late with
  | none =>
    rw [hl] at hb
    exact hb
  | some notice =>
    rw [hl] at hb
    dsimp only at hb ⊢
    split
    · next hu =>
      rw [if_pos hu] at hb
      exact hb
    · next hu =>
      rw [if_neg hu] at hb
      exact .trans hb (attend _)

end Evolves

section Steps

variable {c : Controller σ} {P : Act → Prop} {R : System σ → System σ → Prop} {s t : System σ}

/-- A relation that holds along every kind of step of an evolution. -/
structure FollowsSteps (c : Controller σ) (P : Act → Prop) (R : System σ → System σ → Prop) : Prop
    extends FollowsDeliveries c R where
  request : ∀ request s, P (.request request) → (request = .commitRouting → s.host.flags.rf = false) →
    R s (c.issue .caller request s).2
  query : ∀ s, R s (c.queryNfcees .caller s).2
  change : ∀ change s, P (.change change) → R s (s.mapHost change.apply)
  inUse : ∀ resources s, R s (s.mapHost (giveBack resources))
  heldUp : ∀ s, R s { s with heldUp := true }
  late : ∀ late s, s.late.isSome → R s { s with late }
  selects : ∀ notice s, s.late = some notice →
    R s (c.selectDiscovered notice.target { s with late := none })

lemma FollowsSteps.takeUpNotice (h : FollowsSteps c P R) (s : System σ) : R s (takeUpNotice c s) := by
  unfold NfcStack.Proofs.takeUpNotice
  split
  · next notice hl =>
    split
    · exact h.refl s
    · exact h.selects notice s hl
  · exact h.refl s

/-- What holds along every kind of step holds along every evolution. -/
theorem FollowsSteps.evolves (h : FollowsSteps c P R) (he : Evolves c P s t) : R s t := by
  induction he with
  | refl s => exact h.refl s
  | trans _ _ ih₁ ih₂ => exact h.trans ih₁ ih₂
  | request request hp hc => exact h.request request _ hp hc
  | query => exact h.query _
  | @report s event _ =>
    unfold System.arrive
    split
    · exact h.refl s
    · exact h.queue s _
  | change change hp => exact h.change change _ hp
  | round => exact h.round _
  | wear notice patience hl => exact h.late _ _ (by rw [hl]; rfl)
  | lapse hl => exact h.late _ _ hl
  | holdUp => exact h.heldUp _
  | @occupy s t resource _ ih =>
    have htake : R s (s.mapHost (takeResource resource)) := h.inUse (resource :: s.host.inUse) s
    exact h.trans (h.trans htake ih) (h.trans (h.inUse s.host.inUse t) (h.takeUpNotice _))

lemma FollowsSteps.release (h : FollowsSteps c P R) (s : System σ) : R s (c.release s) :=
  h.toFollowsDeliveries.release h.selects s

end Steps

/-- Whoever else acts does so by acts of a kind. -/
structure Orderly (P : Act → Prop) (env : Environment σ) : Prop where
  meantime : ∀ s, Evolves env.controller P s (env.meantime s)
  /-- What comes in unasked does not start or stop radio discovery. -/
  radio : ∀ s, (env.meantime s).host.flags.rf = s.host.flags.rf
  interlude : ∀ request s, Evolves env.controller P s (env.interlude request s)
  goOn : ∀ s, Evolves env.controller P s (env.goOn s)

lemma orderly_alone (P : Act → Prop) (c : Controller σ) : Orderly P c.alone :=
  ⟨fun s => .refl s, fun _ => rfl, fun _ s => .refl s, fun s => .refl s⟩

/-- Whatever an operation does in an environment is an evolution by acts of a kind. -/
def KeepsTo (P : Act → Prop) (env : Environment σ) (op : Op σ α) : Prop :=
  ∀ s, Evolves env.controller P s (op.run env s).2

/-- The acts of arming, closing and waking rendezvous. -/
def AllowsWaits (P : Act → Prop) : Prop := ∀ f (h : OnlyWaits f), P (.change (.waits f h))

/-- The acts of setting the bound of field waits. -/
def AllowsBounds (P : Act → Prop) : Prop := ∀ bound, P (.change (.fieldBound bound))

/-- A venue that keeps nothing but its rendezvous. -/
def OnlyHolds (venue : Venue α) : Prop := ∀ f, OnlyWaits (venue.map f)

section Acts

variable {P : Act → Prop} {env : Environment σ}

lemma keepsTo_pure (a : α) : KeepsTo P env (pure a : Op σ α) := fun s => .refl s

lemma keepsTo_bind {op : Op σ α} {next : α → Op σ β} (h : KeepsTo P env op)
    (hn : ∀ a, KeepsTo P env (next a)) : KeepsTo P env (op >>= next) := by
  intro s
  rw [Op.run_bind]
  exact .trans (h s) (hn _ _)

lemma keepsTo_map {op : Op σ α} (f : α → β) (h : KeepsTo P env op) : KeepsTo P env (f <$> op) :=
  fun s => h s

lemma keepsTo_host : KeepsTo P env (Op.host : Op σ Host) := fun s => .refl s

lemma keepsTo_read (f : Host → α) : KeepsTo P env (Op.read f : Op σ α) := fun s => .refl s

lemma keepsTo_version : KeepsTo P env (Op.version : Op σ UInt8) := fun s => .refl s

lemma keepsTo_tableSize : KeepsTo P env (Op.tableSize : Op σ UInt16) := fun s => .refl s

lemma keepsTo_change (change : Change) (hp : P (.change change)) :
    KeepsTo P env (Op.update change.apply : Op σ Unit) :=
  fun _ => .change change hp

lemma keepsTo_attend : KeepsTo P env (Op.attend : Op σ Unit) := fun s => Evolves.attend s

lemma keepsTo_waits (hw : AllowsWaits P) {f : Host → Host} (h : OnlyWaits f) :
    KeepsTo P env (Op.update f : Op σ Unit) :=
  fun s => Evolves.change (s := s) (.waits f h) (hw f h)

end Acts

section Relations

/-- A relation that holds along acts of a kind and along whatever others do, and along an operation that
has a resource as it does along the operation itself. -/
structure Composes (P : Act → Prop) (env : Environment σ) (R : System σ → System σ → Prop) : Prop where
  evolves : ∀ {s t}, Evolves env.controller P s t → R s t
  trans : ∀ {s t u}, R s t → R t u → R s u
  occupy : ∀ {s t} (resource : Resource), R (s.mapHost (takeResource resource)) t →
    R s (env.controller.release (t.mapHost (giveBack s.host.inUse)))
  meantime : ∀ s, R s (env.meantime s)
  radio : ∀ s, (env.meantime s).host.flags.rf = s.host.flags.rf
  interlude : ∀ request s, R s (env.interlude request s)
  goOn : ∀ s, R s (env.goOn s)

/-- A relation holds between the systems before and after an operation. -/
def Along (R : System σ → System σ → Prop) (env : Environment σ) (op : Op σ α) : Prop :=
  ∀ s, R s (op.run env s).2

lemma Orderly.composes {P : Act → Prop} {env : Environment σ} (ho : Orderly P env) :
    Composes P env (Evolves env.controller P) where
  evolves := id
  trans := .trans
  occupy resource h := h.release_after resource
  meantime := ho.meantime
  radio := ho.radio
  interlude := ho.interlude
  goOn := ho.goOn

variable {P : Act → Prop} {env : Environment σ} {R : System σ → System σ → Prop}
  (hR : Composes P env R)

include hR

lemma KeepsTo.along {op : Op σ α} (h : KeepsTo P env op) : Along R env op := fun s => hR.evolves (h s)

lemma along_pure (a : α) : Along R env (pure a : Op σ α) := (keepsTo_pure a).along hR

lemma along_host : Along R env (Op.host : Op σ Host) := keepsTo_host.along hR

lemma along_read (f : Host → α) : Along R env (Op.read f : Op σ α) := (keepsTo_read f).along hR

lemma along_version : Along R env (Op.version : Op σ UInt8) := keepsTo_version.along hR

lemma along_tableSize : Along R env (Op.tableSize : Op σ UInt16) := keepsTo_tableSize.along hR

lemma along_change (change : Change) (hp : P (.change change)) :
    Along R env (Op.update change.apply : Op σ Unit) :=
  (keepsTo_change change hp).along hR

lemma along_attend : Along R env (Op.attend : Op σ Unit) := keepsTo_attend.along hR

lemma along_bind {op : Op σ α} {next : α → Op σ β} (h : Along R env op)
    (hn : ∀ a, Along R env (next a)) : Along R env (op >>= next) := by
  intro s
  rw [Op.run_bind]
  exact hR.trans (h s) (hn _ _)

omit hR in
lemma along_map {op : Op σ α} (f : α → β) (h : Along R env op) : Along R env (f <$> op) :=
  fun s => h s

lemma along_queryNfcees :
    Along R env (Op.queryNfcees : Op σ (Except Status (List NfceeInfo))) :=
  fun _ => hR.trans (hR.evolves .query) (hR.interlude _ _)

lemma along_elapse : Along R env (Op.elapse : Op σ Unit) := hR.meantime

lemma along_issue {request : Request} (hp : P (.request request)) (hc : request ≠ .commitRouting) :
    Along R env (Op.issue request : Op σ Status) :=
  fun _ => hR.trans (hR.evolves (.request request hp fun h => absurd h hc)) (hR.interlude _ _)

lemma along_send {request : Request} (hp : P (.request request)) (hc : request ≠ .commitRouting) :
    Along R env (Op.send request : Op σ Status) :=
  along_bind hR (along_issue hR hp hc) fun _ =>
    along_bind hR (along_attend hR) fun _ => along_pure hR _

lemma along_pass : Along R env (Op.pass : Op σ Unit) := by
  intro s
  show R s (Op.pass env s).2
  unfold Op.pass
  cases hl : s.late with
  | none => exact hR.evolves (.attend s)
  | some notice =>
    dsimp only
    split
    · exact hR.evolves (.wear notice _ hl)
    · have hlapse : Evolves env.controller P s { s with late := none } := .lapse (by rw [hl]; rfl)
      exact hR.trans (hR.evolves (.trans hlapse (.attend _))) (hR.goOn _)

lemma along_waits (hw : AllowsWaits P) {f : Host → Host} (h : OnlyWaits f) :
    Along R env (Op.update f : Op σ Unit) := (keepsTo_waits hw h).along hR

lemma along_await (hw : AllowsWaits P) {venue : Venue α} (hv : OnlyHolds venue) :
    Along R env (Op.await venue : Op σ (Outcome α)) :=
  along_bind hR (along_pass hR) fun _ =>
    along_bind hR (along_read hR _) fun _ =>
      along_bind hR (along_waits hR hw (hv _)) fun _ => along_pure hR _

/-- The request of a call is made in the system in which the call begins, but for the armed venue. -/
lemma along_call_at (hw : AllowsWaits P) {venue : Venue α} (hv : OnlyHolds venue)
    {request : Request} (hp : P (.request request)) (s : System σ)
    (hc : request = .commitRouting → s.host.flags.rf = false) :
    R s ((Op.call venue request).run env s).2 := by
  have hflags : (venue.map .arm s.host).flags = s.host.flags := (hv .arm).flags s.host
  have harm : R s (env.meantime (s.mapHost (venue.map .arm))) :=
    hR.trans (along_waits hR hw (hv .arm) s) (hR.meantime _)
  have hissue : R (env.meantime (s.mapHost (venue.map .arm)))
      ((Op.issue request).run env (env.meantime (s.mapHost (venue.map .arm)))).2 := by
    refine hR.trans (hR.evolves (.request request hp fun h => ?_)) (hR.interlude _ _)
    rw [hR.radio, System.mapHost_host, hflags]
    exact hc h
  have hrest (verdict : Status) : Along R env (if verdict.isOk then Op.await venue
      else do
        Op.update (venue.map .disarm)
        return .rejected verdict : Op σ (Outcome α)) := by
    split
    · exact along_await hR hw hv
    · exact along_bind hR (along_waits hR hw (hv _)) fun _ => along_pure hR _
  exact hR.trans harm (hR.trans hissue (hrest _ _))

lemma along_call (hw : AllowsWaits P) {venue : Venue α} (hv : OnlyHolds venue) {request : Request}
    (hp : P (.request request)) (hc : request ≠ .commitRouting) :
    Along R env (Op.call venue request : Op σ (Outcome α)) :=
  fun s => along_call_at hR hw hv hp s fun h => absurd h hc

lemma along_callForever (hw : AllowsWaits P) {venue : Venue α} (hv : OnlyHolds venue)
    {request : Request} (hp : P (.request request)) (hc : request ≠ .commitRouting) :
    Along R env (Op.callForever venue request : Op σ (Outcome α)) := by
  unfold Op.callForever Op.awaitForever
  refine along_bind hR (along_waits hR hw (hv _)) fun _ => ?_
  refine along_bind hR (along_elapse hR) fun _ => ?_
  refine along_bind hR (along_issue hR hp hc) fun verdict => ?_
  split
  · refine along_bind hR (along_attend hR) fun _ => ?_
    refine along_bind hR (along_read hR _) fun _ => ?_
    exact along_bind hR (along_waits hR hw (hv _)) fun _ => along_pure hR _
  · exact along_bind hR (along_waits hR hw (hv _)) fun _ => along_pure hR _

lemma along_whenReady (otherwise : α) {op : Op σ α} (h : Along R env op) :
    Along R env (Tag.whenReady otherwise op) := by
  refine along_bind hR (along_read hR _) fun ready => ?_
  split
  · exact h
  · exact along_pure hR _

lemma along_reserving (resource : Resource) {op : Op σ α} (h : Along R env op) :
    Along R env (Op.reserving resource op) := by
  unfold Op.reserving
  refine along_bind hR (fun s => hR.evolves (.refl s)) fun taken => ?_
  split
  · exact along_bind hR (fun _ => hR.evolves .holdUp) fun _ => h
  · refine along_bind hR (along_read hR _) fun inUse => ?_
    split
    · exact h
    · exact fun s => hR.trans (hR.goOn s) (hR.occupy resource (h _))

lemma along_holdingField (hb : AllowsBounds P) (bound : Host → UInt64) {op : Op σ α}
    (h : Along R env op) : Along R env (Op.holdingField bound op) := by
  refine along_reserving hR .field ?_
  refine along_bind hR (along_read hR _) fun outer => ?_
  have hbound (s : System σ) (bound : UInt64) :
      R s (s.mapHost (Change.apply (.fieldBound bound))) := hR.evolves (.change _ (hb bound))
  refine along_bind hR (fun s => hbound s (bound s.host)) fun _ => ?_
  refine along_bind hR h fun result => ?_
  exact along_bind hR (fun s => hbound s outer) fun _ => along_pure hR _

end Relations

section Waits

variable {P : Act → Prop} {env : Environment σ} (ho : Orderly P env)

include ho

lemma keepsTo_send {request : Request} (hp : P (.request request))
    (hc : request ≠ .commitRouting) : KeepsTo P env (Op.send request : Op σ Status) :=
  along_send ho.composes hp hc

lemma keepsTo_await (hw : AllowsWaits P) {venue : Venue α} (hv : OnlyHolds venue) :
    KeepsTo P env (Op.await venue : Op σ (Outcome α)) :=
  along_await ho.composes hw hv

lemma keepsTo_call (hw : AllowsWaits P) {venue : Venue α} (hv : OnlyHolds venue)
    {request : Request} (hp : P (.request request)) (hc : request ≠ .commitRouting) :
    KeepsTo P env (Op.call venue request : Op σ (Outcome α)) :=
  along_call ho.composes hw hv hp hc

lemma keepsTo_reserving (resource : Resource) {op : Op σ α} (h : KeepsTo P env op) :
    KeepsTo P env (Op.reserving resource op) :=
  along_reserving ho.composes resource h

end Waits

end NfcStack.Proofs
