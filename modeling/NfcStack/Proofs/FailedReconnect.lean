import NfcStack.Bench.Sample
import NfcStack.Bench.Script
import NfcStack.Proofs.Selections
import NfcStack.Proofs.TagHold

/-!
# Reconnections that fail

A tag is selected again by putting it to sleep and selecting it anew. Where that fails nothing is recorded
and nothing is forgotten: the session goes on to count as connected, to a tag that may be asleep, unless
the controller reported meanwhile that the field is empty. The next reconnection under the same protocol
then succeeds without a request.
-/

namespace NfcStack.Proofs

variable {σ α : Type} {c : Controller σ} {P : Act → Prop} {s : System σ}

section Results

/-- An operation that has a resource evolves, given its result, as it does by itself. -/
lemma reserving_evolves_if {env : Environment σ} (ho : Orderly P env) {φ : α → Prop} {op : Op σ α}
    (resource : Resource)
    (h : ∀ s, φ (op.run env s).1 → Evolves env.controller P s (op.run env s).2) (s : System σ)
    (ha : φ ((Op.reserving resource op).run env s).1) :
    Evolves env.controller P s ((Op.reserving resource op).run env s).2 := by
  unfold Op.reserving at ha ⊢
  rw [Op.run_bind, Op.run_isTaken] at ha ⊢
  dsimp only at ha ⊢
  by_cases htaken : env.taken.contains resource = true
  · rw [if_pos htaken] at ha ⊢
    exact .trans .holdUp (h _ ha)
  · rw [if_neg htaken, Op.run_bind, Op.run_read] at ha ⊢
    dsimp only at ha ⊢
    by_cases hused : s.host.inUse.contains resource = true
    · rw [if_pos hused] at ha ⊢
      exact h s ha
    · rw [if_neg hused] at ha ⊢
      exact (ho.goOn s).trans ((h _ ha).release_after resource)

lemma holdingField_evolves_if {env : Environment σ} (ho : Orderly P env) (hb : AllowsBounds P)
    {φ : α → Prop} {op : Op σ α} (bound : Host → UInt64)
    (h : ∀ s, φ (op.run env s).1 → Evolves env.controller P s (op.run env s).2) (s : System σ)
    (ha : φ ((Op.holdingField bound op).run env s).1) :
    Evolves env.controller P s ((Op.holdingField bound op).run env s).2 := by
  refine reserving_evolves_if ho .field (fun s ha => ?_) s ha
  have hbegun : Evolves env.controller P s (s.mapHost (Change.apply (.fieldBound (bound s.host)))) :=
    .change _ (hb _)
  have hended (t : System σ) :
      Evolves env.controller P t (t.mapHost (Change.apply (.fieldBound s.host.fieldBound))) :=
    .change _ (hb _)
  exact (hbegun.trans (h _ ha)).trans (hended _)

/-- Putting the tag to sleep, and selecting a target again unless that was refused. -/
def sleepAndSelect (target : Connection) : Op σ Bool := do
  match ← Op.call Venue.deactivated (.deactivate true) with
  | .rejected _ => return false
  | _ => Tag.reselect target

/-- Acts of selecting a tag that record no selection. -/
def Fruitless (act : Act) : Prop := Selecting act ∧ SparesConnection act

lemma fruitless_waits : AllowsWaits Fruitless := fun _ _ => ⟨trivial, trivial⟩

lemma reselect_fruitless (target : Connection) (s : System σ)
    (hfailed : ((Tag.reselect target).run c.alone s).1 = false) :
    Evolves c Fruitless s ((Tag.reselect target).run c.alone s).2 := by
  have ho : Orderly Fruitless c.alone := orderly_alone _ c
  have hwaits (f : Rendezvous Unit → Rendezvous Unit) :
      KeepsTo Fruitless c.alone (Op.update (Venue.activated.map f) : Op σ Unit) :=
    keepsTo_waits fruitless_waits fun _ => rfl
  have hcall : KeepsTo Fruitless c.alone
      (Op.call Venue.select (Tag.selectRequest target) : Op σ (Outcome Status)) :=
    keepsTo_call ho fruitless_waits (fun _ _ => rfl) ⟨trivial, trivial⟩ nofun
  have hundo : KeepsTo Fruitless c.alone (Op.send (.deactivate false) : Op σ Status) :=
    keepsTo_send ho ⟨trivial, trivial⟩ nofun
  unfold Tag.reselect at hfailed ⊢
  rw [Op.run_bind] at hfailed ⊢
  refine (hwaits .arm s).trans ?_
  generalize ((Op.update (Venue.activated.map .arm) : Op σ Unit).run c.alone s).2 = armed at hfailed ⊢
  rw [Op.run_bind] at hfailed ⊢
  refine (hcall armed).trans ?_
  generalize (Op.call Venue.select (Tag.selectRequest target)).run c.alone armed = called at hfailed ⊢
  obtain ⟨outcome, after⟩ := called
  have hgiveUp : KeepsTo Fruitless c.alone (do
      Op.update (Venue.activated.map .disarm)
      return false : Op σ Bool) := keepsTo_bind (hwaits _) fun _ => keepsTo_pure _
  cases outcome with
  | completed status =>
    cases status with
    | ok =>
      have hawait : KeepsTo Fruitless c.alone (Op.await Venue.activated : Op σ (Outcome Unit)) :=
        keepsTo_await ho fruitless_waits fun _ _ => rfl
      dsimp only at hfailed ⊢
      rw [Op.run_bind] at hfailed ⊢
      refine (hawait after).trans ?_
      -- Only a tag that is active again is recorded, and then the selection does not fail.
      split at hfailed
      · exact absurd hfailed nofun
      · next hinactive =>
        rw [if_neg hinactive]
        exact .refl _
    | _ => exact hgiveUp after
  | timedOut => exact keepsTo_bind hundo (fun _ => hgiveUp) after
  | _ => exact hgiveUp after

lemma sleepAndSelect_fruitless (target : Connection) (s : System σ)
    (hfailed : ((sleepAndSelect target).run c.alone s).1 = false) :
    Evolves c Fruitless s ((sleepAndSelect target).run c.alone s).2 := by
  have hsleep : KeepsTo Fruitless c.alone
      (Op.call Venue.deactivated (.deactivate true) : Op σ (Outcome Unit)) :=
    keepsTo_call (orderly_alone _ c) fruitless_waits (fun _ _ => rfl) ⟨trivial, trivial⟩ nofun
  unfold sleepAndSelect at hfailed ⊢
  rw [Op.run_bind] at hfailed ⊢
  refine (hsleep s).trans ?_
  generalize (Op.call Venue.deactivated (.deactivate true)).run c.alone s = slept at hfailed ⊢
  obtain ⟨outcome, asleep⟩ := slept
  cases outcome with
  | rejected status => exact .refl _
  | _ => exact reselect_fruitless target asleep hfailed

lemma tag_reconnect_fruitless (target : Connection) (restart : Bool) (s : System σ)
    (hfailed : ((Tag.reconnect target restart).run c.alone s).1 = false) :
    Evolves c Fruitless s ((Tag.reconnect target restart).run c.alone s).2 := by
  unfold Tag.reconnect at hfailed ⊢
  rw [whenReady_run] at hfailed ⊢
  split at hfailed
  · next hready =>
    rw [if_pos hready]
    have hbounds : AllowsBounds Fruitless := fun _ => ⟨trivial, trivial⟩
    refine holdingField_evolves_if (orderly_alone _ c) hbounds (φ := (· = false)) _
      (fun s hfailed => ?_) s hfailed
    rw [Op.run_bind, Op.run_read] at hfailed ⊢
    dsimp only at hfailed ⊢
    split at hfailed
    · exact absurd hfailed nofun
    · next hasks =>
      rw [if_neg hasks]
      exact sleepAndSelect_fruitless target s hfailed
  · next hunready =>
    rw [if_neg hunready]
    exact .refl s

lemma fruitless_accounts : Accounts Fruitless Eq := by
  refine accounts_eq fun change hp host => ?_
  obtain ⟨hselecting, hspares⟩ := hp
  cases change with
  | waits f hf => exact hf.hold host
  | fieldBound bound => rfl
  | session change =>
    cases change with
    | connection target => exact hspares.elim
    | _ => exact hselecting.elim
  | _ => exact hselecting.elim

end Results

section Silence

lemma Evolves.asks (h : Evolves c P s t) : ∃ requests, Asks s t requests := by
  obtain ⟨new, htrace⟩ := h.covers
  exact ⟨_, new, htrace.symm, rfl⟩

/-- A reconnection under another protocol begins with the request to put the tag to sleep. -/
lemma sleepAndSelect_asks (target : Connection) (s : System σ) :
    ∃ requests, Asks s ((sleepAndSelect target).run c.alone s).2 (.deactivate true :: requests) := by
  have hasleep := call_asks c Venue.deactivated (.deactivate true) s
  unfold sleepAndSelect
  rw [Op.run_bind]
  generalize (Op.call Venue.deactivated (.deactivate true)).run c.alone s = slept at hasleep ⊢
  obtain ⟨outcome, asleep⟩ := slept
  have hreselect : KeepsTo (fun _ => True) c.alone (Tag.reselect target : Op σ Bool) :=
    reselect_keepsTo (orderly_alone _ c) (fun _ _ => trivial) target
  cases outcome with
  | rejected status => exact ⟨[], hasleep⟩
  | _ =>
    obtain ⟨requests, hrest⟩ := (hreselect asleep).asks
    exact ⟨requests, hasleep.trans hrest⟩

lemma tag_reconnect_alone (target : Connection) (restart : Bool) (s : System σ) :
    (Tag.reconnect target restart).run c.alone s =
      if s.host.flags.tagReady then
        (Op.holdingField Host.waitBound
          (if !restart && connectedUnder target.protocol s.host.session then return true
            else sleepAndSelect target)).run c.alone s
      else (false, s) := by
  unfold Tag.reconnect
  rw [whenReady_run]
  congr 1
  rw [holdingField_alone, holdingField_alone, Op.run_bind, Op.run_read, ← entered_session Host.waitBound s]
  rfl

/-- A reconnection succeeds without a request exactly if there is a tag and the session counts as
connected under the protocol. -/
lemma tag_reconnect_silent_iff (target : Connection) (s : System σ) :
    let again := (Tag.reconnect target false).run c.alone s
    again.1 = true ∧ callerRequests (again.2.trace.drop s.trace.length) = [] ↔
      s.host.flags.tagReady = true ∧ connectedUnder target.protocol s.host.session = true := by
  intro again
  have hagain : again = _ := tag_reconnect_alone target false s
  rw [hagain, Bool.not_false, Bool.true_and]
  by_cases hready : s.host.flags.tagReady = true
  · rw [if_pos hready]
    by_cases hunder : connectedUnder target.protocol s.host.session = true
    · rw [if_pos hunder]
      have hsilent := holdingField_asks c Host.waitBound (return true : Op σ Bool) (s := s)
        (asks_of_trace_eq rfl)
      exact ⟨fun _ => ⟨hready, hunder⟩, fun _ => ⟨by rw [holdingField_alone]; rfl, hsilent.made⟩⟩
    · rw [if_neg hunder]
      obtain ⟨requests, hbody⟩ := sleepAndSelect_asks (c := c) target (entered Host.waitBound s)
      have hasks := holdingField_asks c Host.waitBound _ hbody
      rw [hasks.made]
      exact ⟨fun h => absurd h.2 nofun, fun h => absurd h.2 hunder⟩
  · rw [if_neg hready]
    exact ⟨fun h => absurd h.1 nofun, fun h => absurd h.1 hready⟩

end Silence

/-- A reconnection that fails records nothing and forgets nothing by itself: afterwards the session is
connected to the target that the host selected by itself since the field was last reported empty, if there
is one, and otherwise as it was before unless the field was reported empty. The next reconnection then
succeeds without a request exactly if there is a tag and that connection is under its protocol. -/
theorem failed_reconnect_keeps_connection (c : Controller σ) {s : System σ} (hs : s.receiver ≠ .session)
    (target : Connection) (restart : Bool) :
    let failed := (Tag.reconnect target restart).run c.alone s
    let since := failed.2.trace.drop s.trace.length
    failed.1 = false →
      failed.2.host.session.connection =
          ((sinceLast reportsEmpty since).filterMap picksDiscovered).getLast?.or
            (if since.any reportsEmpty then none else s.host.session.connection) ∧
        ∀ next : Connection,
          let again := (Tag.reconnect next false).run c.alone failed.2
          again.1 = true ∧ callerRequests (again.2.trace.drop failed.2.trace.length) = [] ↔
            failed.2.host.flags.tagReady = true ∧
              connectedUnder next.protocol failed.2.host.session = true := by
  intro failed since hfailed
  obtain ⟨-, new, htrace, hhold⟩ :=
    (tag_reconnect_fruitless target restart s hfailed).goesBy fruitless_accounts hs
  have hsince : since = new := trace_since htrace
  refine ⟨?_, fun next => tag_reconnect_silent_iff next failed.2⟩
  rw [hsince]
  exact (congrArg TagHold.connection hhold).trans (TagHold.after_connection (holdOf s.host) new)

/-- The target of a card that was reported active. -/
def cardTarget : Connection := ⟨1, Protocol.isoDep, .iso14443Part4⟩

def connecting : List Deed :=
  [.move (.event (.activated (Sample.isoDepCard 1))), .move (.call (.session (.connect cardTarget)))]

/-- A session is connected to the card, and the controller goes on by a script. -/
def connectedTo (script : Script) : System Script :=
  { ran Script.controller [] {} {} (firstBringUp ++ connecting) with controller := script }

/-- Where a selection is not completed the tag is let go, and the field is reported empty before the
reconnection fails: the connection is gone. -/
theorem unconfirmed_reselection_forgets :
    let s := connectedTo { silenced := [.select] }
    let failed := (Tag.reconnect cardTarget true).run Script.controller.alone s
    s.receiver ≠ .session ∧ failed.1 = false ∧ failed.2.host.session.connection = none := by
  have hreceiver : (connectedTo { silenced := [.select] }).receiver = .host := rfl
  have hs : (connectedTo { silenced := [.select] }).receiver ≠ .session := by
    rw [hreceiver]
    nofun
  obtain ⟨hconnection, -⟩ := failed_reconnect_keeps_connection Script.controller hs cardTarget true rfl
  exact ⟨hs, rfl, hconnection.trans rfl⟩

/-- Where a selection is refused after the controller accepted the sleep of the tag, the session goes on to
count as connected, and the next reconnection succeeds without a request. -/
theorem refused_reselection_keeps :
    let s := connectedTo { standing := [(.select, .rejected)] }
    let failed := (Tag.reconnect cardTarget true).run Script.controller.alone s
    let again := (Tag.reconnect cardTarget false).run Script.controller.alone failed.2
    failed.1 = false ∧
      (failed.2.trace.drop s.trace.length).filterMap (fun entry => match entry.passage with
        | .request .caller request verdict => some (request, verdict)
        | _ => none) =
          [(.deactivate true, .ok), (.select 1 Protocol.isoDep 0x02, .rejected)] ∧
      failed.2.host.session.connection = some cardTarget ∧
      again.1 = true ∧ callerRequests (again.2.trace.drop failed.2.trace.length) = [] :=
  ⟨rfl, rfl, rfl, rfl, rfl⟩

end NfcStack.Proofs
