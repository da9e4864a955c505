import NfcStack.Proofs.FullReconnect
import NfcStack.Proofs.MessageStorage
import NfcStack.Proofs.TagMemory

/-!
# Reading back what was written

After a write that was acknowledged the controller holds what was written, and a read that completes brings it.
Whether the read is made goes by the recorded check, and a write leaves that as it is.
-/

namespace NfcStack.Proofs

variable {σ α : Type} {c : Controller σ} {stored : σ → Bytes} {s t u : System σ}

section Writes

variable {message : Bytes}

/-- A request is confirmed if its wait completes well. -/
lemma confirmed_run (venue : Venue Status) (request : Request) (env : Environment σ) (s : System σ) :
    let called := (Op.call venue request).run env s
    (Tag.confirmed venue request).run env s = (decide (called.1 = .completed .ok), called.2) := by
  unfold Tag.confirmed
  rw [Op.run_bind]
  generalize (Op.call venue request).run env s = called
  obtain ⟨outcome, t⟩ := called
  cases outcome with
  | completed status =>
    refine Prod.ext ?_ rfl
    change decide (status = .ok) = decide (Outcome.completed status = .completed .ok)
    simp
  | _ => rfl

lemma Stores.format_holds (hc : Stores c stored) (h : Holds stored message s) :
    Holds stored message ((Tag.format : Op σ Bool).run c.alone s).2 := by
  unfold Tag.format
  rw [whenReady_run]
  split
  · rw [holdingField_alone, confirmed_run, call_alone]
    exact hc.left_holds ((hc.exchange_holds (entered_holds h _) Venue.format rfl).mapHost _) s
  · exact h

/-- Where a call completed, its request was accepted and its completion arrived. -/
lemma arrived_of_completed {venue : Venue α} {completes : Arrival → Option α}
    (h : Catches venue completes) {request : Request} {value : α}
    (hdone : ((Op.call venue request).run c.alone s).1 = .completed value) :
    (exchange c venue request s).accepted ∧
      ∃ a ∈ arrivalsOf c (exchange c venue request s), completes a = some value := by
  rw [call_outcome c h] at hdone
  split at hdone
  · next haccepted =>
    have hlast := (outcomeOf_completed value).mp hdone
    exact ⟨haccepted, List.mem_filterMap.mp (List.mem_of_getLast? hlast)⟩
  · exact absurd hdone nofun

/-- After a write that was acknowledged the controller holds what was written. -/
lemma Stores.acknowledged_holds (hc : Stores c stored) (h : Holds stored message s) {written : Bytes}
    (hdone : ((Op.call Venue.write (.writeNdef written)).run c.alone s).1 = .completed .ok) :
    Holds stored written (exchange c Venue.write (.writeNdef written) s).ended := by
  let x := exchange c Venue.write (.writeNdef written) s
  have hreq : Request.writeNdef written ≠ .enable := nofun
  obtain ⟨haccepted, a, ha, hwritten⟩ := arrived_of_completed catches_write hdone
  have hhappening : a.happening = .event (.writeDone .ok) := writtenIn_some hwritten
  have harrived : a.happening ∈ messagesIn (arrivalsOf c x) := mem_messagesIn ha (by rw [hhappening]; rfl)
  have hnews : messagesIn (arrivalsOf c x) ++ messageNews x.ended.queue =
      messageNews (c.respond (.writeNdef written) s.controller).1.happenings :=
    hc.exchange_news h Venue.write hreq haccepted
  rcases hc.writes written s.controller with hnone | ⟨status, hone, hstored⟩
  · rw [hnone] at hnews
    exact absurd (List.append_eq_nil_iff.mp hnews).1 (List.ne_nil_of_mem harrived)
  · rw [hone] at hnews
    rcases List.append_eq_singleton_iff.mp hnews with ⟨hnone, -⟩ | ⟨harrivals, hquiet⟩
    · rw [hnone] at harrived
      exact absurd harrived List.not_mem_nil
    · -- The acknowledgement that arrived is the one that came of this write.
      rw [harrivals, hhappening, List.mem_singleton] at harrived
      obtain rfl : .ok = status := by
        injection harrived with harrived
        injection harrived
      have hkept : stored x.ended.controller = stored x.asked.controller :=
        hc.follows_stored.duringCall (fun _ _ => rfl) Venue.write (.writeNdef written) s
      have hreceiver : x.ended.receiver = x.asked.receiver :=
        (follows_receiver c).duringCall (fun _ _ => rfl) Venue.write (.writeNdef written) s
      refine ⟨hkept.trans (hstored rfl), hquiet, ?_⟩
      rw [hreceiver]
      exact issue_received .caller _ h.received

/-- What is written of a message: a single empty record instead of nothing. -/
def asWritten (message : Bytes) : Bytes := if message.isEmpty then Tag.emptyMessage else message

lemma asWritten_some (message : Bytes) : asWritten message ≠ [] := by
  unfold asWritten
  split
  · nofun
  · next hsome => exact fun hnone => hsome (List.isEmpty_iff.mpr hnone)

lemma Stores.confirmed_holds (hc : Stores c stored) (h : Holds stored message s) {written : Bytes}
    (hdone : ((Tag.confirmed Venue.write (.writeNdef written)).run c.alone s).1 = true) :
    Holds stored written ((Tag.confirmed Venue.write (.writeNdef written)).run c.alone s).2 := by
  rw [confirmed_run] at hdone ⊢
  have hended := hc.acknowledged_holds h (of_decide_eq_true hdone)
  rw [call_alone]
  exact hended.mapHost _

/-- Whether the tag is prepared to be written to, which takes formatting if the last check found that it can be
formatted. -/
def madeReady (c : Controller σ) (s : System σ) : Bool × System σ :=
  if s.host.session.lastCheck = some .formatable then (Tag.format : Op σ Bool).run c.alone s else (true, s)

/-- What a write goes on with after the tag is prepared. -/
def writtenTo (c : Controller σ) (written : Bytes) (s : System σ) : Bool × System σ :=
  if (madeReady c s).1 then (Tag.confirmed Venue.write (.writeNdef written)).run c.alone (madeReady c s).2
  else (false, (madeReady c s).2)

lemma writeNdef_alone (c : Controller σ) (next : Bytes) (s : System σ) :
    (Tag.writeNdef next : Op σ Bool).run c.alone s =
      if s.host.flags.tagReady then
        let wrote := writtenTo c (asWritten next) (entered Host.waitBound s)
        (wrote.1, left c s wrote.2)
      else (false, s) := by
  unfold Tag.writeNdef
  rw [whenReady_run]
  split
  · rw [holdingField_alone]
    have hrest (ready : Bool × System σ) :
        (if ready.1 then Tag.confirmed Venue.write (.writeNdef (asWritten next)) else return false :
          Op σ Bool).run c.alone ready.2 =
        if ready.1 then (Tag.confirmed Venue.write (.writeNdef (asWritten next))).run c.alone ready.2
        else (false, ready.2) := by
      split
      · rfl
      · rfl
    have hrun (u : System σ) : (do
        let lastCheck ← Op.read (·.session.lastCheck)
        let prepared ← if lastCheck = some .formatable then Tag.format else pure true
        if prepared then Tag.confirmed Venue.write (.writeNdef (asWritten next))
        else return false : Op σ Bool).run c.alone u = writtenTo c (asWritten next) u := by
      unfold writtenTo
      rw [← hrest]
      unfold madeReady
      rw [Op.run_bind, Op.run_read]
      dsimp only
      split
      · rfl
      · rfl
    exact congrArg (fun wrote : Bool × System σ => (wrote.1, left c s wrote.2)) (hrun _)
  · rfl

lemma write_ready {next : Bytes} (h : ((Tag.writeNdef next : Op σ Bool).run c.alone s).1 = true) :
    s.host.flags.tagReady = true := by
  rw [writeNdef_alone] at h
  split at h
  · assumption
  · exact absurd h Bool.false_ne_true

/-- A write that succeeds leaves the controller with what was written. -/
lemma Stores.writeNdef_holds (hc : Stores c stored) (h : Holds stored message s) (next : Bytes)
    (hdone : ((Tag.writeNdef next : Op σ Bool).run c.alone s).1 = true) :
    Holds stored (asWritten next) ((Tag.writeNdef next : Op σ Bool).run c.alone s).2 := by
  have hprepared : Holds stored message (madeReady c (entered Host.waitBound s)).2 := by
    have hentered : Holds stored message (entered Host.waitBound s) := entered_holds h _
    unfold madeReady
    split
    · exact hc.format_holds hentered
    · exact hentered
  have hready := write_ready hdone
  rw [writeNdef_alone, if_pos hready] at hdone ⊢
  refine hc.left_holds ?_ s
  dsimp only at hdone
  unfold writtenTo at hdone ⊢
  split at hdone
  · next hformatted =>
    rw [if_pos hformatted]
    exact hc.confirmed_holds hprepared hdone
  · exact absurd hdone Bool.false_ne_true

end Writes

section Reads

variable {message : Bytes}

/-- Where a read completes well, the message and its completion are all that arrived of messages. -/
lemma messages_of_read {arrived rest : List Happening} {status : Status}
    (h : arrived ++ rest = [.event (.ndefData message), .event (.readDone status)])
    (hdone : .event (.readDone .ok) ∈ arrived) :
    arrived = [.event (.ndefData message), .event (.readDone .ok)] := by
  rcases List.append_eq_cons_iff.mp h with ⟨rfl, -⟩ | ⟨others, rfl, hothers⟩
  · exact absurd hdone List.not_mem_nil
  · have hlater : .event (.readDone .ok) ∈ others := by
      rcases List.mem_cons.mp hdone with hdata | hlater
      · injection hdata with hdata
        exact absurd hdata nofun
      · exact hlater
    rcases List.append_eq_singleton_iff.mp hothers.symm with ⟨rfl, -⟩ | ⟨rfl, -⟩
    · exact absurd hlater List.not_mem_nil
    · rw [← List.mem_singleton.mp hlater]

/-- A read that completes well gives the message that the controller holds. -/
lemma Stores.readNdef_gives (hc : Stores c stored) (h : Holds stored message s) (hsome : message ≠ [])
    (hreadable : readable s.host = true) (haccepted : (readExchange c s).accepted)
    (hdone : .ok ∈ (arrivalsOf c (readExchange c s)).filterMap readIn) :
    ((Tag.readNdef : Op σ (Option Bytes)).run c.alone s).1 = some message := by
  let x := readExchange c s
  have hreq : Request.readNdef ≠ .enable := nofun
  have hbegun : Holds stored message (unread (entered Host.waitBound s)) := (entered_holds h _).mapHost _
  have hnews : messagesIn (arrivalsOf c x) ++ messageNews x.ended.queue =
      messageNews (c.respond .readNdef (entered Host.waitBound s).controller).1.happenings :=
    hc.exchange_news hbegun Venue.read hreq haccepted
  obtain ⟨a, ha, hread⟩ := List.mem_filterMap.mp hdone
  have hhappening : a.happening = .event (.readDone .ok) := readIn_some hread
  have harrived : a.happening ∈ messagesIn (arrivalsOf c x) := mem_messagesIn ha (by rw [hhappening]; rfl)
  have hmessages : messagesIn (arrivalsOf c x) = [.event (.ndefData message), .event (.readDone .ok)] := by
    rcases hc.reads (entered Host.waitBound s).controller with hnone | ⟨status, hboth⟩
    · rw [hnone] at hnews
      exact absurd (List.append_eq_nil_iff.mp hnews).1 (List.ne_nil_of_mem harrived)
    · have hstored : stored (entered Host.waitBound s).controller = message := h.stored
      rw [hboth, hstored] at hnews
      exact messages_of_read hnews (hhappening ▸ harrived)
  obtain ⟨hended, hfilled⟩ := messagesIn_read hmessages
  rw [read_gives, if_pos hreadable]
  change messageTo x.verdict (arrivalsOf c x) = some message
  have hgood : (x.verdict.isOk && ((arrivalsOf c x).filterMap readIn).getLast? = some .ok) = true := by
    rw [hended, haccepted]
    rfl
  unfold messageTo
  rw [if_pos hgood, hfilled]
  exact if_neg fun hempty => hsome (List.isEmpty_iff.mp hempty)

end Reads

section Records

/-- From one system to another the recorded check stands, unless the tag left the field. -/
def RecordStands (s t : System σ) : Prop :=
  ∃ new, t.trace = s.trace ++ new ∧
    (t.host.session.lastCheck = s.host.session.lastCheck ∨
      t.host.session.lastCheck = none ∧ .deactivated false ∈ eventsOf new)

lemma recordStands_of_eq {new : List Entry} (htrace : t.trace = s.trace ++ new)
    (h : t.host.session.lastCheck = s.host.session.lastCheck) : RecordStands s t :=
  ⟨new, htrace, .inl h⟩

lemma recordStands_mapHost {f : Host → Host}
    (hf : ∀ host, (f host).session.lastCheck = host.session.lastCheck) : RecordStands s (s.mapHost f) :=
  recordStands_of_eq (List.append_nil _).symm (hf s.host)

lemma RecordStands.trans (h₁ : RecordStands s t) (h₂ : RecordStands t u) : RecordStands s u := by
  obtain ⟨first, hfirst, hcheck₁⟩ := h₁
  obtain ⟨rest, hrest, hcheck₂⟩ := h₂
  refine ⟨first ++ rest, by rw [hrest, hfirst, List.append_assoc], ?_⟩
  rw [eventsOf_append]
  rcases hcheck₂ with hsame₂ | ⟨hnone, hleft⟩
  · rcases hcheck₁ with hsame₁ | ⟨hnone, hleft⟩
    · exact .inl (hsame₂.trans hsame₁)
    · exact .inr ⟨hsame₂.trans hnone, List.mem_append_left _ hleft⟩
  · exact .inr ⟨hnone, List.mem_append_right _ hleft⟩

lemma gone_event {event : Event} (h : tagNews event = some .gone) : event = .deactivated false := by
  unfold tagNews at h
  split at h
  · rfl
  · split at h <;> cases h
  · split at h <;> cases h
  · cases h

lemma hearAlone_lastCheck (event : Event) (host : Host) :
    (hearAlone event host).session.lastCheck = host.session.lastCheck := by
  cases event with
  | discovered status notice =>
    change (if status.isOk then hearNotice notice host else host).session.lastCheck = _
    split
    · exact (hearNotice_extends notice host).2
    · rfl
  | data status bytes => cases status <;> rfl
  | _ => rfl

lemma deliver_recordStands (happening : Happening) (s : System σ) :
    RecordStands s (c.deliver happening s) := by
  cases happening with
  | abortAll => exact recordStands_mapHost fun _ => rfl
  | abortSession => exact recordStands_mapHost fun _ => rfl
  | event event =>
    cases hr : s.receiver with
    | nobody =>
      rw [deliver_nobody c hr]
      exact recordStands_of_eq (List.append_nil _).symm rfl
    | host =>
      obtain ⟨new, htrace, hevents⟩ := deliver_events c (receives_of_host hr) event
      refine ⟨new, htrace, ?_⟩
      rw [hevents, (deliver_host c hr event).host]
      by_cases hgone : tagNews event = some .gone
      · refine .inr ⟨congrArg TagMemory.lastCheck (hear_gone hgone s.host), ?_⟩
        rw [gone_event hgone]
        exact List.mem_singleton_self _
      · exact .inl (hear_extends hgone s.host).2
    | session =>
      have hn : s.receiver ≠ .nobody := by
        rw [hr]
        nofun
      obtain ⟨new, htrace, -⟩ := deliver_events c hn event
      refine recordStands_of_eq htrace ?_
      rw [(deliver_session c hr event).host]
      exact hearAlone_lastCheck event s.host

lemma steps_recordStands (c : Controller σ) : FollowsSteps c SparesTag (RecordStands (σ := σ)) where
  refl _ := recordStands_of_eq (List.append_nil _).symm rfl
  trans := RecordStands.trans
  queue _ _ := recordStands_of_eq (List.append_nil _).symm rfl
  deliver s happening _ := deliver_recordStands happening s
  request _ _ _ _ := recordStands_of_eq rfl rfl
  query _ := recordStands_of_eq rfl rfl
  change _ _ hp := recordStands_mapHost fun host => congrArg TagMemory.lastCheck (change_memory hp host)
  inUse _ _ := recordStands_mapHost fun _ => rfl
  heldUp _ := recordStands_of_eq (List.append_nil _).symm rfl
  late _ _ _ := recordStands_of_eq (List.append_nil _).symm rfl
  selects _ _ _ := recordStands_of_eq rfl rfl

/-- A write leaves the recorded check as it is. -/
lemma writeNdef_recordStands (c : Controller σ) (message : Bytes) (s : System σ) :
    RecordStands s ((Tag.writeNdef message : Op σ Bool).run c.alone s).2 :=
  (steps_recordStands c).evolves
    (writeNdef_along (orderly_alone SparesTag c).composes writing_sparesTag message s)

end Records

/-- On a controller that stores messages a write leaves the recorded check as it is, unless the tag leaves the
field meanwhile, and the next read goes by that. If the last check found a message that is not empty, a write
that succeeded is read back: while the same tag stays ready, a read whose request is accepted and completes well
gives what was written, which for an empty message is a single empty record. After any other check the read asks
for nothing and gives nothing, also if the write succeeded. -/
theorem read_gives_what_was_written (hc : Stores c stored) (companions : List (Companion σ)) (config : Config)
    (x : σ) (deeds : List Deed) (message : Bytes) :
    let s := ran c companions config x deeds
    let wrote := (Tag.writeNdef message : Op σ Bool).run c.alone s
    let t := wrote.2
    let read := (Tag.readNdef : Op σ (Option Bytes)).run c.alone t
    let request := readExchange c t
    let found := ∃ info size, s.host.session.lastCheck = some (.found info size) ∧ 0 < size
    let meanwhile := eventsOf (t.trace.drop s.trace.length)
    (t.host.session.lastCheck = s.host.session.lastCheck ∨
        t.host.session.lastCheck = none ∧ .deactivated false ∈ meanwhile) ∧
      (¬found → read.1 = none ∧ Asks t read.2 []) ∧
      (wrote.1 = true → found → .deactivated false ∉ meanwhile → t.host.flags.tagReady = true →
        request.accepted → .ok ∈ (arrivalsOf c request).filterMap readIn →
        read.1 = some (asWritten message)) := by
  intro s wrote t read request found meanwhile
  have hrecord : t.host.session.lastCheck = s.host.session.lastCheck ∨
      t.host.session.lastCheck = none ∧ .deactivated false ∈ meanwhile := by
    obtain ⟨new, htrace, hcheck⟩ := writeNdef_recordStands c message s
    have hmeanwhile : meanwhile = eventsOf new := congrArg eventsOf (trace_since htrace)
    rw [hmeanwhile]
    exact hcheck
  refine ⟨hrecord, fun hnone => ?_, fun hdone hfound hstayed hready haccepted hcompleted => ?_⟩
  · have hunreadable : readable t.host = false := by
      have hcheck : t.host.session.lastCheck.any NdefCheck.hasMessage = false := by
        rcases hrecord with hsame | ⟨hgone, -⟩
        · rw [hsame]
          exact Bool.eq_false_iff.mpr fun hfound => hnone ((promises_iff _).mp hfound)
        · rw [hgone]
          rfl
      unfold readable
      rw [hcheck, Bool.and_false]
    have hasks := read_asks c t
    rw [hunreadable] at hasks
    have hgives := read_gives c t
    rw [hunreadable] at hgives
    exact ⟨hgives, hasks⟩
  · have hactive : s.host.flags.active = true := (Bool.and_eq_true_iff.mp (write_ready hdone)).1
    have hwrote := hc.writeNdef_holds (hc.ran_holds companions config x deeds hactive) message hdone
    have hreadable : readable t.host = true := by
      rcases hrecord with hsame | ⟨-, hgone⟩
      · unfold readable
        rw [hready, hsame]
        exact (promises_iff _).mpr hfound
      · exact absurd hgone hstayed
    exact hc.readNdef_gives hwrote (asWritten_some message) hreadable haccepted hcompleted

/-- A tag that was looked at for a message. -/
def lookedAt : List Deed := firstBringUp ++
  [.move (.event (.activated (Sample.ultralight 1))), .move (.call (.session .checkNdef))]

/-- A message was found, and an empty one is written in its place. -/
theorem empty_message_read_back :
    let s := ran Script.controller [] {} { detection := ⟨.ok, Protocol.t2t, 137, 4, ⟨0⟩⟩ } lookedAt
    let wrote := (Tag.writeNdef []).run Script.controller.alone s
    let read := Tag.readNdef.run Script.controller.alone wrote.2
    Stores Script.controller Script.message ∧ wrote.1 = true ∧
      s.host.session.lastCheck = some (.found ⟨137, .readWrite⟩ 4) ∧ read.1 = some [0xd0, 0x00, 0x00] := by
  intro s wrote read
  obtain ⟨-, -, hread⟩ := read_gives_what_was_written script_stores [] {}
    { detection := ⟨.ok, Protocol.t2t, 137, 4, ⟨0⟩⟩ } lookedAt []
  exact ⟨script_stores, rfl, rfl, hread rfl ⟨_, _, rfl, by decide⟩ (by decide) rfl rfl (by decide)⟩

def textMessage : Bytes := [0xd1, 0x01, 0x01, 0x54]

/-- The tag was found to have no message but to take one once it is formatted. It was formatted and written to,
and a read would complete and bring the message, but it is not made. -/
theorem formatted_message_unread :
    let s := ran Script.controller [] {} { detection := ⟨.failed, Protocol.t2t, 137, 0, ⟨4⟩⟩ } lookedAt
    let wrote := (Tag.writeNdef textMessage).run Script.controller.alone s
    let request := readExchange Script.controller wrote.2
    Stores Script.controller Script.message ∧ s.host.session.lastCheck = some .formatable ∧
      wrote.1 = true ∧ wrote.2.host.flags.tagReady = true ∧ request.accepted ∧
      .ok ∈ (arrivalsOf Script.controller request).filterMap readIn ∧
      messageTo request.verdict (arrivalsOf Script.controller request) = some textMessage ∧
      (Tag.readNdef.run Script.controller.alone wrote.2).1 = none :=
  ⟨script_stores, rfl, rfl, rfl, rfl, by decide, rfl, rfl⟩

end NfcStack.Proofs
