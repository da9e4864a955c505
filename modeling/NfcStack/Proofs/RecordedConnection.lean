import NfcStack.Proofs.FailedReconnect
import NfcStack.Proofs.LateNotices

/-!
# The recorded connection

A connection is recorded when a caller's selection of a target was completed, and when the host selects a
target of a discovery by itself. A caller's selection was accepted by then. The host's own is recorded
before the controller answers, and stays recorded if the controller refuses it.
-/

namespace NfcStack.Proofs

variable {σ α : Type} {c : Controller σ} {s t u : System σ}

section Vouching

/-- What a recorded connection rests on: an accepted selection by a caller, after whose wait the field was
not reported empty, or a selection by the host itself since the field was empty. -/
def Vouched (target : Connection) (entries : List Entry) : Prop :=
  (∃ before flags wait rest,
      entries = before ++ ⟨.request .caller (selectionRequest target) .ok, flags⟩ :: (wait ++ rest) ∧
        (∀ entry ∈ wait, OfDelivery entry) ∧ rest.any reportsEmpty = false) ∨
    ∃ entry ∈ sinceLast reportsEmpty entries, picksDiscovered entry = some target

lemma sinceLast_append {kind : α → Bool} (first rest : List α) :
    sinceLast kind (first ++ rest) =
      if rest.any kind then sinceLast kind rest else sinceLast kind first ++ rest := by
  induction rest using List.reverseRecOn with
  | nil => simp
  | append_singleton rest item ih =>
    rw [← List.append_assoc, List.any_append]
    cases hkind : kind item with
    | true =>
      rw [sinceLast_self hkind, sinceLast_self hkind]
      simp [hkind]
    | false =>
      rw [sinceLast_other hkind, sinceLast_other hkind, ih]
      by_cases hany : rest.any kind = true
      · simp [hkind, hany]
      · simp [hkind, hany]

lemma Vouched.prepend {target : Connection} {entries : List Entry} (first : List Entry)
    (h : Vouched target entries) : Vouched target (first ++ entries) := by
  rcases h with ⟨before, flags, wait, rest, rfl, hwait, hrest⟩ | ⟨entry, hmem, hpick⟩
  · exact .inl ⟨first ++ before, flags, wait, rest, (List.append_assoc _ _ _).symm, hwait, hrest⟩
  · refine .inr ⟨entry, ?_, hpick⟩
    rw [sinceLast_append]
    split
    · exact hmem
    · exact List.mem_append_right _ ((List.rtakeWhile_suffix _ _).mem hmem)

lemma Vouched.append {target : Connection} {entries rest : List Entry} (h : Vouched target entries)
    (hrest : rest.any reportsEmpty = false) : Vouched target (entries ++ rest) := by
  rcases h with ⟨before, flags, wait, last, rfl, hwait, hlast⟩ | ⟨entry, hmem, hpick⟩
  · refine .inl ⟨before, flags, wait, last ++ rest, by simp, hwait, ?_⟩
    rw [List.any_append, hlast, hrest]
    rfl
  · refine .inr ⟨entry, ?_, hpick⟩
    rw [sinceLast_append, hrest]
    exact List.mem_append_left _ hmem

/-- From one system to another, whoever the host is that receives the events: a connection was recorded
before and the field was not reported empty meanwhile, or what was done meanwhile vouches for it. -/
def Vouches (s t : System σ) : Prop :=
  s.receiver ≠ .session → t.receiver ≠ .session ∧
    ∃ new, t.trace = s.trace ++ new ∧ ∀ target, t.host.session.connection = some target →
      (s.host.session.connection = some target ∧ new.any reportsEmpty = false) ∨ Vouched target new

lemma Vouches.trans (h₁ : Vouches s t) (h₂ : Vouches t u) : Vouches s u := by
  intro hs
  obtain ⟨ht, new₁, htrace₁, hfirst⟩ := h₁ hs
  obtain ⟨hu, new₂, htrace₂, hrest⟩ := h₂ ht
  refine ⟨hu, new₁ ++ new₂, by rw [htrace₂, htrace₁, List.append_assoc], fun target htarget => ?_⟩
  rcases hrest target htarget with ⟨hbefore, hempty₂⟩ | hvouched
  · rcases hfirst target hbefore with ⟨hstart, hempty₁⟩ | hvouched
    · exact .inl ⟨hstart, by rw [List.any_append, hempty₁, hempty₂]; rfl⟩
    · exact .inr (hvouched.append hempty₂)
  · exact .inr (hvouched.prepend new₁)

end Vouching

section Acts

/-- One hold has no connection that the other has not. -/
def NoFurther (hold other : TagHold) : Prop :=
  ∀ target, hold.connection = some target → other.connection = some target

lemma noFurther_same {hold other : TagHold} (h : hold.connection = other.connection) :
    NoFurther hold other := fun target htarget => by rw [← h, htarget]

/-- Acts that record no selection make no connection. -/
lemma sparesConnection_accounts : Accounts SparesConnection NoFurther where
  refl _ _ := id
  trans h₁ h₂ target htarget := h₂ target (h₁ target htarget)
  enter {hold other} entry h := by
    intro target htarget
    rw [TagHold.enter_connection] at htarget ⊢
    split at htarget
    · exact absurd htarget nofun
    · next hempty =>
      rw [if_neg hempty]
      cases hpick : picksDiscovered entry with
      | none =>
        rw [hpick] at htarget
        exact h target htarget
      | some picked =>
        rw [hpick] at htarget
        exact htarget
  change change hp host := by
    cases change with
    | waits f hf => exact noFurther_same (congrArg TagHold.connection (hf.hold host))
    | welcome act =>
      refine noFurther_same ?_
      change (welcomed act host).session.connection = host.session.connection
      unfold welcomed
      split
      · rfl
      · next session hsession => exact admit_connection hsession
    | session change =>
      cases change with
      | connection target => exact hp.elim
      | letGo => exact nofun
      | forget => exact nofun
      | _ => exact noFurther_same rfl
    | _ => exact noFurther_same rfl

lemma GoesBy.vouches (h : GoesBy NoFurther s t) : Vouches s t := by
  intro hs
  obtain ⟨ht, new, htrace, hfurther⟩ := h hs
  refine ⟨ht, new, htrace, fun target htarget => ?_⟩
  have hafter := hfurther target htarget
  rw [TagHold.after_connection] at hafter
  cases hpicks : ((sinceLast reportsEmpty new).filterMap picksDiscovered).getLast? with
  | none =>
    rw [hpicks, Option.none_or] at hafter
    split at hafter
    · exact absurd hafter nofun
    · next hempty => exact .inl ⟨hafter, Bool.eq_false_iff.mpr hempty⟩
  | some picked =>
    rw [hpicks] at hafter
    obtain rfl : picked = target := Option.some.inj hafter
    obtain ⟨entry, hmem, hpick⟩ := List.mem_filterMap.mp (List.mem_of_getLast? hpicks)
    exact .inr (.inr ⟨entry, hmem, hpick⟩)

lemma composes_vouches (c : Controller σ) : Composes SparesConnection c.alone Vouches where
  evolves h := (h.goesBy sparesConnection_accounts).vouches
  trans := Vouches.trans
  occupy {s t} resource h := by
    have hback : Vouches s (t.mapHost (giveBack s.host.inUse)) := h
    exact hback.trans (sparesConnection_accounts.steps.release _).vouches
  meantime s := (sparesConnection_accounts.same rfl rfl rfl).vouches
  radio _ := rfl
  interlude _ s := (sparesConnection_accounts.same rfl rfl rfl).vouches
  goOn s := (sparesConnection_accounts.same rfl rfl rfl).vouches

end Acts

section Selections

/-- A request that callers made was accepted, and nothing but deliveries came after it. -/
def Accepts (request : Request) (s t : System σ) : Prop :=
  ∃ flags wait, t.trace = s.trace ++ ⟨.request .caller request .ok, flags⟩ :: wait ∧
    ∀ entry ∈ wait, OfDelivery entry

lemma Accepts.adds {request : Request} (h : Accepts request s t) (hadds : Adds OfDelivery t u) :
    Accepts request s u := by
  obtain ⟨flags, wait, htrace, hwait⟩ := h
  obtain ⟨new, hnew, hof⟩ := hadds
  refine ⟨flags, wait ++ new, by rw [hnew, htrace, List.append_assoc]; rfl, ?_⟩
  exact List.forall_mem_append.mpr ⟨hwait, hof⟩

/-- A call that completed had its request accepted. -/
lemma call_accepts (c : Controller σ) (venue : Venue α) (request : Request) (s : System σ) {value : α}
    (h : ((Op.call venue request).run c.alone s).1 = .completed value) :
    Accepts request s ((Op.call venue request).run c.alone s).2 := by
  rw [call_alone] at h ⊢
  dsimp only at h ⊢
  split at h
  · next hok =>
    have haccepted : (exchange c venue request s).verdict = .ok := of_decide_eq_true hok
    have hasked : Accepts request s (exchange c venue request s).asked := by
      refine ⟨(venue.map .arm s.host).flags, [], ?_, fun _ => nofun⟩
      rw [← haccepted]
      rfl
    exact hasked.adds ((follows_adds c).duringCall (fun _ _ => adds_of_trace_eq rfl) venue request s)
  · exact absurd h nofun

lemma Accepts.remember {target : Connection} (h : Accepts (selectionRequest target) s t)
    (hr : s.receiver ≠ .session → t.receiver ≠ .session) :
    Vouches s (t.mapHost (Host.mapSession fun session => { session with connection := some target })) := by
  obtain ⟨flags, wait, htrace, hwait⟩ := h
  refine fun hs => ⟨hr hs, _, htrace, fun found hfound => ?_⟩
  obtain rfl : target = found := Option.some.inj hfound
  exact .inr (.inl ⟨[], flags, wait, [], by rw [List.append_nil]; rfl, hwait, rfl⟩)

variable (c)

lemma tag_connect_vouches (target : Connection) :
    Along Vouches c.alone (Tag.connect target : Op σ Status) := by
  have hR := composes_vouches c
  have ho : Orderly SparesConnection c.alone := orderly_alone _ c
  refine along_whenReady hR _ (along_holdingField hR (fun _ => trivial) _ fun s => ?_)
  have hcall : KeepsTo SparesConnection c.alone
      (Op.call Venue.select (selectionRequest target) : Op σ (Outcome Status)) :=
    keepsTo_call ho (fun _ _ => trivial) (fun _ _ => rfl) trivial nofun
  have hundo : KeepsTo SparesConnection c.alone (Op.send (.deactivate false) : Op σ Status) :=
    keepsTo_send ho trivial nofun
  have hcalled : Vouches s _ := hR.evolves (hcall s)
  have haccepts := @call_accepts _ _ c Venue.select (selectionRequest target) s
  rw [selectRequest_eq, Op.run_bind]
  generalize (Op.call Venue.select (selectionRequest target)).run c.alone s = called
    at hcalled haccepts ⊢
  obtain ⟨outcome, after⟩ := called
  cases outcome with
  | completed status =>
    cases status with
    | ok => exact (haccepts rfl).remember fun hs => (hcalled hs).1
    | _ => exact hcalled
  | timedOut =>
    have hgaveUp : KeepsTo SparesConnection c.alone (do
        let _ ← Op.send (.deactivate false)
        return .timeout : Op σ Status) := keepsTo_bind hundo fun _ => keepsTo_pure _
    exact hcalled.trans (hR.evolves (hgaveUp after))
  | _ => exact hcalled

lemma reselect_vouches (target : Connection) :
    Along Vouches c.alone (Tag.reselect target : Op σ Bool) := by
  have hR := composes_vouches c
  have ho : Orderly SparesConnection c.alone := orderly_alone _ c
  have hwaits (f : Rendezvous Unit → Rendezvous Unit) :
      KeepsTo SparesConnection c.alone (Op.update (Venue.activated.map f) : Op σ Unit) :=
    keepsTo_waits (fun _ _ => trivial) fun _ => rfl
  refine along_bind hR ((hwaits .arm).along hR) fun _ s => ?_
  have hcall : KeepsTo SparesConnection c.alone
      (Op.call Venue.select (selectionRequest target) : Op σ (Outcome Status)) :=
    keepsTo_call ho (fun _ _ => trivial) (fun _ _ => rfl) trivial nofun
  have hcalled : Vouches s _ := hR.evolves (hcall s)
  have haccepts := @call_accepts _ _ c Venue.select (selectionRequest target) s
  rw [selectRequest_eq, Op.run_bind]
  generalize (Op.call Venue.select (selectionRequest target)).run c.alone s = called
    at hcalled haccepts ⊢
  obtain ⟨outcome, after⟩ := called
  have hgiveUp : KeepsTo SparesConnection c.alone (do
      Op.update (Venue.activated.map .disarm)
      return false : Op σ Bool) := keepsTo_bind (hwaits _) fun _ => keepsTo_pure _
  cases outcome with
  | completed status =>
    cases status with
    | ok =>
      have hawait : KeepsTo SparesConnection c.alone (Op.await Venue.activated : Op σ (Outcome Unit)) :=
        keepsTo_await ho (fun _ _ => trivial) fun _ _ => rfl
      have hawaited : Vouches s _ := hcalled.trans (hR.evolves (hawait after))
      have hadds : Adds OfDelivery after
          ((Op.await Venue.activated : Op σ (Outcome Unit)).run c.alone after).2 :=
        (follows_adds c).pass (fun _ _ => adds_of_trace_eq rfl) after
      dsimp only
      rw [Op.run_bind]
      split
      · exact ((haccepts rfl).adds hadds).remember fun hs => (hawaited hs).1
      · exact hawaited
    | _ => exact hcalled.trans (hR.evolves (hgiveUp after))
  | timedOut =>
    have hundo : KeepsTo SparesConnection c.alone (Op.send (.deactivate false) : Op σ Status) :=
      keepsTo_send ho trivial nofun
    have hgaveUp : KeepsTo SparesConnection c.alone (do
        let _ ← Op.send (.deactivate false)
        Op.update (Venue.activated.map .disarm)
        return false : Op σ Bool) := keepsTo_bind hundo fun _ => hgiveUp
    exact hcalled.trans (hR.evolves (hgaveUp after))
  | _ => exact hcalled.trans (hR.evolves (hgiveUp after))

lemma tag_reconnect_vouches (target : Connection) (restart : Bool) :
    Along Vouches c.alone (Tag.reconnect target restart : Op σ Bool) := by
  have hR := composes_vouches c
  have ho : Orderly SparesConnection c.alone := orderly_alone _ c
  have hcall : KeepsTo SparesConnection c.alone
      (Op.call Venue.deactivated (.deactivate true) : Op σ (Outcome Unit)) :=
    keepsTo_call ho (fun _ _ => trivial) (fun _ _ => rfl) trivial nofun
  refine along_whenReady hR _ (along_holdingField hR (fun _ => trivial) _ ?_)
  refine along_bind hR (along_read hR _) fun current => ?_
  split
  · exact along_pure hR _
  · refine along_bind hR (hcall.along hR) fun outcome => ?_
    split
    · exact along_pure hR _
    · exact reselect_vouches c target

lemma follows_vouches : FollowsSelection Vouches c.alone where
  connect := tag_connect_vouches c
  reconnect := tag_reconnect_vouches c

lemma runAll_vouches (deeds : List Deed) :
    Along Vouches c.alone (Deed.runAll deeds : Op σ Unit) := by
  have hR := composes_vouches c
  have hs := follows_vouches c
  have hc := followsContent hR hs handling_sparesConnection
  have hspares (act : Act) (h : ¬Particular act) : SparesConnection act := by
    unfold SparesConnection
    split
    · exact h trivial
    · trivial
  have he := followsEndpoints hR hs hc (fun act _ => hspares act) fun _ _ => trivial
  refine runAll_along hR hs hc (sparesMode_followsRouting hR fun act h => ?_) he hspares deeds fun deed _ => ?_
  · exact sparesTag_sparesConnection act (sparesMode_sparesTag act h)
  · exact deed.within (fun _ => trivial) (fun _ => trivial) fun _ => trivial

end Selections

section Notices

/-- The connection that the host records when it selects a discovered target. -/
def targetOf (found : DiscoveryNotice) : Connection := ⟨found.target, found.protocol, .unknown⟩

/-- The last notice of a discovery has the first target selected that a reader can select. It is recorded
whatever the controller answers. -/
lemma deliver_notice_records (hr : s.receiver = .host) (hu : s.host.usesField = false)
    {notice found : DiscoveryNotice} (hlast : notice.more = false)
    (hfound : (s.host.session.notices ++ [notice]).find?
      (fun other => Protocol.isSelectable other.protocol) = some found) :
    let selected := c.deliver (.event (.discovered .ok notice)) s
    selected.host.session.connection = some (targetOf found) ∧
      ∃ flags, selected.trace = s.trace ++
        [⟨.delivered (.discovered .ok notice), s.host.flags⟩,
          ⟨.request .reaction (selectionRequest (targetOf found))
            (c.respond (selectionRequest (targetOf found)) s.controller).1.verdict, flags⟩] := by
  intro selected
  have hcollect : s.host.session.collect notice =
      (some found, { s.host.session with notices := [] }) := by
    unfold Session.collect
    dsimp only
    rw [hlast, hfound]
    rfl
  let noted := (s.record (.delivered (.discovered .ok notice))).mapHost
    (Host.mapSession fun _ => { s.host.session with notices := [] })
  have hselected : selected = c.selectDiscovered found noted := by
    change c.deliver (.event (.discovered .ok notice)) s = _
    simp only [Controller.deliver, hr]
    change c.reactToNotice notice (s.record (.delivered (.discovered .ok notice))) = _
    unfold Controller.reactToNotice
    rw [System.record_host, hcollect]
    exact if_neg (by rw [Bool.not_eq_true]; exact hu)
  rw [hselected]
  exact ⟨rfl, noted.host.flags, List.append_assoc s.trace _ _⟩

end Notices

lemma connectedUnder_iff {protocol : UInt8} {session : Session} :
    connectedUnder protocol session = true ↔
      ∃ target, session.connection = some target ∧ target.protocol = protocol := by
  simp [connectedUnder, Option.any_eq_true]

/-- After a moment at which no connection was recorded, such as a disconnection or the report that the
field is empty, a recorded connection rests on a selection of its target that was made since. A
reconnection succeeds without a request exactly if there is a tag and such a connection under the same
protocol. But only a caller's selection has to have been accepted: the host records the target of a
discovery whatever the controller answers to its selection. -/
theorem connection_vouched (c : Controller σ) (companions : List (Companion σ)) (config : Config) (x : σ)
    (deeds later : List Deed) :
    let u := ran c companions config x deeds
    let s := afterDeeds c later u
    let since := s.trace.drop u.trace.length
    u.host.session.connection = none →
      (∀ target, s.host.session.connection = some target → Vouched target since) ∧
      (∀ next : Connection,
        let again := (Tag.reconnect next false).run c.alone s
        again.1 = true ∧ callerRequests (again.2.trace.drop s.trace.length) = [] ↔
          s.host.flags.tagReady = true ∧
            ∃ target, s.host.session.connection = some target ∧ target.protocol = next.protocol ∧
              Vouched target since) ∧
      (s.receiver = .host → ∀ notice found : DiscoveryNotice, notice.more = false →
        (s.host.session.notices ++ [notice]).find?
          (fun other => Protocol.isSelectable other.protocol) = some found →
        let selected := c.deliver (.event (.discovered .ok notice)) s
        selected.host.session.connection = some (targetOf found) ∧
          ∃ flags, selected.trace = s.trace ++
            [⟨.delivered (.discovered .ok notice), s.host.flags⟩,
              ⟨.request .reaction (selectionRequest (targetOf found))
                (c.respond (selectionRequest (targetOf found)) s.controller).1.verdict, flags⟩]) := by
  intro u s since hnone
  obtain ⟨hinUse, -, hattended⟩ := ran_at_rest c companions config x deeds
  have hruns : Along Vouches c.alone (Deed.runAll later : Op σ Unit) :=
    runAll_vouches c later
  have hvouched : ∀ target, s.host.session.connection = some target → Vouched target since := by
    intro target htarget
    obtain ⟨-, new, htrace, hconnection⟩ := hruns u hattended.not_session
    have hsince : since = new := trace_since htrace
    rw [hsince]
    rcases hconnection target htarget with ⟨hbefore, -⟩ | hsome
    · rw [hnone] at hbefore
      exact absurd hbefore nofun
    · exact hsome
  refine ⟨hvouched, fun next => ?_, fun hr notice found hlast hfound => ?_⟩
  · intro again
    refine (tag_reconnect_silent_iff next s).trans (and_congr_right fun _ => ?_)
    rw [connectedUnder_iff]
    exact exists_congr fun target =>
      ⟨fun ⟨htarget, hunder⟩ => ⟨htarget, hunder, hvouched target htarget⟩,
        fun ⟨htarget, hunder, _⟩ => ⟨htarget, hunder⟩⟩
  · have hruns : KeepsTo (fun _ => True) c.alone (Deed.runAll later : Op σ Unit) :=
      runAll_keepsTo (fun _ => trivial) (orderly_alone _ c) later
    have hfree : s.host.usesField = false := by
      unfold Host.usesField
      rw [show s.host.inUse = u.host.inUse from (hruns u).inUse, hinUse]
      rfl
    exact deliver_notice_records hr hfree hlast hfound

/-- The connection to a card that a caller selected rests on that selection. -/
theorem selected_card_vouched :
    let u := ran Script.controller [] {} {} firstBringUp
    let s := afterDeeds Script.controller connecting u
    u.host.session.connection = none ∧ s.host.session.connection = some cardTarget ∧
      Vouched cardTarget (s.trace.drop u.trace.length) := by
  obtain ⟨hvouched, -, -⟩ := connection_vouched Script.controller [] {} {} firstBringUp connecting rfl
  exact ⟨rfl, rfl, hvouched cardTarget rfl⟩

/-- A card is active, a discovery reports another one, and the controller refuses to select that. -/
def refusedDiscovery : List Deed := firstBringUp ++
  [.move (.event (.activated (Sample.isoDepCard 1))),
    .move (.event (.discovered .ok ⟨2, Protocol.isoDep, false⟩))]

/-- The other card is recorded without any selection that was accepted, and the reconnection to it succeeds
without a request. -/
theorem refused_target_recorded :
    let s := ran Script.controller [] {} { standing := [(.select, .rejected)] } refusedDiscovery
    let again := (Tag.reconnect ⟨2, Protocol.isoDep, .iso14443Part4⟩ false).run Script.controller.alone s
    s.host.session.connection = some ⟨2, Protocol.isoDep, .unknown⟩ ∧ picksOf s.trace = [] ∧
      again.1 = true ∧ callerRequests (again.2.trace.drop s.trace.length) = [] :=
  ⟨rfl, rfl, rfl, rfl⟩

end NfcStack.Proofs
