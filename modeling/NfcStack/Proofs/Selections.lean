import NfcStack.Bench.Sample
import NfcStack.Bench.Script
import NfcStack.Proofs.EndpointKeeping
import NfcStack.Proofs.LateNotices

/-!
# Which target is selected

The target that the controller has selected is the one of the last selection it accepted, whoever asked
for it. Connecting an endpoint selects the target of its slot, unless the session is connected under the
protocol of that slot already; then nothing is asked, even if the connected target is another one.
-/

namespace NfcStack.Proofs

variable {σ : Type} {c : Controller σ} {s t u : System σ}

section Picks

/-- The target and the protocol of an accepted selection. -/
def pickOf : Passage → Option (UInt8 × UInt8)
  | .request _ (.select target protocol _) verdict =>
    if verdict.isOk then some (target, protocol) else none
  | _ => none

/-- The accepted selections in a trace, in order. -/
def picksOf (trace : List Entry) : List (UInt8 × UInt8) :=
  trace.filterMap fun entry => pickOf entry.passage

def lastPick (trace : List Entry) : Option (UInt8 × UInt8) := (picksOf trace).getLast?

lemma picksOf_append (first rest : List Entry) :
    picksOf (first ++ rest) = picksOf first ++ picksOf rest :=
  List.filterMap_append

lemma picksOf_singleton (entry : Entry) : picksOf [entry] = (pickOf entry.passage).toList := by
  unfold picksOf
  cases hpick : pickOf entry.passage with
  | none => simp [hpick]
  | some pick => simp [hpick]

lemma picksOf_telling {trace : List Entry} (h : ∀ entry ∈ trace, OfTelling entry) :
    picksOf trace = [] := by
  refine List.filterMap_eq_nil_iff.mpr fun entry hentry => ?_
  have hof := h entry hentry
  unfold OfTelling at hof
  split at hof
  · next hp => rw [hp]; rfl
  · next hp => rw [hp]; rfl
  · exact hof.elim

/-- No discovery is reported among these entries of a trace. -/
def NoDiscovery (trace : List Entry) : Prop :=
  ∀ event ∈ eventsOf trace, isDiscovery event = false

/-- From one system to another these selections were accepted, in order, unless a discovery was reported
meanwhile or a late notice was kept back before. -/
def Picks (s t : System σ) (picks : List (UInt8 × UInt8)) : Prop :=
  ∃ new, t.trace = s.trace ++ new ∧
    (s.late = none → NoDiscovery new → t.late = none ∧ picksOf new = picks)

lemma picks_of_eq (htrace : t.trace = s.trace) (hlate : t.late = s.late) : Picks s t [] :=
  ⟨[], by rw [htrace, List.append_nil], fun hnone _ => ⟨hlate.trans hnone, rfl⟩⟩

lemma picks_of_late {G : Entry → Prop} {picks : List (UInt8 × UInt8)} (h : Adds G s t)
    (hlate : s.late ≠ none) : Picks s t picks := by
  obtain ⟨new, htrace, -⟩ := h
  exact ⟨new, htrace, fun hnone => absurd hnone hlate⟩

lemma Picks.trans {first rest : List (UInt8 × UInt8)} (h₁ : Picks s t first)
    (h₂ : Picks t u rest) : Picks s u (first ++ rest) := by
  obtain ⟨new₁, htrace₁, hpicks₁⟩ := h₁
  obtain ⟨new₂, htrace₂, hpicks₂⟩ := h₂
  refine ⟨new₁ ++ new₂, by rw [htrace₂, htrace₁, List.append_assoc], fun hlate hquiet => ?_⟩
  have hboth : NoDiscovery new₁ ∧ NoDiscovery new₂ := by
    unfold NoDiscovery at hquiet ⊢
    rw [eventsOf_append] at hquiet
    exact ⟨fun event h => hquiet event (List.mem_append_left _ h),
      fun event h => hquiet event (List.mem_append_right _ h)⟩
  obtain ⟨hlate₁, hfirst⟩ := hpicks₁ hlate hboth.1
  obtain ⟨hlate₂, hrest⟩ := hpicks₂ hlate₁ hboth.2
  exact ⟨hlate₂, by rw [picksOf_append, hfirst, hrest]⟩

lemma Picks.last {picks : List (UInt8 × UInt8)} (h : Picks s t picks) (hlate : s.late = none)
    (hquiet : NoDiscovery (t.trace.drop s.trace.length)) :
    lastPick t.trace = (picksOf s.trace ++ picks).getLast? := by
  obtain ⟨new, htrace, hpicks⟩ := h
  rw [htrace, List.drop_left] at hquiet
  unfold lastPick
  rw [htrace, picksOf_append, (hpicks hlate hquiet).2]

end Picks

section Deliveries

lemma Reacts.picks {event : Event} {after : Host}
    (h : Reacts c event (s.record (.delivered event)) after t) : Picks s t [] := by
  cases h with
  | tells h =>
    obtain ⟨new, hnew, rfl⟩ := h
    refine ⟨⟨.delivered event, s.host.flags⟩ :: new, ?_, fun hlate _ => ⟨hlate, ?_⟩⟩
    · rw [System.record_trace, List.append_assoc]
      rfl
    · change picksOf new = []
      exact picksOf_telling hnew
  | holds notice hd hu =>
    refine ⟨[⟨.delivered event, s.host.flags⟩], rfl, fun _ hquiet => ?_⟩
    have hnone : isDiscovery event = false := hquiet event (.head _)
    rw [hnone] at hd
    exact absurd hd nofun
  | @asks host request h =>
    refine ⟨[⟨.delivered event, s.host.flags⟩,
      ⟨.request .reaction request (c.respond request s.controller).1.verdict, host.flags⟩], ?_,
      fun hlate hquiet => ⟨hlate, ?_⟩⟩
    · exact List.append_assoc s.trace _ _
    · have hnone : isDiscovery event = false := hquiet event (.head _)
      cases h with
      | disable h => rfl
      | select h =>
        rw [hnone] at h
        exact absurd h nofun

lemma deliver_picks (c : Controller σ) (happening : Happening) (s : System σ) :
    Picks s (c.deliver happening s) [] := by
  cases happening with
  | abortAll => exact picks_of_eq rfl rfl
  | abortSession => exact picks_of_eq rfl rfl
  | event event =>
    by_cases hn : s.receiver = .nobody
    · rw [deliver_nobody c hn]
      exact picks_of_eq rfl rfl
    · exact (deliver_reacts c hn event).picks

lemma follows_picks (c : Controller σ) : FollowsDeliveries c fun s t => Picks s t [] where
  refl _ := picks_of_eq rfl rfl
  trans := Picks.trans
  queue _ _ := picks_of_eq rfl rfl
  deliver s happening _ := deliver_picks c happening s

lemma pass_picks (c : Controller σ) (s : System σ) :
    Picks s ((Op.pass : Op σ Unit).run c.alone s).2 [] := by
  cases hlate : s.late with
  | none =>
    change Picks s (Op.pass c.alone s).2 []
    unfold Op.pass
    rw [hlate]
    exact (follows_picks c).attend s
  | some notice =>
    have hadds := (follows_adds c).pass (fun _ _ => adds_of_trace_eq rfl) s
    exact picks_of_late hadds (by rw [hlate]; nofun)

lemma release_picks (c : Controller σ) (s : System σ) : Picks s (c.release s) [] := by
  cases hlate : s.late with
  | none =>
    unfold Controller.release
    rw [hlate]
    exact picks_of_eq rfl rfl
  | some notice => exact picks_of_late (release_adds c s) (by rw [hlate]; nofun)

end Deliveries

section Exchanges

variable {α : Type} (c)

lemma exchange_picks (venue : Venue α) (request : Request) (s : System σ) :
    Picks s (exchange c venue request s).ended
      (pickOf (.request .caller request (exchange c venue request s).verdict)).toList := by
  let x := exchange c venue request s
  have hasked : Picks s x.asked (pickOf (.request .caller request x.verdict)).toList := by
    exact ⟨[_], rfl, fun hlate _ => ⟨hlate, picksOf_singleton _⟩⟩
  have hended : Picks x.asked x.ended [] := by
    change Picks x.asked (if x.verdict.isOk then _ else x.asked) []
    split
    · exact pass_picks c x.asked
    · exact picks_of_eq rfl rfl
  have hwhole := hasked.trans hended
  rw [List.append_nil] at hwhole
  exact hwhole

lemma call_picks (venue : Venue α) (request : Request) (s : System σ) :
    Picks s ((Op.call venue request).run c.alone s).2
      (pickOf (.request .caller request (exchange c venue request s).verdict)).toList := by
  rw [call_alone]
  exact exchange_picks c venue request s

/-- A selection whose completion arrived had been accepted. -/
lemma select_picks (venue : Venue α) (target : Connection) (s : System σ) (value : α)
    (h : ((Op.call venue (Tag.selectRequest target)).run c.alone s).1 = .completed value) :
    Picks s ((Op.call venue (Tag.selectRequest target)).run c.alone s).2
      [(target.handle, target.protocol)] := by
  have hpicks := call_picks c venue (Tag.selectRequest target) s
  rw [call_alone] at h
  dsimp only at h
  split at h
  · next hok =>
    have hpick : pickOf (.request .caller (Tag.selectRequest target)
        (exchange c venue (Tag.selectRequest target) s).verdict) =
          some (target.handle, target.protocol) := if_pos hok
    rw [hpick] at hpicks
    exact hpicks
  · exact absurd h nofun

lemma call_rejected (venue : Venue α) (request : Request) (s : System σ) (status : Status)
    (h : ((Op.call venue request).run c.alone s).1 = .rejected status) : status.isOk = false := by
  rw [call_alone] at h
  dsimp only at h
  split at h
  · unfold Rendezvous.outcome at h
    split at h
    · exact absurd h nofun
    · split at h
      · exact absurd h nofun
      · exact absurd h nofun
  · next hno =>
    obtain rfl := Outcome.rejected.inj h
    exact Bool.eq_false_iff.mpr hno

lemma await_picks (venue : Venue α) (s : System σ) :
    Picks s ((Op.await venue).run c.alone s).2 [] :=
  (pass_picks c s).trans (picks_of_eq rfl rfl)

lemma left_picks (s t : System σ) : Picks t (left c s t) [] := by
  unfold left
  dsimp only
  split
  · exact picks_of_eq rfl rfl
  · exact Picks.trans (picks_of_eq rfl rfl) (release_picks c _)

lemma holdingField_picks (bound : Host → UInt64) (op : Op σ α) {picks : List (UInt8 × UInt8)}
    {s : System σ} (h : Picks (entered bound s) (op.run c.alone (entered bound s)).2 picks) :
    Picks s ((Op.holdingField bound op).run c.alone s).2 picks := by
  rw [holdingField_alone]
  have hentered : Picks s (entered bound s) [] := picks_of_eq rfl rfl
  have hwhole := (hentered.trans h).trans (left_picks c s _)
  rw [List.append_nil] at hwhole
  exact hwhole

end Exchanges

section Targets

variable (c)

/-- A first selection that succeeded selected its target. -/
lemma tag_connect_picks (target : Connection) (s : System σ)
    (h : ((Tag.connect target).run c.alone s).1.isOk = true) :
    Picks s ((Tag.connect target).run c.alone s).2 [(target.handle, target.protocol)] := by
  unfold Tag.connect at h ⊢
  rw [whenReady_run] at h ⊢
  split at h
  · next hready =>
    rw [if_pos hready]
    refine holdingField_picks c _ _ ?_
    rw [holdingField_alone] at h
    dsimp only at h
    generalize entered Host.waitBound s = begun at h ⊢
    rw [Op.run_bind] at h ⊢
    have hselect := select_picks c Venue.select target begun
    have hrejected := call_rejected c Venue.select (Tag.selectRequest target) begun
    generalize (Op.call Venue.select (Tag.selectRequest target)).run c.alone begun = called
      at h hselect hrejected ⊢
    obtain ⟨outcome, after⟩ := called
    cases outcome with
    | rejected status =>
      have hok : status.isOk = true := h
      rw [hrejected status rfl] at hok
      exact absurd hok nofun
    | completed status =>
      cases status with
      | ok => exact (hselect .ok rfl).trans (picks_of_eq rfl rfl)
      | _ => exact absurd h Bool.false_ne_true
    | timedOut => exact absurd h nofun
    | aborted => exact absurd h nofun
  · exact absurd h nofun

/-- A further selection that succeeded selected its target. -/
lemma reselect_picks (target : Connection) (s : System σ)
    (h : ((Tag.reselect target).run c.alone s).1 = true) :
    Picks s ((Tag.reselect target).run c.alone s).2 [(target.handle, target.protocol)] := by
  unfold Tag.reselect at h ⊢
  rw [Op.run_bind, Op.run_update] at h ⊢
  have harmed : Picks s (s.mapHost (Venue.activated.map .arm)) [] := picks_of_eq rfl rfl
  generalize s.mapHost (Venue.activated.map .arm) = armed at h harmed ⊢
  refine harmed.trans ?_
  rw [Op.run_bind] at h ⊢
  have hselect := select_picks c Venue.select target armed
  generalize (Op.call Venue.select (Tag.selectRequest target)).run c.alone armed = called
    at h hselect ⊢
  obtain ⟨outcome, after⟩ := called
  cases outcome with
  | rejected status => exact absurd h nofun
  | completed status =>
    cases status with
    | ok =>
      refine (hselect .ok rfl).trans ?_
      dsimp only
      rw [Op.run_bind]
      have hawait := await_picks c Venue.activated after
      generalize (Op.await Venue.activated).run c.alone after = awaited at hawait ⊢
      obtain ⟨activation, active⟩ := awaited
      refine hawait.trans ?_
      dsimp only
      split
      · exact picks_of_eq rfl rfl
      · exact picks_of_eq rfl rfl
    | _ => exact absurd h nofun
  | timedOut => exact absurd h nofun
  | aborted => exact absurd h nofun

/-- Whether the session is connected under a protocol, to whichever target. -/
def connectedUnder (protocol : UInt8) (session : Session) : Bool :=
  session.connection.any fun connection => connection.protocol == protocol

/-- A reconnection that succeeded selected its target, unless the session was connected under the
protocol of the target. -/
lemma tag_reconnect_picks (target : Connection) (s : System σ)
    (h : ((Tag.reconnect target false).run c.alone s).1 = true) :
    Picks s ((Tag.reconnect target false).run c.alone s).2
      (if connectedUnder target.protocol s.host.session then []
        else [(target.handle, target.protocol)]) := by
  rw [← entered_session Host.waitBound s]
  unfold Tag.reconnect at h ⊢
  rw [whenReady_run] at h ⊢
  split at h
  · next hready =>
    rw [if_pos hready]
    refine holdingField_picks c _ _ ?_
    rw [holdingField_alone] at h
    dsimp only at h
    generalize entered Host.waitBound s = begun at h ⊢
    rw [Op.run_bind, Op.run_read] at h ⊢
    by_cases hunder : connectedUnder target.protocol begun.host.session = true
    · have hskips : (!false && begun.host.session.connection.any
          fun connection => connection.protocol == target.protocol) = true := hunder
      rw [if_pos hunder, if_pos hskips]
      exact picks_of_eq rfl rfl
    · have hasks : ¬(!false && begun.host.session.connection.any
          fun connection => connection.protocol == target.protocol) = true := hunder
      rw [if_neg hunder, if_neg hasks]
      rw [if_neg hasks] at h
      rw [Op.run_bind] at h ⊢
      have hasleep : Picks begun
          ((Op.call Venue.deactivated (.deactivate true)).run c.alone begun).2 [] :=
        call_picks c Venue.deactivated (.deactivate true) begun
      generalize (Op.call Venue.deactivated (.deactivate true)).run c.alone begun = called
        at h hasleep ⊢
      obtain ⟨outcome, asleep⟩ := called
      refine hasleep.trans ?_
      cases outcome with
      | rejected status => exact absurd h nofun
      | _ => exact reselect_picks c target asleep h
  · exact absurd h nofun

lemma endpoint_select_picks (connected : Bool) (slot : Slot) (s : System σ)
    (h : ((Endpoint.select connected slot).run c.alone s).1 = true) :
    Picks s ((Endpoint.select connected slot).run c.alone s).2
      (if connected && connectedUnder slot.protocol s.host.session then []
        else [(slot.handle, slot.protocol)]) := by
  cases connected with
  | true => exact tag_reconnect_picks c (Endpoint.target slot) s h
  | false => exact tag_connect_picks c (Endpoint.target slot) s h

end Targets

section Connecting

/-- What an operation does it also does while it has a resource, if taking the resource and giving it
back make no difference. -/
lemma reserving_does {α : Type} {R : System σ → α → System σ → Prop} {resource : Resource}
    {op : Op σ α} (h : ∀ s, R s (op.run c.alone s).1 (op.run c.alone s).2)
    (hfree : ∀ s a t, R (s.mapHost (takeResource resource)) a t →
      R s a (c.release (t.mapHost (giveBack s.host.inUse)))) (s : System σ) :
    R s ((Op.reserving resource op).run c.alone s).1 ((Op.reserving resource op).run c.alone s).2 := by
  rw [reserving_alone]
  split
  · exact h s
  · exact hfree s _ _ (h _)

/-- An endpoint connects to the slot its kind stands for, and selects it unless it was connected before
and the session is connected under the same protocol. -/
def ConnectsTo (number : Nat) (kind : TagKind) (s t : System σ) : Prop :=
  ∃ before position slot,
    s.host.endpoint? number = some before ∧ before.place? kind = some (position, slot) ∧
      t.host.endpoint? number =
        some { before with connected := some (slot.handle, position), present := true } ∧
      Picks s t (if before.connected.isSome && connectedUnder slot.protocol s.host.session then []
        else [(slot.handle, slot.protocol)])

lemma endpoint_connect_connects (c : Controller σ) (number : Nat) (kind : TagKind) (s : System σ) :
    ((Endpoint.connect number kind).run c.alone s).1 = true →
      ConnectsTo number kind s ((Endpoint.connect number kind).run c.alone s).2 := by
  refine reserving_does (R := fun s connected t => connected = true → ConnectsTo number kind s t)
    (fun s hdone => ?_) ?_ s
  · rw [Op.run_bind, Op.run_read] at hdone ⊢
    cases hbefore : s.host.endpoint? number with
    | none =>
      rw [hbefore] at hdone
      exact absurd hdone nofun
    | some before =>
      rw [hbefore] at hdone
      dsimp only at hdone ⊢
      cases hplace : before.place? kind with
      | none =>
        rw [hplace] at hdone
        exact absurd hdone nofun
      | some place =>
        obtain ⟨position, slot⟩ := place
        rw [hplace] at hdone
        dsimp only at hdone ⊢
        rw [Op.run_bind] at hdone ⊢
        have hselect := endpoint_select_picks c before.connected.isSome slot s
        have hsame := (endpoint_select_keepsTo (orderly_alone SparesEndpoints c)
          tagWork_sparesEndpoints before.connected.isSome slot s).same_endpoint hbefore
        generalize (Endpoint.select before.connected.isSome slot).run c.alone s = selected
          at hdone hselect hsame ⊢
        obtain ⟨selected, after⟩ := selected
        cases selected with
        | false => exact absurd hdone nofun
        | true =>
          refine ⟨before, position, slot, hbefore, hplace, ?_, ?_⟩
          · have hwritten := mapEndpoint_endpoint number number (fun endpoint =>
              { endpoint with connected := some (slot.handle, position), present := true }) after.host
            rw [show after.host.endpoint? number = some before from hsame, Option.map_some, if_pos rfl]
              at hwritten
            exact hwritten
          · have hwhole := (hselect rfl).trans (picks_of_eq rfl rfl : Picks after
              (after.mapHost (Host.mapEndpoint number fun endpoint =>
                { endpoint with connected := some (slot.handle, position), present := true })) [])
            rw [List.append_nil] at hwhole
            exact hwhole
  · rintro s connected t hconnects hdone
    obtain ⟨before, position, slot, hbefore, hplace, hafter, hpicks⟩ := hconnects hdone
    have hkept : EndpointsBy (fun _ before after => after = before)
        (t.mapHost (giveBack s.host.inUse)) (c.release (t.mapHost (giveBack s.host.inUse))) :=
      endpointsBy_of_prefix (fun _ _ => rfl) (release_gains c _).covers
    obtain ⟨last, hlast, rfl⟩ := hkept number _ hafter
    refine ⟨before, position, slot, hbefore, hplace, hlast, ?_⟩
    have htaken : Picks s (s.mapHost (takeResource (.endpoint number))) [] := picks_of_eq rfl rfl
    have hback : Picks t (t.mapHost (giveBack s.host.inUse)) [] := picks_of_eq rfl rfl
    have hwhole := (htaken.trans hpicks).trans (hback.trans (release_picks c _))
    simp only [List.append_nil, List.nil_append] at hwhole
    exact hwhole

lemma place_slot {endpoint : Endpoint} {kind : TagKind} {position : Nat} {slot : Slot}
    (h : endpoint.place? kind = some (position, slot)) : endpoint.slots[position]? = some slot := by
  unfold Endpoint.place? at h
  split at h
  · exact absurd h nofun
  · obtain ⟨found, hfound, heq⟩ := Option.map_eq_some_iff.mp h
    obtain ⟨rfl, rfl⟩ := Prod.mk.inj heq
    exact hfound

end Connecting

/-- An endpoint that connects while no discovery is reported has its slot selected at the end exactly if
it asked for that, or if the slot was selected all along. It does not ask if it was connected before and
the session is connected under the protocol of the slot, whichever target that is. -/
theorem connect_selects_iff (c : Controller σ) (companions : List (Companion σ)) (config : Config)
    (x : σ) (deeds : List Deed) (number : Nat) (kind : TagKind) :
    let s := ran c companions config x deeds
    let connected := (Endpoint.connect number kind).run c.alone s
    connected.1 = true → NoDiscovery (connected.2.trace.drop s.trace.length) →
      ∃ before after position slot,
        s.host.endpoint? number = some before ∧ connected.2.host.endpoint? number = some after ∧
          after.connected = some (slot.handle, position) ∧ after.slots[position]? = some slot ∧
          (lastPick connected.2.trace = some (slot.handle, slot.protocol) ↔
            ¬(before.connected.isSome && connectedUnder slot.protocol s.host.session) = true ∨
              lastPick s.trace = some (slot.handle, slot.protocol)) := by
  intro s connected hdone hquiet
  obtain ⟨-, hlate, -⟩ := ran_at_rest c companions config x deeds
  obtain ⟨before, position, slot, hbefore, hplace, hafter, hpicks⟩ :=
    endpoint_connect_connects c number kind s hdone
  have hslot : before.slots[position]? = some slot := place_slot hplace
  refine ⟨before, _, position, slot, hbefore, hafter, rfl, hslot, ?_⟩
  have hlast := hpicks.last hlate hquiet
  rw [hlast]
  by_cases hskips : (before.connected.isSome && connectedUnder slot.protocol s.host.session) = true
  · rw [if_pos hskips, List.append_nil]
    simp only [hskips, not_true_eq_false, false_or]
    rfl
  · rw [if_neg hskips, List.getLast?_append]
    simp [hskips]

/-- Two targets of one protocol come into the field; the second endpoint lists both. -/
def twoArrive : List Deed :=
  [.move (.call (.host (.setListener .recording))), .move (.call (.host .bringUp)),
    .move (.event (.activated (Sample.ultralight 1))),
    .move (.event (.activated (Sample.plainType2 2)))]

def twoInField : System Script := ran Script.controller [] {} {} twoArrive

/-- The first connection of the endpoint selects its slot. -/
theorem connect_selects_first :
    let connected := (Endpoint.connect 1 .mifareUltralight).run Script.controller.alone twoInField
    connected.1 = true ∧ NoDiscovery (connected.2.trace.drop twoInField.trace.length) ∧
      ∃ after position slot, connected.2.host.endpoint? 1 = some after ∧
        after.connected = some (slot.handle, position) ∧ after.slots[position]? = some slot ∧
        lastPick connected.2.trace = some (slot.handle, slot.protocol) := by
  intro connected
  have hevents : eventsOf (connected.2.trace.drop twoInField.trace.length) = [.selected .ok] := rfl
  have hquiet : NoDiscovery (connected.2.trace.drop twoInField.trace.length) := by
    unfold NoDiscovery
    rw [hevents]
    intro event hmem
    rw [List.mem_singleton.mp hmem]
    rfl
  refine ⟨rfl, hquiet, ?_⟩
  obtain ⟨before, after, position, slot, hbefore, hafter, hconnected, hslot, hselected⟩ :=
    connect_selects_iff Script.controller [] {} {} twoArrive 1 .mifareUltralight rfl hquiet
  have hfirst : before.connected = none :=
    (Option.some.inj (congrArg (Option.map Endpoint.connected) hbefore)).symm
  refine ⟨after, position, slot, hafter, hconnected, hslot, hselected.mpr (.inl ?_)⟩
  rw [hfirst]
  nofun

/-- Connecting it to the slot of the other target succeeds and leaves the first target selected. -/
theorem connect_keeps_other_target :
    let s := ran Script.controller [] {} {}
      (twoArrive ++ [.move (.call (.endpoint (some 1) (.connect .mifareUltralight)))])
    let connected := (Endpoint.connect 1 .isoDep).run Script.controller.alone s
    connected.1 = true ∧
      (connected.2.host.endpoint? 1).map (·.connected) = some (some (2, 1)) ∧
      (connected.2.host.endpoint? 1).bind (fun endpoint => (endpoint.slots[1]?).map fun slot =>
        (slot.handle, slot.protocol)) = some (2, Protocol.t2t) ∧
      lastPick connected.2.trace = some (1, Protocol.t2t) :=
  ⟨rfl, rfl, rfl, rfl⟩

end NfcStack.Proofs
