import NfcStack.Proofs.RadioOrders

/-!
# Discoveries with several targets

A controller that finds several targets announces them one by one, and says with each whether more follow.
The last one closes the burst: the host selects the first target of it that a reader can select. While
nobody uses the radio field the selections are read off the events that are delivered.
-/

namespace NfcStack.Proofs

variable {σ : Type} {c : Controller σ} {s t u : System σ}

section Bursts

def noticed : Event → Option DiscoveryNotice
  | .discovered status notice => if status.isOk then some notice else none
  | _ => none

/-- What ends a burst: its last notice, or that the tag left the field of a host. -/
def endsBurst (receiver : Receiver) (event : Event) : Bool :=
  (noticed event).any (!·.more) || (receiver == .host && emptiesField event)

/-- The notices of the burst that is under way, if these were open before the events. -/
def burst (receiver : Receiver) (opened : List DiscoveryNotice) (events : List Event) :
    List DiscoveryNotice :=
  (if events.any (endsBurst receiver) then [] else opened) ++
    (sinceLast (endsBurst receiver) events).filterMap noticed

variable (receiver : Receiver) (opened : List DiscoveryNotice)

/-- The notices that are open after one more event. -/
def openAfter (event : Event) : List DiscoveryNotice :=
  if endsBurst receiver event then [] else opened ++ (noticed event).toList

lemma burst_nil : burst receiver opened [] = opened := List.append_nil _

lemma burst_snoc (events : List Event) (event : Event) :
    burst receiver opened (events ++ [event]) =
      openAfter receiver (burst receiver opened events) event := by
  unfold burst openAfter
  cases hends : endsBurst receiver event with
  | true =>
    rw [sinceLast_self hends, List.any_append, List.any_cons, hends, Bool.true_or, Bool.or_true]
    rfl
  | false =>
    rw [sinceLast_other hends, List.filterMap_append, List.any_append, List.any_cons, hends, List.any_nil,
      Bool.or_false, Bool.or_false, if_neg Bool.false_ne_true, List.append_assoc]
    cases hnoticed : noticed event with
    | none => simp [hnoticed]
    | some notice => simp [hnoticed]

lemma burst_append (events later : List Event) :
    burst receiver opened (events ++ later) = burst receiver (burst receiver opened events) later := by
  induction later using List.reverseRecOn with
  | nil => rw [List.append_nil, burst_nil]
  | append_singleton later event ih => rw [← List.append_assoc, burst_snoc, ih, burst_snoc]

/-- What counts when selections are watched: that an event is delivered, and that a target is selected. -/
inductive Beat where
  | heard (event : Event)
  | selects (target protocol interface : UInt8)
  deriving DecidableEq

def beatOf : Passage → Option Beat
  | .delivered event => some (.heard event)
  | .request _ (.select target protocol interface) _ => some (.selects target protocol interface)
  | _ => none

def beatsOf (trace : List Entry) : List Beat := trace.filterMap fun entry => beatOf entry.passage

lemma beatsOf_append (first rest : List Entry) : beatsOf (first ++ rest) = beatsOf first ++ beatsOf rest :=
  List.filterMap_append

/-- The selection of a target. -/
def selectionOf (target : DiscoveryNotice) : Beat :=
  .selects target.target target.protocol (interfaceFor target.protocol)

/-- The selection that is due at an event, given the burst that is under way. -/
def dueAt (pending : List DiscoveryNotice) (event : Event) : Option Beat :=
  match noticed event with
  | some notice =>
    if notice.more then none
    else ((pending ++ [notice]).find? fun found => found.protocol != Protocol.nfcDep).map selectionOf
  | none => none

/-- Events one after the other, each with the selection that is due at it. -/
def score (before : List Event) : List Event → List Beat
  | [] => []
  | event :: rest =>
    .heard event :: (dueAt (burst receiver opened before) event).toList ++ score (before ++ [event]) rest

lemma score_append (before events later : List Event) :
    score receiver opened before (events ++ later) =
      score receiver opened before events ++ score receiver opened (before ++ events) later := by
  induction events generalizing before with
  | nil => rw [List.append_nil]; rfl
  | cons event rest ih =>
    rw [List.cons_append, score, ih, score, List.append_assoc, List.append_assoc, List.singleton_append]

/-- Of what came before only the burst that is under way counts. -/
lemma score_since (before middle events : List Event) :
    score receiver opened (before ++ middle) events =
      score receiver (burst receiver opened before) middle events := by
  induction events generalizing middle with
  | nil => rfl
  | cons event rest ih => rw [score, score, burst_append, List.append_assoc, ih]

end Bursts

section Deliveries

lemma collect_found (session : Session) (notice : DiscoveryNotice) :
    (session.collect notice).1 =
      if notice.more then none
      else (session.notices ++ [notice]).find? fun found => found.protocol != Protocol.nfcDep := by
  unfold Session.collect
  dsimp only
  split
  · rfl
  · rfl

lemma collect_notices (session : Session) (notice : DiscoveryNotice) :
    (session.collect notice).2.notices = if notice.more then session.notices ++ [notice] else [] := by
  unfold Session.collect
  dsimp only
  split
  · rfl
  · rfl

lemma hearNotice_notices (notice : DiscoveryNotice) (host : Host) :
    (hearNotice notice host).session.notices =
      if notice.more then host.session.notices ++ [notice] else [] := by
  rw [← collect_notices]
  unfold hearNotice
  dsimp only
  split
  · rfl
  · split
    · rfl
    · rfl

lemma openAfter_notice (receiver : Receiver) (opened : List DiscoveryNotice) {status : Status}
    (hok : status.isOk = true) (notice : DiscoveryNotice) :
    openAfter receiver opened (.discovered status notice) =
      if notice.more then opened ++ [notice] else [] := by
  have hnoticed : noticed (.discovered status notice) = some notice := if_pos hok
  unfold openAfter endsBurst
  rw [hnoticed]
  cases hmore : notice.more with
  | true => simp [hmore, emptiesField]
  | false => simp [hmore]

lemma hearActivation_notices (act : Activation) (host : Host) :
    (hearActivation act host).session.notices = host.session.notices := by
  refine hearActivation_session (P := fun session => session.notices = host.session.notices) act host rfl rfl ?_
  intro session hadmitted
  obtain ⟨_, _, _, _, _, rfl⟩ := admit_shape hadmitted
  rfl

lemma discovered_notices (receiver : Receiver) (status : Status) (notice : DiscoveryNotice) (host : Host) :
    (if status.isOk then hearNotice notice host else host).session.notices =
      openAfter receiver host.session.notices (.discovered status notice) := by
  by_cases hok : status.isOk = true
  · rw [if_pos hok, hearNotice_notices, openAfter_notice receiver _ hok]
  · have hnoticed : noticed (.discovered status notice) = none := if_neg hok
    unfold openAfter endsBurst
    rw [if_neg hok, hnoticed]
    simp [emptiesField]

/-- Which notices are open after an event. -/
lemma hearAs_notices {receiver : Receiver} (hn : receiver ≠ .nobody) (event : Event) (host : Host) :
    (hearAs receiver event host).session.notices = openAfter receiver host.session.notices event := by
  cases receiver with
  | nobody => exact absurd rfl hn
  | host =>
    cases event with
    | discovered status notice => exact discovered_notices .host status notice host
    | activated act => exact (hearActivation_notices act host).trans (List.append_nil _).symm
    | deactivated sleep =>
      cases sleep with
      | false => rfl
      | true => exact (List.append_nil _).symm
    | data status bytes => cases status <;> exact (List.append_nil _).symm
    | _ => exact (List.append_nil _).symm
  | session =>
    cases event with
    | discovered status notice => exact discovered_notices .session status notice host
    | data status bytes => cases status <;> exact (List.append_nil _).symm
    | _ => exact (List.append_nil _).symm

lemma beatsOf_telling {trace : List Entry} (h : ∀ entry ∈ trace, OfTelling entry) :
    beatsOf trace = [] := by
  refine List.filterMap_eq_nil_iff.mpr fun entry hentry => ?_
  have hof := h entry hentry
  unfold OfTelling at hof
  split at hof
  · next hp => rw [hp]; rfl
  · next hp => rw [hp]; rfl
  · exact hof.elim

lemma noticed_none {event : Event} (h : noticed event = none) : isDiscovery event = false := by
  cases event with
  | discovered status notice =>
    rw [Bool.eq_false_iff]
    intro hok
    exact absurd ((if_pos hok).symm.trans h) nofun
  | _ => rfl

/-- What a reaction to anything but a notice leaves in the trace. -/
lemma Reacts.selects_nothing {event : Event} {after : Host} (h : Reacts c event s after t)
    (hnoticed : noticed event = none) :
    ∃ new, t.trace = s.trace ++ new ∧ eventsOf new = [] ∧ beatsOf new = [] := by
  have hother := noticed_none hnoticed
  cases h with
  | tells h =>
    obtain ⟨new, hnew, rfl⟩ := h
    exact ⟨new, rfl, eventsOf_reaction fun entry hentry => (hnew entry hentry).ofReaction, beatsOf_telling hnew⟩
  | holds notice hd hu => exact absurd (hother.symm.trans hd) nofun
  | asks host h =>
    cases h with
    | disable h => exact ⟨[_], rfl, rfl, rfl⟩
    | select hd => exact absurd (hother.symm.trans hd) nofun

/-- While nobody uses the radio field the reaction to a notice is the selection that is due. -/
lemma reactToNotice_selects (hu : s.host.usesField = false) {status : Status} (hok : status.isOk = true)
    (notice : DiscoveryNotice) :
    ∃ new, (c.reactToNotice notice s).trace = s.trace ++ new ∧ eventsOf new = [] ∧
      beatsOf new = (dueAt s.host.session.notices (.discovered status notice)).toList := by
  have hnoticed : noticed (.discovered status notice) = some notice := if_pos hok
  have hdue : dueAt s.host.session.notices (.discovered status notice) =
      ((s.host.session.collect notice).1).map selectionOf := by
    rw [collect_found]
    unfold dueAt
    rw [hnoticed]
    dsimp only
    split
    · rfl
    · rfl
  rw [hdue]
  unfold Controller.reactToNotice
  dsimp only [System.mapHost]
  cases (s.host.session.collect notice).1 with
  | none => exact ⟨[], (List.append_nil _).symm, rfl, rfl⟩
  | some target =>
    have hfree : ¬(s.host.mapSession fun _ => (s.host.session.collect notice).2).usesField = true := by
      rw [Bool.not_eq_true]
      exact hu
    dsimp only
    rw [if_neg hfree]
    exact ⟨[_], rfl, rfl, rfl⟩

lemma deliver_beats (hu : s.host.usesField = false) (hn : s.receiver ≠ .nobody) (event : Event) :
    ∃ new, (c.deliver (.event event) s).trace = s.trace ++ new ∧ eventsOf new = [event] ∧
      beatsOf new = .heard event :: (dueAt s.host.session.notices event).toList := by
  -- Behind the entry of the delivery stands what the reaction leaves.
  suffices hreaction : ∃ new, (c.deliver (.event event) s).trace =
      (s.record (.delivered event)).trace ++ new ∧ eventsOf new = [] ∧
        beatsOf new = (dueAt s.host.session.notices event).toList by
    obtain ⟨new, htrace, hevents, hbeats⟩ := hreaction
    refine ⟨⟨.delivered event, s.host.flags⟩ :: new, ?_, ?_, ?_⟩
    · rw [htrace, System.record_trace, List.append_assoc]
      rfl
    · change event :: eventsOf new = _
      rw [hevents]
    · change .heard event :: beatsOf new = _
      rw [hbeats]
  cases hnoticed : noticed event with
  | none =>
    obtain ⟨new, htrace, hevents, hbeats⟩ := (deliver_reacts c hn event).selects_nothing hnoticed
    refine ⟨new, htrace, hevents, hbeats.trans ?_⟩
    unfold dueAt
    rw [hnoticed]
    rfl
  | some found =>
    cases event with
    | discovered status notice =>
      have hok : status.isOk = true := by
        by_contra hnot
        exact absurd ((if_neg hnot).symm.trans hnoticed) nofun
      have hdeliver : c.deliver (.event (.discovered status notice)) s =
          c.reactToNotice notice (s.record (.delivered (.discovered status notice))) := by
        unfold Controller.deliver
        cases hr : s.receiver with
        | nobody => exact absurd hr hn
        | host => exact if_pos hok
        | session => exact if_pos hok
      rw [hdeliver]
      exact reactToNotice_selects (s := s.record _) hu hok notice
    | _ => exact absurd hnoticed nofun

end Deliveries

section Runs

/-- From one system to another the selections were those due, as long as nobody uses the radio field. -/
def SelectsDue (s t : System σ) : Prop :=
  Free s → s.receiver ≠ .nobody → Free t ∧ t.receiver = s.receiver ∧
    ∃ new, t.trace = s.trace ++ new ∧
      beatsOf new = score s.receiver s.host.session.notices [] (eventsOf new) ∧
      t.host.session.notices = burst s.receiver s.host.session.notices (eventsOf new)

lemma selectsDue_of_eq (hfree : Free s → Free t) (hreceiver : t.receiver = s.receiver)
    (htrace : t.trace = s.trace) (hnotices : t.host.session.notices = s.host.session.notices) :
    SelectsDue s t :=
  fun hf _ => ⟨hfree hf, hreceiver, [], by rw [htrace, List.append_nil], rfl,
    hnotices.trans (burst_nil _ _).symm⟩

lemma SelectsDue.trans (h₁ : SelectsDue s t) (h₂ : SelectsDue t u) : SelectsDue s u := by
  intro hf hn
  obtain ⟨hf₁, hr₁, new₁, htrace₁, hbeats₁, hnotices₁⟩ := h₁ hf hn
  obtain ⟨hf₂, hr₂, new₂, htrace₂, hbeats₂, hnotices₂⟩ := h₂ hf₁ (by rw [hr₁]; exact hn)
  rw [hr₁, hnotices₁] at hbeats₂ hnotices₂
  refine ⟨hf₂, hr₂.trans hr₁, new₁ ++ new₂, by rw [htrace₂, htrace₁, List.append_assoc], ?_, ?_⟩
  · have hsince := score_since s.receiver s.host.session.notices (eventsOf new₁) [] (eventsOf new₂)
    rw [List.append_nil] at hsince
    rw [beatsOf_append, hbeats₁, hbeats₂, eventsOf_append, score_append, List.nil_append, hsince]
  · rw [hnotices₂, eventsOf_append, burst_append]

lemma deliver_selectsDue (happening : Happening) (s : System σ) :
    SelectsDue s (c.deliver happening s) := by
  cases happening with
  | abortAll => exact selectsDue_of_eq (deliver_free (c := c) .abortAll) rfl rfl rfl
  | abortSession => exact selectsDue_of_eq (deliver_free (c := c) .abortSession) rfl rfl rfl
  | event event =>
    intro hf hn
    obtain ⟨new, htrace, hevents, hbeats⟩ := deliver_beats (c := c) hf.2 hn event
    refine ⟨deliver_free _ hf, deliver_receiver c _ s, new, htrace, ?_, ?_⟩
    · rw [hbeats, hevents, score, burst_nil, score, List.append_nil]
    · rw [(deliver_reacts c hn event).host, hearAs_notices hn, hevents]
      have hone := burst_snoc s.receiver s.host.session.notices [] event
      rw [burst_nil] at hone
      exact hone.symm

lemma follows_selectsDue (c : Controller σ) : FollowsDeliveries c SelectsDue where
  refl _ := selectsDue_of_eq id rfl rfl rfl
  trans := SelectsDue.trans
  queue _ _ := selectsDue_of_eq id rfl rfl rfl
  deliver s happening _ := deliver_selectsDue happening s

lemma reports_selectsDue (events : List Event) (s : System σ) :
    SelectsDue s (afterDeeds c (reports events) s) := by
  induction events generalizing s with
  | nil => exact selectsDue_of_eq id rfl rfl rfl
  | cons event rest ih =>
    have harrived : SelectsDue s (s.arrive event) := by
      unfold System.arrive
      split
      · exact selectsDue_of_eq id rfl rfl rfl
      · exact selectsDue_of_eq id rfl rfl rfl
    rw [afterDeeds_report]
    exact (harrived.trans ((follows_selectsDue c).attend _)).trans (ih _)

/-- Events are reported while nobody uses the radio field. Each is delivered, in order, and what is selected
meanwhile can be read off: at the last notice of a burst the first of its targets is selected that is no peer
device, over the interface of its protocol, if there is one, and nothing at any other event. A burst is made of
the notices since the last burst ended, or since the tag left the field of a host; the first one also of those
that were open before. -/
theorem bursts_select_first_target (hf : Free s) (hn : s.receiver ≠ .nobody) (events : List Event) :
    let opened := s.host.session.notices
    let t := afterDeeds c (reports events) s
    ∃ new, t.trace = s.trace ++ new ∧ events.Sublist (eventsOf new) ∧
      beatsOf new = score s.receiver opened [] (eventsOf new) ∧
      t.host.session.notices = burst s.receiver opened (eventsOf new) := by
  intro opened t
  obtain ⟨-, -, new, htrace, hbeats, hnotices⟩ := reports_selectsDue (c := c) events s hf hn
  obtain ⟨delivered, hsub, hdelivered⟩ := reports_delivered (c := c) events hf hn
  have hsame : eventsOf new = delivered := by
    rw [htrace, eventsOf_append] at hdelivered
    exact List.append_cancel_left hdelivered
  exact ⟨new, htrace, hsame ▸ hsub, hbeats, hnotices⟩

def noticeOf (target protocol : UInt8) (more : Bool) : Event := .discovered .ok ⟨target, protocol, more⟩

/-- A burst with a peer device and two tags, one of a peer device alone, and one that is cut short. -/
def threeBursts : List Event :=
  [noticeOf 1 Protocol.nfcDep true, noticeOf 2 Protocol.isoDep true, noticeOf 3 Protocol.t2t false,
    noticeOf 4 Protocol.nfcDep false, noticeOf 5 Protocol.isoDep true, .deactivated false,
    noticeOf 6 Protocol.t2t false]

def burstsOver : System Script := afterDeeds Script.controller (reports threeBursts) (upWith {})

/-- Of the first burst the first tag is selected, of the second none, and nothing is left of the third when
the next one comes. -/
theorem first_tags_selected :
    beatsOf (burstsOver.trace.drop (upWith {}).trace.length) =
      [.heard (noticeOf 1 Protocol.nfcDep true), .heard (noticeOf 2 Protocol.isoDep true),
        .heard (noticeOf 3 Protocol.t2t false), .selects 2 Protocol.isoDep 0x02,
        .heard (.selected .ok), .heard (noticeOf 4 Protocol.nfcDep false),
        .heard (noticeOf 5 Protocol.isoDep true), .heard (.deactivated false),
        .heard (noticeOf 6 Protocol.t2t false), .selects 6 Protocol.t2t 0x01,
        .heard (.selected .ok)] := by
  have hfree : Free (upWith {}) := ran_free Script.controller [] {} {} firstBringUp
  have hreceiver : (upWith {}).receiver = .host := rfl
  obtain ⟨new, htrace, -, hbeats, -⟩ :=
    bursts_select_first_target (c := Script.controller) hfree (receives_of_host hreceiver) threeBursts
  have hnew : burstsOver.trace.drop (upWith {}).trace.length = new := trace_since htrace
  have hevents : eventsOf (burstsOver.trace.drop (upWith {}).trace.length) =
      [noticeOf 1 Protocol.nfcDep true, noticeOf 2 Protocol.isoDep true, noticeOf 3 Protocol.t2t false,
        .selected .ok, noticeOf 4 Protocol.nfcDep false, noticeOf 5 Protocol.isoDep true, .deactivated false,
        noticeOf 6 Protocol.t2t false, .selected .ok] := by decide +kernel
  rw [hnew] at hevents ⊢
  rw [hbeats, hreceiver, hevents]
  decide +kernel

end Runs

end NfcStack.Proofs
