import NfcStack.Proofs.TagDiscoveries

/-!
# The hold on a tag

What the host holds of the tag in the field: that there is one, that it was put to sleep to be selected
again, and the connection to it. The entries of the trace account for all of that, up to what callers
change by themselves.
-/

namespace NfcStack.Proofs

variable {σ : Type}

section Entries

/-- What a host holds of the tag in the field. -/
structure TagHold where
  active : Bool := false
  reconnecting : Bool := false
  connection : Option Connection := none

def holdOf (host : Host) : TagHold where
  active := host.flags.tagActive
  reconnecting := host.flags.reconnecting
  connection := host.session.connection

namespace TagHold

/-- What an entry of the trace makes of the hold. -/
def enter (hold : TagHold) (entry : Entry) : TagHold :=
  match entry.passage with
  | .delivered (.activated act) =>
    if entry.flags.disabling || isForeign act then hold else { hold with active := true }
  | .delivered (.deactivated true) => { hold with reconnecting := true }
  | .delivered (.deactivated false) => {}
  | .request .reaction (.select target protocol _) _ =>
    { hold with connection := some ⟨target, protocol, .unknown⟩ }
  | _ => hold

def after (hold : TagHold) (entries : List Entry) : TagHold := entries.foldl enter hold

variable (hold : TagHold)

lemma after_append (first rest : List Entry) :
    hold.after (first ++ rest) = (hold.after first).after rest := List.foldl_append

lemma after_snoc (entries : List Entry) (entry : Entry) :
    hold.after (entries ++ [entry]) = (hold.after entries).enter entry := by
  rw [after_append]
  rfl

lemma after_same {entries : List Entry}
    (h : ∀ entry ∈ entries, ∀ hold : TagHold, hold.enter entry = hold) : hold.after entries = hold := by
  induction entries with
  | nil => rfl
  | cons first rest ih =>
    obtain ⟨hfirst, hrest⟩ := List.forall_mem_cons.mp h
    change (hold.enter first).after rest = hold
    rw [hfirst, ih hrest]

lemma enter_telling {entry : Entry} (h : OfTelling entry) : hold.enter entry = hold := by
  unfold OfTelling at h
  unfold enter
  split at h
  · next hp => rw [hp]
  · next hp => rw [hp]
  · exact h.elim

/-- Nothing comes of the report of a discovery by itself. -/
lemma enter_discovery {event : Event} (h : isDiscovery event = true) (flags : Flags) :
    hold.enter ⟨.delivered event, flags⟩ = hold := by
  cases event with
  | discovered status notice => rfl
  | _ => exact absurd h Bool.false_ne_true

end TagHold

end Entries

section Hosts

lemma OnlyWaits.hold {f : Host → Host} (h : OnlyWaits f) (host : Host) :
    holdOf (f host) = holdOf host := by
  change holdOf (unarmed (f host)) = holdOf (unarmed host)
  rw [h]

lemma collect_hold (notice : DiscoveryNotice) (host : Host) :
    holdOf (host.mapSession fun _ => (host.session.collect notice).2) = holdOf host := by
  obtain ⟨notices, hcollected⟩ := collect_shape host.session notice
  rw [hcollected]
  rfl

lemma admit_connection {act : Activation} {session next : Session} (h : session.admit? act = some next) :
    next.connection = session.connection := by
  obtain ⟨_, _, _, _, _, rfl⟩ := admit_shape h
  rfl

lemma hearActivation_hold (act : Activation) (host : Host) :
    holdOf (hearActivation act host) = (holdOf host).enter ⟨.delivered (.activated act), host.flags⟩ := by
  unfold hearActivation TagHold.enter
  dsimp only
  split
  · rfl
  · split
    · rfl
    · split
      · rfl
      · next session hsession =>
        have hconnection : session.connection = host.session.connection := admit_connection hsession
        unfold keepEndpoint
        split
        · simp [holdOf, hconnection]
        · simp [holdOf, hconnection]

lemma receive_connection (session : Session) (event : Event) :
    (session.receive event).connection = session.connection := by
  cases event with
  | data status bytes => cases status <;> rfl
  | _ => rfl

/-- What a delivered event makes of the hold, unless it reports a discovery. -/
lemma hear_hold {event : Event} (hd : isDiscovery event = false) (host : Host) :
    holdOf (hear event host) = (holdOf host).enter ⟨.delivered event, host.flags⟩ := by
  cases event with
  | activated act => exact hearActivation_hold act host
  | deactivated sleep => cases sleep <;> rfl
  | discovered status notice =>
    have hstatus : ¬status.isOk = true := Bool.eq_false_iff.mp hd
    have hsame : hear (.discovered status notice) host = host := if_neg hstatus
    rw [hsame]
    rfl
  | data status bytes =>
    unfold holdOf
    exact congrArg (TagHold.mk host.flags.tagActive host.flags.reconnecting)
      (receive_connection host.session (.data status bytes))
  | _ => rfl

end Hosts

section Accounts

variable {c : Controller σ} {P : Act → Prop} {r : TagHold → TagHold → Prop} {s t u : System σ}

/-- A comparison of holds that no entry of the trace and no change of a kind breaks. -/
structure Accounts (P : Act → Prop) (r : TagHold → TagHold → Prop) : Prop where
  refl : ∀ hold, r hold hold
  trans : ∀ {first next last}, r first next → r next last → r first last
  enter : ∀ {hold other} entry, r hold other → r (hold.enter entry) (other.enter entry)
  change : ∀ change, P (.change change) → ∀ host, r (holdOf (change.apply host)) (holdOf host)

lemma Accounts.after (hr : Accounts P r) {hold other : TagHold} (h : r hold other)
    (entries : List Entry) : r (hold.after entries) (other.after entries) := by
  induction entries generalizing hold other with
  | nil => exact h
  | cons first rest ih => exact ih (hr.enter first h)

/-- Acts that leave the hold alone make it no less than what the trace says. -/
lemma accounts_eq (h : ∀ change, P (.change change) → ∀ host, holdOf (change.apply host) = holdOf host) :
    Accounts P Eq where
  refl _ := rfl
  trans := Eq.trans
  enter _ := congrArg (TagHold.enter · _)
  change := h

/-- From one system to another the hold compares with what the new entries of the trace make of it,
whoever the host is that receives the events. -/
def GoesBy (r : TagHold → TagHold → Prop) (s t : System σ) : Prop :=
  s.receiver ≠ .session → t.receiver ≠ .session ∧
    ∃ new, t.trace = s.trace ++ new ∧ r (holdOf t.host) ((holdOf s.host).after new)

lemma GoesBy.trans (hr : Accounts P r) (h₁ : GoesBy r s t) (h₂ : GoesBy r t u) : GoesBy r s u := by
  intro hs
  obtain ⟨ht, new₁, htrace₁, hfirst⟩ := h₁ hs
  obtain ⟨hu, new₂, htrace₂, hrest⟩ := h₂ ht
  refine ⟨hu, new₁ ++ new₂, by rw [htrace₂, htrace₁, List.append_assoc], ?_⟩
  rw [TagHold.after_append]
  exact hr.trans hrest (hr.after hfirst new₂)

lemma goesBy_still (hreceiver : s.receiver ≠ .session → t.receiver ≠ .session)
    (htrace : t.trace = s.trace) (h : r (holdOf t.host) (holdOf s.host)) : GoesBy r s t :=
  fun hs => ⟨hreceiver hs, [], by rw [htrace, List.append_nil], h⟩

lemma Accounts.same (hr : Accounts P r) (hreceiver : t.receiver = s.receiver)
    (htrace : t.trace = s.trace) (hhold : holdOf t.host = holdOf s.host) : GoesBy r s t := by
  refine goesBy_still (fun hs => ?_) htrace ?_
  · rw [hreceiver]
    exact hs
  · rw [hhold]
    exact hr.refl _

lemma Accounts.entry (hr : Accounts P r) {entry : Entry}
    (hreceiver : s.receiver ≠ .session → t.receiver ≠ .session)
    (htrace : t.trace = s.trace ++ [entry]) (hhold : holdOf t.host = (holdOf s.host).enter entry) :
    GoesBy r s t := by
  refine fun hs => ⟨hreceiver hs, [entry], htrace, ?_⟩
  rw [hhold]
  exact hr.refl _

lemma Accounts.selectDiscovered (hr : Accounts P r) (target : DiscoveryNotice) (s : System σ) :
    GoesBy r s (c.selectDiscovered target s) :=
  hr.entry id rfl rfl

lemma Accounts.reactToNotice (hr : Accounts P r) (notice : DiscoveryNotice) (s : System σ) :
    GoesBy r s (c.reactToNotice notice s) := by
  have hcollected : GoesBy r s (s.mapHost (Host.mapSession fun _ => (s.host.session.collect notice).2)) :=
    hr.same rfl rfl (collect_hold notice s.host)
  unfold Controller.reactToNotice
  dsimp only
  split
  · exact hcollected
  · split
    · split
      · exact hcollected
      · exact hcollected
    · exact hcollected.trans hr (hr.selectDiscovered _ _)

lemma Accounts.reacts (hr : Accounts P r) {event : Event} (hd : isDiscovery event = false)
    (hreacts : Reacts c event (s.record (.delivered event)) (hear event s.host) t) : GoesBy r s t := by
  intro hs
  have hreceiver : t.receiver = s.receiver := hreacts.receiver
  have hheard := hear_hold hd s.host
  refine ⟨by rw [hreceiver]; exact hs, ?_⟩
  rw [hreacts.host, hheard]
  cases hreacts with
  | tells h =>
    obtain ⟨new, hnew, rfl⟩ := h
    refine ⟨⟨.delivered event, s.host.flags⟩ :: new, List.append_assoc _ _ _, ?_⟩
    change r _ (((holdOf s.host).enter ⟨.delivered event, s.host.flags⟩).after new)
    rw [TagHold.after_same _ fun entry hmem hold => hold.enter_telling (hnew entry hmem)]
    exact hr.refl _
  | holds notice h hu =>
    rw [hd] at h
    exact absurd h nofun
  | asks host h =>
    cases h with
    | disable h => exact ⟨_, List.append_assoc _ _ _, hr.refl _⟩
    | select h =>
      rw [hd] at h
      exact absurd h nofun

lemma Accounts.deliver (hr : Accounts P r) (happening : Happening) (s : System σ) :
    GoesBy r s (c.deliver happening s) := by
  cases happening with
  | abortAll => exact hr.same rfl rfl (waits_only_abortAll.hold s.host)
  | abortSession => exact hr.same rfl rfl (waits_only_abortSession.hold s.host)
  | event event =>
    intro hs
    cases hreceiver : s.receiver with
    | session => exact absurd hreceiver hs
    | nobody =>
      rw [deliver_nobody c hreceiver]
      exact hr.same rfl rfl rfl hs
    | host =>
      by_cases hd : isDiscovery event = true
      · have hrecorded : GoesBy r s (s.record (.delivered event)) :=
          hr.entry id rfl (TagHold.enter_discovery _ hd _).symm
        cases event with
        | discovered status notice =>
          have hdeliver : c.deliver (.event (.discovered status notice)) s =
              c.reactToNotice notice (s.record (.delivered (.discovered status notice))) := by
            simp only [Controller.deliver, hreceiver]
            exact if_pos hd
          rw [hdeliver]
          exact hrecorded.trans hr (hr.reactToNotice notice _) hs
        | _ => exact absurd hd Bool.false_ne_true
      · exact hr.reacts (Bool.eq_false_iff.mpr hd) (deliver_host c hreceiver event) hs

lemma Accounts.follows (hr : Accounts P r) : FollowsDeliveries c (GoesBy r) where
  refl _ := hr.same rfl rfl rfl
  trans h₁ h₂ := h₁.trans hr h₂
  queue _ _ := hr.same rfl rfl rfl
  deliver s happening _ := hr.deliver happening s

lemma Accounts.steps (hr : Accounts P r) : FollowsSteps c P (GoesBy r) where
  toFollowsDeliveries := hr.follows
  request request s _ _ := hr.entry (issue_not_session .caller request s) rfl rfl
  query _ := hr.entry id rfl rfl
  change change s hp := goesBy_still id rfl (hr.change change hp s.host)
  inUse _ _ := hr.same rfl rfl rfl
  heldUp _ := hr.same rfl rfl rfl
  late _ _ _ := hr.same rfl rfl rfl
  selects notice s _ := by
    have hdropped : GoesBy r s { s with late := none } := hr.same rfl rfl rfl
    exact hdropped.trans hr (hr.selectDiscovered notice.target _)

/-- The trace accounts for the hold on the tag up to what callers change. -/
theorem Evolves.goesBy (hr : Accounts P r) (h : Evolves c P s t) : GoesBy r s t := hr.steps.evolves h

end Accounts

section Marks

/-- The host takes note of a tag. -/
def notesTag (entry : Entry) : Bool :=
  match entry.passage with
  | .delivered (.activated act) => !(entry.flags.disabling || isForeign act)
  | _ => false

/-- The tag was put to sleep. -/
def putsToSleep (entry : Entry) : Bool :=
  match entry.passage with
  | .delivered (.deactivated true) => true
  | _ => false

/-- The field was reported empty. -/
def reportsEmpty (entry : Entry) : Bool :=
  match entry.passage with
  | .delivered event => emptiesField event
  | _ => false

/-- The target that the host selects by itself, and takes for connected before the controller answers. -/
def picksDiscovered (entry : Entry) : Option Connection :=
  match entry.passage with
  | .request .reaction (.select target protocol _) _ => some ⟨target, protocol, .unknown⟩
  | _ => none

/-- Whether a mark stands that some entries set and others clear. -/
def stands (sets clears : Entry → Bool) (entries : List Entry) (before : Bool) : Bool :=
  (sinceLast clears entries).any sets || (before && !entries.any clears)

lemma stands_snoc (sets clears : Entry → Bool) (entries : List Entry) (entry : Entry) (before : Bool) :
    stands sets clears (entries ++ [entry]) before =
      (!clears entry && (stands sets clears entries before || sets entry)) := by
  unfold stands
  cases hclears : clears entry with
  | true =>
    rw [sinceLast_self hclears]
    simp [hclears]
  | false =>
    rw [sinceLast_other hclears]
    simp [hclears, Bool.or_right_comm]

namespace TagHold

variable (hold : TagHold)

/-- What an entry makes of the two marks of the hold. -/
lemma enter_marks (entry : Entry) :
    (hold.enter entry).active = (!reportsEmpty entry && (hold.active || notesTag entry)) ∧
      (hold.enter entry).reconnecting =
        (!reportsEmpty entry && (hold.reconnecting || putsToSleep entry)) := by
  obtain ⟨passage, flags⟩ := entry
  cases passage with
  | delivered event =>
    cases event with
    | activated act =>
      unfold enter notesTag putsToSleep reportsEmpty emptiesField
      dsimp only
      cases flags.disabling || isForeign act <;> simp
    | deactivated sleep =>
      cases sleep <;> simp [enter, reportsEmpty, emptiesField, notesTag, putsToSleep]
    | _ => simp [enter, reportsEmpty, emptiesField, notesTag, putsToSleep]
  | request origin request verdict =>
    cases origin with
    | caller => simp [enter, reportsEmpty, notesTag, putsToSleep]
    | reaction => cases request <;> simp [enter, reportsEmpty, notesTag, putsToSleep]
  | notified notification => simp [enter, reportsEmpty, notesTag, putsToSleep]

lemma after_active (entries : List Entry) :
    (hold.after entries).active = stands notesTag reportsEmpty entries hold.active := by
  induction entries using List.reverseRecOn with
  | nil => exact (Bool.and_true _).symm
  | append_singleton entries entry ih => rw [after_snoc, (enter_marks _ entry).1, ih, stands_snoc]

lemma after_reconnecting (entries : List Entry) :
    (hold.after entries).reconnecting = stands putsToSleep reportsEmpty entries hold.reconnecting := by
  induction entries using List.reverseRecOn with
  | nil => exact (Bool.and_true _).symm
  | append_singleton entries entry ih => rw [after_snoc, (enter_marks _ entry).2, ih, stands_snoc]

/-- What an entry makes of the connection. -/
lemma enter_connection (entry : Entry) :
    (hold.enter entry).connection =
      if reportsEmpty entry then none else (picksDiscovered entry).or hold.connection := by
  obtain ⟨passage, flags⟩ := entry
  cases passage with
  | delivered event =>
    cases event with
    | activated act =>
      unfold enter
      dsimp only
      split
      · rfl
      · rfl
    | deactivated sleep => cases sleep <;> rfl
    | _ => rfl
  | request origin request verdict =>
    cases origin with
    | caller => rfl
    | reaction => cases request <;> rfl
  | notified notification => rfl

/-- The connection is to the last target that the host selected by itself since the field was empty, and
otherwise the one it was. -/
lemma after_connection (entries : List Entry) :
    (hold.after entries).connection =
      ((sinceLast reportsEmpty entries).filterMap picksDiscovered).getLast?.or
        (if entries.any reportsEmpty then none else hold.connection) := by
  induction entries using List.reverseRecOn with
  | nil => rfl
  | append_singleton entries entry ih =>
    rw [after_snoc, enter_connection, ih, List.any_append]
    cases hempty : reportsEmpty entry with
    | true =>
      rw [sinceLast_self hempty]
      simp [hempty]
    | false =>
      rw [sinceLast_other hempty, List.filterMap_append, List.getLast?_append]
      cases hpick : picksDiscovered entry with
      | none => simp [hempty, hpick]
      | some target => simp [hempty, hpick]

end TagHold

/-- One hold has no mark that the other has not. -/
structure NoMore (hold other : TagHold) : Prop where
  active : hold.active = true → other.active = true
  reconnecting : hold.reconnecting = true → other.reconnecting = true

lemma change_noMore (change : Change) (host : Host) :
    NoMore (holdOf (change.apply host)) (holdOf host) := by
  cases change with
  | waits f h =>
    have hsame : holdOf (f host) = holdOf host := h.hold host
    change NoMore (holdOf (f host)) (holdOf host)
    rw [hsame]
    exact ⟨id, id⟩
  | welcome act =>
    change NoMore (holdOf (welcomed act host)) (holdOf host)
    unfold welcomed
    split
    · exact ⟨id, id⟩
    · exact ⟨id, id⟩
  | discoveryBegun => exact ⟨id, nofun⟩
  | settled => exact ⟨id, nofun⟩
  | down => exact ⟨nofun, nofun⟩
  | _ => exact ⟨id, id⟩

lemma mark_entered {clears sets mark other : Bool} (h : mark = true → other = true)
    (hset : (!clears && (mark || sets)) = true) : (!clears && (other || sets)) = true := by
  rw [Bool.and_eq_true, Bool.or_eq_true] at hset ⊢
  exact ⟨hset.1, hset.2.imp_left h⟩

/-- Callers clear marks and set none. -/
lemma accounts_noMore : Accounts (fun _ => True) NoMore where
  refl _ := ⟨id, id⟩
  trans h₁ h₂ := ⟨fun h => h₂.active (h₁.active h), fun h => h₂.reconnecting (h₁.reconnecting h)⟩
  enter := by
    intro hold other entry h
    obtain ⟨hactive, hreconnecting⟩ := hold.enter_marks entry
    obtain ⟨hactive', hreconnecting'⟩ := other.enter_marks entry
    refine ⟨fun hset => ?_, fun hset => ?_⟩
    · rw [hactive] at hset
      rw [hactive']
      exact mark_entered h.active hset
    · rw [hreconnecting] at hset
      rw [hreconnecting']
      exact mark_entered h.reconnecting hset
  change change _ host := change_noMore change host

lemma stands_fresh (sets clears : Entry → Bool) (entries : List Entry) :
    stands sets clears entries false = true ↔ ∃ entry ∈ sinceLast clears entries, sets entry = true := by
  unfold stands
  rw [Bool.false_and, Bool.or_false, List.any_eq_true]

/-- In a run a mark is there only if it was set since the field was empty. -/
theorem ran_marks (c : Controller σ) (companions : List (Companion σ)) (config : Config) (x : σ)
    (deeds : List Deed) :
    let s := ran c companions config x deeds
    (s.host.flags.tagActive = true → ∃ entry ∈ sinceLast reportsEmpty s.trace, notesTag entry = true) ∧
      (s.host.flags.reconnecting = true →
        ∃ entry ∈ sinceLast reportsEmpty s.trace, putsToSleep entry = true) := by
  intro s
  have hevolves : Evolves c (fun _ => True) (booted config x) s :=
    ran_evolves (fun _ => trivial) c companions config x deeds
  obtain ⟨-, new, htrace, hmarks⟩ := hevolves.goesBy accounts_noMore nofun
  have hnew : s.trace = new := htrace
  rw [hnew]
  refine ⟨fun hset => ?_, fun hset => ?_⟩
  · have hstands := hmarks.active hset
    rw [TagHold.after_active] at hstands
    exact (stands_fresh _ _ _).mp hstands
  · have hstands := hmarks.reconnecting hset
    rw [TagHold.after_reconnecting] at hstands
    exact (stands_fresh _ _ _).mp hstands

end Marks

end NfcStack.Proofs
