import NfcStack.Proofs.Procedures
import NfcStack.Proofs.TagDiscoveries

/-!
# Waits that are aborted

An abort reaches every rendezvous of the session that is waited at, and whatever is delivered after it, the
wait ends as aborted unless something completes it. Operations of the session then fail and record no
connection. Two waits are taken otherwise: a reconnection goes on when the wait for the sleep of the tag is
aborted, as it does when that wait runs out, and an exchange that looks like a refusal of the frame when it
is aborted is repeated.
-/

namespace NfcStack.Proofs

variable {σ α β : Type}

section Flags

/-- A rendezvous that is waited at goes on to be, and one that was aborted stays so. -/
def Lasts (r r' : Rendezvous α) : Prop :=
  r.armed = true → r'.armed = true ∧ (r.aborted = true → r'.aborted = true)

lemma lasts_refl (r : Rendezvous α) : Lasts r r := fun h => ⟨h, id⟩

lemma Lasts.trans {r r' r'' : Rendezvous α} (h₁ : Lasts r r') (h₂ : Lasts r' r'') : Lasts r r'' := by
  intro harmed
  obtain ⟨harmed', haborted'⟩ := h₁ harmed
  obtain ⟨harmed'', haborted''⟩ := h₂ harmed'
  exact ⟨harmed'', fun h => haborted'' (haborted' h)⟩

lemma lasts_notify (value : α) (r : Rendezvous α) : Lasts r (r.notify value) := by
  intro harmed
  unfold Rendezvous.notify
  rw [if_pos harmed]
  exact ⟨harmed, id⟩

lemma lasts_abort (r : Rendezvous α) : Lasts r r.abort := by
  intro harmed
  unfold Rendezvous.abort
  rw [if_pos harmed]
  exact ⟨harmed, fun _ => rfl⟩

/-- All rendezvous of the session last. -/
def AllLast (host host' : Host) : Prop :=
  ∀ station : Station, Lasts (station.venue.view host) (station.venue.view host')

lemma allLast_refl (host : Host) : AllLast host host := fun _ => lasts_refl _

lemma AllLast.trans {host host' host'' : Host} (h₁ : AllLast host host') (h₂ : AllLast host' host'') :
    AllLast host host'' := fun station => (h₁ station).trans (h₂ station)

lemma Station.view_map_self (station : Station)
    (f : Rendezvous station.Value → Rendezvous station.Value) (host : Host) :
    station.venue.view (station.venue.map f host) = f (station.venue.view host) := by
  cases station <;> rfl

lemma Station.view_map_other {station other : Station} (h : other ≠ station)
    (f : Rendezvous station.Value → Rendezvous station.Value) (host : Host) :
    other.venue.view (station.venue.map f host) = other.venue.view host := by
  cases station <;> cases other <;> first | rfl | exact absurd rfl h

lemma allLast_notify (station : Station) (value : station.Value) (host : Host) :
    AllLast host (station.venue.map (·.notify value) host) := by
  intro other
  by_cases h : other = station
  · subst h
    rw [Station.view_map_self]
    exact lasts_notify value _
  · rw [Station.view_map_other h]
    exact lasts_refl _

lemma allLast_abort (host : Host) : AllLast host (host.mapSession Session.abort) := by
  intro station
  cases station <;> exact lasts_abort _

/-- The rendezvous are kept in the session. -/
lemma allLast_of_session {host host' : Host} (h : host'.session = host.session) : AllLast host host' := by
  intro station
  have hview : station.venue.view host' = station.venue.view host := by
    cases station <;> simp only [Station.venue, Venue.select, Venue.activated, Venue.deactivated,
      Venue.transceive, Venue.presence, Venue.read, Venue.write, Venue.format, Venue.lock, Venue.check, h]
  rw [hview]
  exact lasts_refl _

lemma receive_lasts (event : Event) (host : Host) : AllLast host (host.mapSession (·.receive event)) := by
  have hmore (f : Session → Session)
      (hf : ∀ station : Station, station.venue.view (host.mapSession f) = station.venue.view host) :
      AllLast host (host.mapSession f) := fun station => by
    rw [hf]
    exact lasts_refl _
  cases event with
  | selected status => exact allLast_notify .select status host
  | data status bytes =>
    have hreceived := hmore (fun session => { session with received := session.received ++ bytes })
      fun station => by cases station <;> rfl
    cases status with
    | ok => exact hreceived.trans (allLast_notify .transceive .ok _)
    | continuing => exact hreceived
    | _ => exact allLast_notify .transceive _ host
  | presence status => exact allLast_notify .presence status host
  | readDone status =>
    have hmessage := hmore
      (fun session => { session with message := if status.isOk then session.message else [] })
      fun station => by cases station <;> rfl
    exact hmessage.trans (allLast_notify .read status _)
  | writeDone status => exact allLast_notify .write status host
  | formatDone status => exact allLast_notify .format status host
  | lockDone status => exact allLast_notify .lock status host
  | detected report => exact allLast_notify .check _ host
  | ndefData message =>
    exact hmore (fun session => { session with message }) fun station => by cases station <;> rfl
  | _ => exact allLast_refl host

lemma hearNotice_lasts (notice : DiscoveryNotice) (host : Host) :
    AllLast host (hearNotice notice host) := by
  obtain ⟨notices, hcollect⟩ := collect_shape host.session notice
  have hcollected : AllLast host (host.mapSession fun _ => (host.session.collect notice).2) := by
    rw [hcollect]
    intro station
    cases station <;> exact lasts_refl _
  unfold hearNotice
  dsimp only
  split
  · exact hcollected
  · split
    · exact hcollected
    · refine hcollected.trans fun station => ?_
      cases station <;> exact lasts_refl _

lemma hearActivation_lasts (act : Activation) (host : Host) :
    AllLast host (hearActivation act host) := by
  have htag : AllLast host (host.mapFlags fun flags => { flags with tagActive := true }) :=
    allLast_of_session rfl
  unfold hearActivation
  split
  · exact allLast_refl host
  · dsimp only
    split
    · exact htag.trans (allLast_notify .activated () _)
    · split
      · exact allLast_of_session rfl
      · next session hadmit =>
        have hadmitted : AllLast host (host.mapSession fun _ => session) := by
          obtain ⟨_, _, _, _, _, rfl⟩ := admit_shape hadmit
          intro station
          cases station <;> exact lasts_refl _
        exact hadmitted.trans (allLast_of_session (keepEndpoint_session _ _))

lemma hear_lasts (event : Event) (host : Host) : AllLast host (hear event host) := by
  cases event with
  | activated act => exact hearActivation_lasts act host
  | discovered status notice =>
    change AllLast host (if status.isOk then hearNotice notice host else host)
    split
    · exact hearNotice_lasts notice host
    · exact allLast_refl host
  | deactivated sleep =>
    cases sleep with
    | true =>
      have hflags : AllLast host (host.mapFlags fun flags => { flags with reconnecting := true }) :=
        allLast_of_session rfl
      exact hflags.trans (allLast_notify .deactivated () _)
    | false =>
      intro station
      cases station <;> exact lasts_refl _
  | transportError => exact (allLast_abort host).trans (allLast_of_session rfl)
  | controllerTimeout => exact (allLast_abort host).trans (allLast_of_session rfl)
  | selected status => exact receive_lasts (.selected status) host
  | data status bytes => exact receive_lasts (.data status bytes) host
  | presence status => exact receive_lasts (.presence status) host
  | readDone status => exact receive_lasts (.readDone status) host
  | writeDone status => exact receive_lasts (.writeDone status) host
  | formatDone status => exact receive_lasts (.formatDone status) host
  | lockDone status => exact receive_lasts (.lockDone status) host
  | detected report => exact receive_lasts (.detected report) host
  | ndefData message => exact receive_lasts (.ndefData message) host
  | _ => exact allLast_of_session rfl

lemma hearAlone_lasts (event : Event) (host : Host) : AllLast host (hearAlone event host) := by
  cases event with
  | activated act => exact allLast_notify .activated () host
  | deactivated sleep => exact allLast_notify .deactivated () host
  | discovered status notice =>
    change AllLast host (if status.isOk then hearNotice notice host else host)
    split
    · exact hearNotice_lasts notice host
    · exact allLast_refl host
  | _ => exact receive_lasts _ host

lemma deliver_lasts (c : Controller σ) (happening : Happening) (s : System σ) :
    AllLast s.host (c.deliver happening s).host := by
  cases happening with
  | abortAll => exact (allLast_abort s.host).trans (allLast_of_session rfl)
  | abortSession => exact allLast_abort s.host
  | event event =>
    by_cases hn : s.receiver = .nobody
    · rw [deliver_nobody c hn]
      exact allLast_refl s.host
    · rw [(deliver_reacts c hn event).host]
      cases s.receiver with
      | nobody => exact allLast_refl s.host
      | host => exact hear_lasts event s.host
      | session => exact hearAlone_lasts event s.host

end Flags

section Interruption

/-- From one system to another there were only deliveries and what leaves a rendezvous as it is: what other
callers and the controller do besides. -/
inductive GoesOnAt (c : Controller σ) (station : Station) : System σ → System σ → Prop where
  | trans {s t u : System σ} : GoesOnAt c station s t → GoesOnAt c station t u → GoesOnAt c station s u
  | deliver (s : System σ) (happening : Happening) : GoesOnAt c station s (c.deliver happening s)
  | aside {s t : System σ} (h : station.venue.view t.host = station.venue.view s.host) :
      GoesOnAt c station s t

variable {c : Controller σ} {station : Station} {s t : System σ}

lemma GoesOnAt.lasts (h : GoesOnAt c station s t) :
    Lasts (station.venue.view s.host) (station.venue.view t.host) := by
  induction h with
  | trans _ _ ih₁ ih₂ => exact ih₁.trans ih₂
  | deliver s happening => exact deliver_lasts c happening s station
  | aside h =>
    rw [h]
    exact lasts_refl _

/-- Somebody aborted the waits of the session while this one was on, which then went on to its end. -/
def Wait.Interrupted (c : Controller σ) (w : Wait σ) : Prop :=
  ∃ s : System σ, (w.station.venue.view s.host).armed = true ∧
    GoesOnAt c w.station (s.mapHost (Host.mapSession Session.abort)) w.ended

/-- An abort reaches every rendezvous that is waited at. -/
lemma abort_reaches (station : Station) {host : Host} (h : (station.venue.view host).armed = true) :
    (station.venue.view (host.mapSession Session.abort)).armed = true ∧
      (station.venue.view (host.mapSession Session.abort)).aborted = true := by
  have hview : station.venue.view (host.mapSession Session.abort) = (station.venue.view host).abort := by
    cases station <;> rfl
  rw [hview]
  unfold Rendezvous.abort
  rw [if_pos h]
  exact ⟨h, rfl⟩

/-- A wait that was interrupted ends as aborted unless something completed it. -/
lemma Wait.Interrupted.outcome {w : Wait σ} (h : w.Interrupted c) (hnone : w.completed = false) :
    w.outcome = .aborted := by
  obtain ⟨s, harmed, hrest⟩ := h
  obtain ⟨hreached, hflag⟩ := abort_reaches w.station harmed
  have haborted : w.rendezvous.aborted = true := (hrest.lasts hreached).2 hflag
  have hvalue : w.rendezvous.value = none :=
    Option.isNone_iff_eq_none.mp (Option.isSome_eq_false_iff.mp hnone)
  unfold Wait.outcome Rendezvous.outcome
  rw [hvalue]
  exact if_pos haborted

end Interruption

section Heeding

variable {env : Environment σ} {bad : α → Prop} {Q : Wait σ → Prop} {s : System σ}

open Procedure

/-- A procedure gives such a result and records no connection. -/
def Fails (env : Environment σ) (bad : α → Prop) (p : Procedure α) (s : System σ) : Prop :=
  bad (p.account env s).1 ∧ Silent (p.account env s).2

/-- A procedure fails if one of certain waits ends as aborted. -/
def Heeds (env : Environment σ) (Q : Wait σ → Prop) (bad : α → Prop) (p : Procedure α)
    (s : System σ) : Prop :=
  ∀ w, .waited w ∈ (p.account env s).2 → w.outcome = .aborted → Q w → Fails env bad p s

lemma fails_done {result : α} (h : bad result) : Fails env bad (.done result) s := ⟨h, silent_nil⟩

lemma fails_alter {change : Change} {next : Procedure α}
    (hchange : Silent (marksOf change : List (Mark σ)))
    (h : Fails env bad next (s.mapHost change.apply)) : Fails env bad (.alter change next) s :=
  ⟨h.1, silent_append.mpr ⟨hchange, h.2⟩⟩

/-- A procedure without waits. -/
lemma heeds_still {p : Procedure α} (h : p.waits env s = []) : Heeds env Q bad p s :=
  fun w hw => absurd hw (not_waited h w)

lemma heeds_done (result : α) : Heeds env Q bad (.done result) s := heeds_still rfl

lemma heeds_look {f : Host → β} {next : β → Procedure α} (h : Heeds env Q bad (next (f s.host)) s) :
    Heeds env Q bad (.look f next) s := h

lemma heeds_elapse {next : Procedure α} (h : Heeds env Q bad next (env.meantime s)) :
    Heeds env Q bad (.elapse next) s := h

lemma waited_not_mem_marksOf (w : Wait σ) (change : Change) : .waited w ∉ marksOf change := by
  unfold marksOf
  split
  · exact fun h => absurd (List.mem_singleton.mp h) nofun
  · exact List.not_mem_nil

lemma heeds_alter {change : Change} {next : Procedure α}
    (hchange : Silent (marksOf change : List (Mark σ)))
    (h : Heeds env Q bad next (s.mapHost change.apply)) : Heeds env Q bad (.alter change next) s := by
  intro w hw haborted hQ
  rcases List.mem_append.mp hw with hmark | hrest
  · exact absurd hmark (waited_not_mem_marksOf w change)
  · exact fails_alter hchange (h w hrest haborted hQ)

lemma heeds_ask {request : Request} {hr : request ≠ .commitRouting} {next : Status → Procedure α}
    (h : ∀ verdict t, Heeds env Q bad (next verdict) t) : Heeds env Q bad (.ask request hr next) s :=
  h _ _

/-- A procedure that ends with recording a connection waits no more. -/
lemma heeds_connected (target : Connection) (result : α) :
    Heeds env Q bad (.alter (.session (.connection target)) (.done result)) s := heeds_still rfl

lemma heeds_wait {station : Station} {next : Outcome station.Value → Procedure α}
    (haborted : ∀ ended, Q ⟨station, ended⟩ →
      Fails env bad (next .aborted) (ended.mapHost (station.venue.map .disarm)))
    (hrest : ∀ outcome t, Heeds env Q bad (next outcome) t) :
    Heeds env Q bad (.wait station next) s := by
  intro w hw houtcome hQ
  have hnext {outcome : Outcome station.Value} {t : System σ} (h : Fails env bad (next outcome) t)
      (w : Wait σ) : bad ((next outcome).account env t).1 ∧
        Silent (.waited w :: ((next outcome).account env t).2) := ⟨h.1, silent_waited h.2⟩
  rcases List.mem_cons.mp hw with hfirst | htail
  · obtain rfl := Mark.waited.inj hfirst
    have hended : ((awaited station : Op σ _).run env s).1.1 = .aborted := houtcome
    have hfails := haborted _ hQ
    rw [← hended] at hfails
    exact hnext hfails _
  · exact hnext (hrest _ _ w htail houtcome hQ) _

lemma heeds_call {station : Station} {request : Request} {hr : request ≠ .commitRouting}
    {next : Outcome station.Value → Procedure α}
    (haborted : ∀ ended, Q ⟨station, ended⟩ →
      Fails env bad (next .aborted) (ended.mapHost (station.venue.map .disarm)))
    (hrest : ∀ outcome t, Heeds env Q bad (next outcome) t) :
    Heeds env Q bad (call station request hr next) s := by
  refine heeds_alter silent_nil (heeds_elapse (heeds_ask fun verdict t => ?_))
  split
  · exact heeds_wait haborted hrest
  · exact heeds_alter silent_nil (hrest _ _)

lemma silent_call {station : Station} {request : Request} {hr : request ≠ .commitRouting}
    {next : Outcome station.Value → Procedure α}
    (h : ∀ outcome t, Silent ((next outcome).account env t).2) :
    Silent ((call station request hr next).account env s).2 := by
  rw [account_call]
  dsimp only
  split
  · exact silent_waited (h _ _)
  · exact h _ _

/-- Either the part that holds the field records no connection, or nothing is waited for after it. -/
lemma heeds_holding {bound : Host → UInt64} {inner : Procedure β} {next : β → Procedure α}
    (hinner : Heeds env Q (fun between => ∀ t, Fails env bad (next between) t) inner
      (heldFrom env bound s))
    (hrest : ∀ between t, Heeds env Q bad (next between) t)
    (hclean : Silent (inner.account env (heldFrom env bound s)).2 ∨
      ∀ between t, (next between).waits env t = []) :
    Heeds env Q bad (.holding bound inner next) s := by
  obtain ⟨t, haccount⟩ := account_holding bound inner next env s
  intro w hw houtcome hQ
  unfold Fails
  rw [haccount] at hw ⊢
  rcases List.mem_append.mp hw with hfirst | htail
  · obtain ⟨hfails, hsilent⟩ := hinner w hfirst houtcome hQ
    exact ⟨(hfails t).1, silent_append.mpr ⟨hsilent, (hfails t).2⟩⟩
  · obtain ⟨hbad, hrestSilent⟩ := hrest _ _ w htail houtcome hQ
    rcases hclean with hsilent | hstill
    · exact ⟨hbad, silent_append.mpr ⟨hsilent, hrestSilent⟩⟩
    · exact absurd htail (not_waited (hstill _ t) w)

lemma heeds_ifReady {p q : Procedure α} (hp : Heeds env Q bad p s) (hq : Heeds env Q bad q s) :
    Heeds env Q bad (ifReady p q) s := by
  unfold Heeds Fails
  rw [account_ifReady]
  split
  · exact hp
  · exact hq

lemma heeds_onTag {next : β → Procedure α} {otherwise : β} {inner : Procedure β}
    (hinner : ∀ t, Heeds env Q (fun between => ∀ t, Fails env bad (next between) t) inner t)
    (hstill : ∀ between t, (next between).waits env t = []) :
    Heeds env Q bad (onTag next otherwise inner) s :=
  heeds_ifReady (heeds_holding (hinner _) (fun between t => heeds_still (hstill between t)) (.inr hstill))
    (heeds_still (hstill otherwise s))

end Heeding

section Operations

variable {env : Environment σ} {Q : Wait σ → Prop} {s : System σ}

/-- The answers by which operations of the session fail. -/
def tellsFailure : Answer → Bool
  | .status status => !status.isOk
  | .verdict yes => !yes
  | .exchanged status _ => !status.isOk
  | .message bytes => bytes.isNone
  | .check check => (check.bind NdefCheck.info?).isNone
  | _ => false

open Procedure

/-- What becomes of an operation whose part gave such a result. -/
lemma fails_of_result {wrap : β → Answer} {result : β} (h : tellsFailure (wrap result) = true) :
    ∀ t : System σ, Fails env (tellsFailure · = true) (.done (wrap result)) t :=
  fun _ => fails_done h

lemma connect_heeds (target : Connection) :
    Heeds env Q (tellsFailure · = true) (connect target fun status => .done (.status status)) s := by
  refine heeds_onTag (fun t => heeds_call (fun ended _ => ?_) fun outcome t => ?_) fun _ _ => rfl
  · exact fails_done (fails_of_result rfl)
  · cases outcome with
    | completed status =>
      cases status with
      | ok => exact heeds_connected target _
      | _ => exact heeds_done _
    | timedOut => exact heeds_still rfl
    | _ => exact heeds_done _

lemma reselect_heeds {bad : Bool → Prop}
    (hbad : ∀ w, Q w → w.station = .select ∨ w.station = .activated → bad false) (target : Connection) :
    Heeds env Q bad (reselect target) s := by
  refine heeds_alter silent_nil (heeds_call (fun ended h => ?_) fun outcome t => ?_)
  · exact fails_alter silent_nil (fails_done (hbad _ h (.inl rfl)))
  · cases outcome with
    | completed status =>
      cases status with
      | ok =>
        refine heeds_wait (fun ended h => fails_done (hbad _ h (.inr rfl))) fun activation t => ?_
        split
        · exact heeds_connected target true
        · exact heeds_done false
      | _ => exact heeds_alter silent_nil (heeds_done false)
    | timedOut => exact heeds_alter silent_nil (heeds_done false)
    | _ => exact heeds_alter silent_nil (heeds_done false)

/-- A wait for the sleep of the tag is not heeded. -/
lemma reconnect_heeds (hsleep : ∀ ended, ¬Q ⟨.deactivated, ended⟩) {bad : α → Prop}
    {next : Bool → Procedure α}
    (hbad : ∀ w, Q w → w.station = .select ∨ w.station = .activated → ∀ t, Fails env bad (next false) t)
    (hstill : ∀ done t, (next done).waits env t = []) (target : Connection) (restart : Bool) :
    Heeds env Q bad (reconnect target restart next) s := by
  refine heeds_onTag (fun t => ?_) hstill
  refine heeds_look ?_
  split
  · exact heeds_done true
  · refine heeds_call (fun ended h => absurd h (hsleep ended)) fun outcome t => ?_
    cases outcome with
    | rejected status => exact heeds_done false
    | _ => exact reselect_heeds hbad target

lemma exchange_heeds {bad : α → Prop} {next : Status × Bytes → Procedure α}
    (haborted : ∀ ended : System σ, Q ⟨.transceive, ended⟩ →
      ∀ t, Fails env bad (next (.failed, ended.host.session.received)) t)
    (hrest : ∀ answer t, Heeds env Q bad (next answer) t) (frame : Bytes) :
    Heeds env Q bad (Procedure.exchange frame next) s := by
  refine heeds_alter silent_nil (heeds_elapse (heeds_alter silent_nil (heeds_elapse ?_)))
  refine heeds_ask fun verdict t => ?_
  split
  · refine heeds_wait (fun ended h => ?_) fun outcome t => ?_
    · exact fails_alter silent_nil (haborted ended h _)
    · exact heeds_alter silent_nil (hrest _ _)
  · exact heeds_alter silent_nil (hrest _ _)

/-- An aborted exchange fails unless it looks like a refusal of the frame, and what follows a refusal is not
heeded. -/
lemma recover_heeds {bad : Status × Bytes → Prop} (hbad : ∀ response, bad (.failed, response))
    (hQ : ∀ w, Q w → w.station = .transceive ∧ Tag.isRefusal w.ended.host.session.received = false)
    (handle : UInt8) (frame : Bytes) (first : Status × Bytes) :
    Heeds env Q bad (recover handle frame first) s := by
  have hsleep (ended : System σ) : ¬Q ⟨.deactivated, ended⟩ := fun h => absurd (hQ _ h).1 nofun
  have hconcede (last : Status × Bytes) (t : System σ) : Heeds env Q bad (concede handle last) t := by
    unfold concede
    split
    · refine reconnect_heeds hsleep (fun w h hselects => ?_) (fun _ _ => rfl) _ true
      rw [(hQ w h).1] at hselects
      exact absurd hselects nofun
    · exact heeds_done last
  unfold recover
  split
  · split
    · exact hconcede first s
    · refine exchange_heeds (fun ended h t => ?_) hconcede frame
      unfold concede
      rw [if_neg (by rw [Bool.not_eq_true]; exact (hQ _ h).2)]
      exact fails_done (hbad _)
  · exact heeds_done first

lemma lookAfter_heeds {connection : Option Connection} {bad : Status × Bytes → Prop}
    (hbad : ∀ response, bad (.failed, response))
    (hQ : ∀ w, Q w → w.station = .transceive ∧ (Tag.isRefusal w.ended.host.session.received = false ∨
      connection.any (fun target => target.protocol == Protocol.mifare) = false)) (frame : Bytes) :
    Heeds env Q bad (Procedure.exchange frame (lookAfter connection frame)) s := by
  have hplain : Heeds env Q bad (Procedure.exchange frame .done) s :=
    exchange_heeds (fun ended _ t => fails_done (hbad _)) (fun first t => heeds_done first) frame
  cases connection with
  | none => exact hplain
  | some target =>
    by_cases hmifare : target.protocol = Protocol.mifare
    · have hrefusal (w : Wait σ) (h : Q w) :
          w.station = .transceive ∧ Tag.isRefusal w.ended.host.session.received = false := by
        obtain ⟨hstation, hrefused | hother⟩ := hQ w h
        · exact ⟨hstation, hrefused⟩
        · rw [Option.any_some, hmifare, beq_self_eq_true] at hother
          exact absurd hother nofun
      have hafter : lookAfter (some target) frame = recover target.handle frame :=
        funext fun first => if_pos hmifare
      rw [hafter]
      refine exchange_heeds (fun ended h t => ?_) (fun first t => recover_heeds hbad hrefusal _ _ _) frame
      unfold recover
      rw [if_neg (by rw [Bool.not_eq_true]; exact (hrefusal _ h).2)]
      exact fails_done (hbad _)
    · have hafter : lookAfter (some target) frame = .done := funext fun first => if_neg hmifare
      rw [hafter]
      exact hplain

/-- The connection that an exchange of frames goes by: the one that is recorded when it begins to hold the
radio field. -/
def exchangeTarget (env : Environment σ) (s : System σ) : Option Connection :=
  (heldFrom env Host.exchangeBound
    (s.mapHost (Change.apply (.session (.inTransceive true))))).host.session.connection

lemma transceive_heeds
    (hQ : ∀ w, Q w → w.station = .transceive ∧ (Tag.isRefusal w.ended.host.session.received = false ∨
      (exchangeTarget env s).any (fun target => target.protocol == Protocol.mifare) = false))
    (frame buffer : Bytes) :
    Heeds env Q (tellsFailure · = true)
      (Procedure.transceive frame buffer fun answer => .done (.exchanged answer.1 answer.2)) s := by
  refine heeds_ifReady (heeds_alter silent_nil ?_) (heeds_done _)
  refine heeds_holding (heeds_look (lookAfter_heeds (fun response t => ?_) hQ frame))
    (fun answer t => heeds_still rfl) (.inr fun _ _ => rfl)
  exact fails_alter silent_nil (fails_done rfl)

lemma checkPresence_heeds :
    Heeds env Q (tellsFailure · = true) (checkPresence fun present => .done (.verdict present)) s := by
  refine heeds_ifReady (heeds_look ?_) (heeds_done _)
  split
  · exact heeds_done _
  · refine heeds_holding (heeds_look (heeds_call (fun ended _ => ?_) fun outcome t => ?_))
      (fun present t => heeds_still rfl) (.inr fun _ _ => rfl)
    · exact fails_done fun t => fails_alter silent_nil (fails_done rfl)
    · cases outcome with
      | rejected status => exact heeds_look (heeds_done _)
      | _ => exact heeds_done _

lemma checkNdef_heeds :
    Heeds env Q (tellsFailure · = true) (checkNdef fun check => .done (.check check)) s := by
  refine heeds_onTag (fun t => heeds_alter silent_nil ?_) fun _ _ => rfl
  refine heeds_call (fun ended _ => ?_) fun outcome t => ?_
  · exact fails_alter silent_nil (fails_done (fails_of_result rfl))
  · cases outcome with
    | rejected status => exact heeds_done none
    | _ => exact heeds_alter silent_nil (heeds_done _)

lemma readNdef_heeds :
    Heeds env Q (tellsFailure · = true) (readNdef fun message => .done (.message message)) s := by
  refine heeds_onTag (fun t => heeds_alter silent_nil (heeds_elapse (heeds_look ?_))) fun _ _ => rfl
  split
  · refine heeds_call (fun ended _ => ?_) fun outcome t => ?_
    · exact fails_alter silent_nil (fails_done (fails_of_result rfl))
    · cases outcome with
      | completed status =>
        cases status with
        | ok => exact heeds_still rfl
        | _ => exact heeds_alter silent_nil (heeds_done none)
      | _ => exact heeds_alter silent_nil (heeds_done none)
  · exact heeds_done none

/-- A request of which nothing but its confirmation counts. -/
lemma verdictOf_heeds {bad : Bool → Prop} (outcome : Outcome Status) :
    Heeds env Q bad (verdictOf outcome) s := by
  unfold verdictOf
  split
  · exact heeds_done _
  · exact heeds_done _

lemma format_heeds :
    Heeds env Q (tellsFailure · = true) (Procedure.format fun done => .done (.verdict done)) s :=
  heeds_onTag (fun _ => heeds_call (fun _ _ => fails_done (fails_of_result rfl))
    fun outcome _ => verdictOf_heeds outcome) fun _ _ => rfl

lemma writeNdef_heeds (message : Bytes) :
    Heeds env Q (tellsFailure · = true) (writeNdef message fun done => .done (.verdict done)) s := by
  have hwrite {bad : Bool → Prop} (hbad : bad false) (prepared : Bool) (t : System σ) :
      Heeds env Q bad (writePrepared message prepared) t := by
    unfold writePrepared
    split
    · exact heeds_call (fun ended _ => fails_done hbad) fun outcome t => verdictOf_heeds outcome
    · exact heeds_done false
  refine heeds_onTag (fun t => heeds_look ?_) fun _ _ => rfl
  split
  · -- The tag is formatted first, within the same hold of the radio field.
    refine heeds_ifReady ?_ (hwrite (fails_of_result rfl) false t)
    refine heeds_holding (heeds_call (fun ended _ => fails_done fun t => ?_) fun outcome t => ?_)
      (hwrite (fails_of_result rfl)) (.inl ?_)
    · exact fails_done (fails_of_result rfl)
    · exact verdictOf_heeds outcome
    · exact silent_call fun outcome t => by cases outcome <;> exact silent_nil
  · exact hwrite (fails_of_result rfl) true t

lemma makeReadOnly_heeds :
    Heeds env Q (tellsFailure · = true) (makeReadOnly fun done => .done (.verdict done)) s := by
  refine heeds_onTag (fun t => heeds_call (fun ended _ => ?_) fun outcome t => ?_) fun _ _ => rfl
  · exact fails_done (fails_of_result rfl)
  · cases outcome with
    | rejected status =>
      cases status with
      | rejected =>
        exact heeds_call (fun ended _ => fails_done (fails_of_result rfl))
          fun outcome t => verdictOf_heeds outcome
      | _ => exact heeds_done false
    | _ => exact heeds_done _

/-- The waits whose abort makes an operation fail: all but the wait for the sleep of a tag that is selected
again, and an exchange with a MIFARE Classic tag whose bytes look like a refusal when it is aborted. -/
def IsHeeded (env : Environment σ) (s : System σ) : SessionCall → Wait σ → Prop
  | .reconnect _ _, w => w.station ≠ .deactivated
  | .transceive _ _, w =>
    w.station = .transceive ∧ (Tag.isRefusal w.ended.host.session.received = false ∨
      (exchangeTarget env s).any (fun target => target.protocol == Protocol.mifare) = false)
  | _, _ => True

lemma procedure_heeds {call : SessionCall} {p : Procedure Answer}
    (h : SessionCall.procedure? call = some p) :
    Heeds env (IsHeeded env s call) (tellsFailure · = true) p s := by
  cases call with
  | connect target => exact Option.some.inj h ▸ connect_heeds target
  | reconnect target restart =>
    have hsleep (ended : System σ) : ¬IsHeeded env s (.reconnect target restart) ⟨.deactivated, ended⟩ :=
      fun h => h rfl
    obtain rfl := Option.some.inj h
    refine reconnect_heeds hsleep (fun _ _ _ t => ?_) (fun _ _ => ?_) target restart
    · exact fails_done rfl
    · rfl
  | transceive frame buffer =>
    exact Option.some.inj h ▸ transceive_heeds (fun _ h => h) frame buffer
  | checkPresence => exact Option.some.inj h ▸ checkPresence_heeds
  | checkNdef => exact Option.some.inj h ▸ checkNdef_heeds
  | readNdef => exact Option.some.inj h ▸ readNdef_heeds
  | writeNdef message => exact Option.some.inj h ▸ writeNdef_heeds message
  | format => exact Option.some.inj h ▸ format_heeds
  | makeReadOnly => exact Option.some.inj h ▸ makeReadOnly_heeds
  | _ => exact absurd h nofun

end Operations

section Sleep

variable {env : Environment σ} {s : System σ} {w : Wait σ}

open Procedure

/-- Selecting anew does not wait for the sleep of the tag. -/
lemma reselect_awake (target : Connection) (hw : .waited w ∈ ((reselect target).account env s).2)
    (houtcome : w.outcome = .aborted) : w.station ≠ .deactivated := by
  intro hstation
  have hheeds : Heeds env (fun w => w.station = .deactivated) (fun _ => False) (reselect target) s := by
    refine reselect_heeds (fun w hsleeps hselects => ?_) target
    rw [hsleeps] at hselects
    exact absurd hselects nofun
  exact (hheeds w hw houtcome hstation).1

/-- A wait of a call is the one for its completion, with whose outcome the call goes on, or comes later. -/
lemma call_waited {station : Station} {request : Request} {hr : request ≠ .commitRouting}
    {next : Outcome station.Value → Procedure α}
    (hw : .waited w ∈ ((call station request hr next).account env s).2) :
    (∃ ended, w = ⟨station, ended⟩ ∧ ((call station request hr next).account env s).1 =
        ((next (⟨station, ended⟩ : Wait σ).outcome).account env
          (ended.mapHost (station.venue.map .disarm))).1) ∨
      ∃ outcome t, .waited w ∈ ((next outcome).account env t).2 := by
  rw [account_call] at hw ⊢
  dsimp only at hw ⊢
  split at hw
  · next hok =>
    rw [if_pos hok]
    rcases List.mem_cons.mp hw with hfirst | hlater
    · exact .inl ⟨_, Mark.waited.inj hfirst, rfl⟩
    · exact .inr ⟨_, _, hlater⟩
  · exact .inr ⟨_, _, hw⟩

/-- When the wait for the sleep of the tag is aborted, a reconnection gives what selecting anew gives. -/
lemma sleepAndSelect_aborted (target : Connection)
    (hw : .waited w ∈ ((Procedure.sleepAndSelect target).account env s).2)
    (hstation : w.station = .deactivated) (houtcome : w.outcome = .aborted) :
    ((Procedure.sleepAndSelect target).account env s).1 =
      ((Tag.reselect target).run env (w.ended.mapHost (Venue.deactivated.map .disarm))).1 := by
  rcases call_waited hw with ⟨ended, rfl, hresult⟩ | ⟨outcome, t, hlater⟩
  · rw [houtcome] at hresult
    rw [← run_reselect, ← account_result]
    exact hresult
  · cases outcome with
    | rejected status => exact absurd hlater List.not_mem_nil
    | _ => exact absurd hstation (reselect_awake target hlater houtcome)

lemma selectAgain_aborted (target : Connection) (restart : Bool)
    (hw : .waited w ∈ ((selectAgain target restart).account env s).2)
    (hstation : w.station = .deactivated) (houtcome : w.outcome = .aborted) :
    ((selectAgain target restart).account env s).1 =
      ((Tag.reselect target).run env (w.ended.mapHost (Venue.deactivated.map .disarm))).1 := by
  let asked : Procedure Bool :=
    if !restart && s.host.session.connection.any (fun connection => connection.protocol == target.protocol)
    then .done true else Procedure.sleepAndSelect target
  have hasked : .waited w ∈ (asked.account env s).2 := hw
  change (asked.account env s).1 = _
  unfold asked at hasked ⊢
  split at hasked
  · exact absurd hasked List.not_mem_nil
  · next hasks =>
    rw [if_neg hasks]
    exact sleepAndSelect_aborted target hasked hstation houtcome

lemma reconnect_aborted (target : Connection) (restart : Bool) {wrap : Bool → α}
    (hw : .waited w ∈ ((Procedure.reconnect target restart fun done => .done (wrap done)).account env s).2)
    (hstation : w.station = .deactivated) (houtcome : w.outcome = .aborted) :
    ((Procedure.reconnect target restart fun done => .done (wrap done)).account env s).1 =
      wrap ((Tag.reselect target).run env (w.ended.mapHost (Venue.deactivated.map .disarm))).1 := by
  unfold Procedure.reconnect onTag at hw ⊢
  rw [account_ifReady] at hw ⊢
  split at hw
  · next hready =>
    rw [if_pos hready]
    obtain ⟨t, haccount⟩ := account_holding Host.waitBound (selectAgain target restart)
      (fun done => .done (wrap done)) env s
    rw [haccount] at hw ⊢
    have hpart := (List.mem_append.mp hw).elim id fun hlater => absurd hlater List.not_mem_nil
    exact congrArg wrap (selectAgain_aborted target restart hpart hstation houtcome)
  · exact absurd hw List.not_mem_nil

end Sleep

/-- Whoever else acts, an abort of the waits of the session ends every wait of an operation that it comes
upon, unless something completes the wait. The operation then fails and records no connection, if the wait
is heeded. A reconnection whose wait for the sleep of the tag is aborted goes on instead: it gives what
selecting the target anew gives from there. -/
theorem aborted_wait_fails (env : Environment σ) (s : System σ) {call : SessionCall}
    {p : Procedure Answer} (hp : SessionCall.procedure? call = some p) :
    let ended := call.run.run env s
    (p.run : Op σ Answer) = call.run ∧
      ∀ w ∈ p.waits env s, w.Interrupted env.controller → w.completed = false →
        w.outcome = .aborted ∧
          (IsHeeded env s call w → tellsFailure ended.1 = true ∧
            (Orderly SparesConnection env → Evolves env.controller SparesConnection s ended.2)) ∧
          ∀ target restart, call = .reconnect target restart → w.station = .deactivated →
            ended.1 = .verdict
              ((Tag.reselect target).run env (w.ended.mapHost (Venue.deactivated.map .disarm))).1 := by
  intro ended
  have hrun : (p.run : Op σ Answer) = call.run := procedure_run hp
  have hresult : (p.account env s).1 = ended.1 := by
    rw [Procedure.account_result, hrun]
  have hsystem : (p.logged.run env s).2 = ended.2 := by
    rw [Procedure.logged_system, hrun]
  refine ⟨hrun, fun w hw hinterrupted hnone => ?_⟩
  have hmark := Procedure.mem_waits.mp hw
  have houtcome := hinterrupted.outcome hnone
  refine ⟨houtcome, fun hheeded => ?_, fun target restart hcall hstation => ?_⟩
  · obtain ⟨hfails, hsilent⟩ := procedure_heeds hp w hmark houtcome hheeded
    rw [← hresult, ← hsystem]
    exact ⟨hfails, fun ho => Procedure.logged_spares ho p s hsilent⟩
  · subst hcall
    obtain rfl := Option.some.inj hp
    rw [← hresult]
    exact reconnect_aborted target restart hmark hstation houtcome

section Reaching

variable {env : Environment σ} {s : System σ}

open Procedure

/-- Where nothing is in flight a wait passes without anything happening. -/
lemma pass_quiet (hlate : s.late = none) (hqueue : s.queue = []) :
    ((Op.pass : Op σ Unit).run env s).2 = s := by
  have hround (t : System σ) (h : t.queue = []) : env.controller.round t = t := by
    unfold Controller.round
    rw [h]
    cases t
    cases h
    rfl
  change (Op.pass env s).2 = s
  unfold Op.pass
  rw [hlate]
  change env.controller.attend s = s
  unfold Controller.attend
  rw [hround s hqueue, hround s hqueue]

/-- A call that the controller accepts goes through the wait for its completion. -/
lemma call_waits (station : Station) {request : Request} {hr : request ≠ .commitRouting}
    {next : Outcome station.Value → Procedure α} {asked : Status × System σ}
    (hasked : (Op.issue request).run env (env.meantime (s.mapHost (station.venue.map .arm))) = asked)
    (hok : asked.1.isOk = true) (hquiet : ((Op.pass : Op σ Unit).run env asked.2).2 = asked.2) :
    ⟨station, asked.2⟩ ∈ (call station request hr next).waits env s := by
  subst hasked
  refine mem_waits.mpr ?_
  rw [account_call]
  dsimp only
  rw [if_pos hok]
  refine List.mem_cons.mpr (.inl (congrArg (fun ended => Mark.waited ⟨station, ended⟩) ?_))
  exact hquiet.symm

/-- The waits of a part that needs a tag are waits of the whole. -/
lemma onTag_waits {next : β → Procedure α} {otherwise : β} {inner : Procedure β} {w : Wait σ}
    (hready : s.host.flags.tagReady = true) (hw : w ∈ inner.waits env (heldFrom env Host.waitBound s)) :
    w ∈ (onTag next otherwise inner).waits env s := by
  refine mem_waits.mpr ?_
  unfold onTag
  rw [account_ifReady, if_pos hready]
  obtain ⟨t, haccount⟩ := account_holding Host.waitBound inner next env s
  rw [haccount]
  exact List.mem_append_left _ (mem_waits.mp hw)

/-- A restart waits for the sleep of the tag if the controller takes the request. -/
lemma reconnect_waits (target : Connection) (next : Bool → Procedure α) {asked : Status × System σ}
    (hready : s.host.flags.tagReady = true)
    (hasked : (Op.issue (.deactivate true)).run env
      (env.meantime ((heldFrom env Host.waitBound s).mapHost (Venue.deactivated.map .arm))) = asked)
    (hok : asked.1.isOk = true) (hlate : asked.2.late = none) (hqueue : asked.2.queue = []) :
    ⟨.deactivated, asked.2⟩ ∈ (Procedure.reconnect target true next).waits env s := by
  have hsleep : ⟨.deactivated, asked.2⟩ ∈
      (Procedure.sleepAndSelect target).waits env (heldFrom env Host.waitBound s) :=
    call_waits .deactivated hasked hok (pass_quiet hlate hqueue)
  exact onTag_waits hready hsleep

end Reaching

section Examples

open Procedure

/-- Somebody aborts the waits of the session right after a request of a kind. -/
def abortingAfter (kind : RequestKind) : Environment Script :=
  { Script.controller.alone with
    interlude := fun request s =>
      if request.kind == kind then s.mapHost (Host.mapSession Session.abort) else s }

lemma issue_abortingAfter (request : Request) (s : System Script) :
    ((Op.issue request).run (abortingAfter request.kind) s).2 =
      (Script.controller.issue .caller request s).2.mapHost (Host.mapSession Session.abort) :=
  if_pos (beq_self_eq_true request.kind)

lemma orderly_aborting (kind : RequestKind) : Orderly SparesConnection (abortingAfter kind) where
  meantime s := .refl s
  radio _ := rfl
  interlude request s := by
    change Evolves _ _ s (if request.kind == kind then _ else s)
    split
    · exact .change (.waits _ waits_only_abortSession) trivial
    · exact .refl s
  goOn s := .refl s

/-- A wait that begins with a request is interrupted by an abort right after that. -/
lemma interrupted_abortingAfter (station : Station) (request : Request) (s : System Script)
    (h : (station.venue.view (Script.controller.issue .caller request s).2.host).armed = true) :
    (⟨station, ((Op.issue request).run (abortingAfter request.kind) s).2⟩ : Wait Script).Interrupted
      Script.controller :=
  ⟨_, h, .aside (by rw [issue_abortingAfter])⟩

/-- A card is in the field, after such events, and the controller goes on by a script. -/
def besideCard (events : List Event) (script : Script) : System Script :=
  { ran Script.controller [] {} {} (firstBringUp ++
      (.activated (Sample.isoDepCard 1) :: events).map fun event => .move (.event event)) with
    controller := script }

/-- A first selection that is aborted before anything completed it fails and records no connection. -/
theorem aborted_selection_fails :
    let s := besideCard [] { silenced := [.select] }
    let env := abortingAfter .select
    let ended := (SessionCall.connect cardTarget).run.run env s
    (∃ p w, SessionCall.procedure? (.connect cardTarget) = some p ∧ w ∈ p.waits env s ∧
      w.Interrupted env.controller ∧ w.completed = false ∧ IsHeeded env s (.connect cardTarget) w) ∧
      Orderly SparesConnection env ∧
      tellsFailure ended.1 = true ∧ Evolves env.controller SparesConnection s ended.2 := by
  intro s env ended
  let armed := (heldFrom env Host.waitBound s).mapHost (Venue.select.map .arm)
  let asked := (Op.issue (Tag.selectRequest cardTarget)).run env armed
  have hready : s.host.flags.tagReady = true := by decide +kernel
  have hok : asked.1.isOk = true := by decide +kernel
  have hlate : asked.2.late = none := by decide +kernel
  have hqueue : asked.2.queue = [] := by decide +kernel
  have hp : SessionCall.procedure? (.connect cardTarget) =
    some (connect cardTarget fun status => .done (Answer.status status)) := rfl
  have hwaits : ⟨.select, asked.2⟩ ∈
      (connect cardTarget fun status => .done (Answer.status status)).waits env s :=
    onTag_waits hready (call_waits .select rfl hok (pass_quiet hlate hqueue))
  have hinterrupted : (⟨.select, asked.2⟩ : Wait Script).Interrupted env.controller :=
    interrupted_abortingAfter .select (Tag.selectRequest cardTarget) armed (by decide +kernel)
  have hopen : (⟨.select, asked.2⟩ : Wait Script).completed = false := by decide +kernel
  obtain ⟨-, hall⟩ := aborted_wait_fails env s hp
  obtain ⟨-, hheeded, -⟩ := hall _ hwaits hinterrupted hopen
  obtain ⟨hfails, hspares⟩ := hheeded trivial
  have ho : Orderly SparesConnection env := orderly_aborting .select
  exact ⟨⟨_, _, hp, hwaits, hinterrupted, hopen, trivial⟩, ho, hfails, hspares ho⟩

/-- A reconnection whose wait for the sleep of the tag is aborted before anything completed it selects the
target all the same, succeeds and records the connection. -/
theorem aborted_sleep_reconnects :
    let s := besideCard [.deactivated true]
      { silenced := [.deactivate], lastTarget := some (Sample.isoDepCard 1), reactivates := true }
    let env := abortingAfter .deactivate
    let again := (SessionCall.reconnect cardTarget true).run.run env s
    (∃ p w, SessionCall.procedure? (.reconnect cardTarget true) = some p ∧ w ∈ p.waits env s ∧
      w.Interrupted env.controller ∧ w.completed = false) ∧
      s.host.session.connection = none ∧ again.1 = .verdict true ∧
      again.2.host.session.connection = some cardTarget ∧
      callerRequests (again.2.trace.drop s.trace.length) =
        [.deactivate true, .select 1 Protocol.isoDep 0x02] := by
  intro s env again
  let armed := (heldFrom env Host.waitBound s).mapHost (Venue.deactivated.map .arm)
  let asked := (Op.issue (.deactivate true)).run env armed
  have hready : s.host.flags.tagReady = true := by decide +kernel
  have hok : asked.1.isOk = true := by decide +kernel
  have hlate : asked.2.late = none := by decide +kernel
  have hqueue : asked.2.queue = [] := by decide +kernel
  have hwaits := reconnect_waits cardTarget (fun done => .done (Answer.verdict done)) hready rfl hok
    hlate hqueue
  have hinterrupted : (⟨.deactivated, asked.2⟩ : Wait Script).Interrupted env.controller :=
    interrupted_abortingAfter .deactivated (.deactivate true) armed (by decide +kernel)
  have hopen : (⟨.deactivated, asked.2⟩ : Wait Script).completed = false := by decide +kernel
  have hbefore : s.host.session.connection = none := by decide +kernel
  have hanswer : again.1 = .verdict true := by decide +kernel
  have hafter : again.2.host.session.connection = some cardTarget := by decide +kernel
  have hrequests : callerRequests (again.2.trace.drop s.trace.length) =
      [.deactivate true, .select 1 Protocol.isoDep 0x02] := by decide +kernel
  exact ⟨⟨_, _, rfl, hwaits, hinterrupted, hopen⟩, hbefore, hanswer, hafter, hrequests⟩

end Examples

end NfcStack.Proofs
