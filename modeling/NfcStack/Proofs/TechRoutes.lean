import NfcStack.Proofs.TechMasks
import NfcStack.Proofs.RecordedConnection

/-!
# Routes of technologies

A technology is routed to the host or to a secure element. What is routed off the host is settled when card
emulation is brought up, and from then on the host routes to itself only what is left. Between two
registrations for the execution environments no technology is therefore routed to both.
-/

namespace NfcStack.Proofs

variable {σ : Type} {c : Controller σ} {s t u : System σ}

section Trace

/-- An entry whose request parts what is routed. -/
def PartsTech (routed : TechMask) (entry : Entry) : Prop :=
  ∀ origin request verdict, entry.passage = .request origin request verdict → Parts routed request

lemma partsTech_of_eq {passage : Passage} {flags : Flags} {routed : TechMask}
    (h : ∀ origin request verdict, passage = .request origin request verdict → setsTech request = false) :
    PartsTech routed ⟨passage, flags⟩ :=
  fun origin request verdict hpassage => parts_of_other (h origin request verdict hpassage) routed

lemma reaction_setsTech {entry : Entry} (h : OfDelivery entry) {origin : Origin} {request : Request}
    {verdict : Status} (hpassage : entry.passage = .request origin request verdict) :
    setsTech request = false := by
  rcases h with ⟨event, hevent⟩ | hreaction
  · rw [hevent] at hpassage
    exact absurd hpassage nofun
  · unfold OfReaction at hreaction
    rw [hpassage] at hreaction
    cases origin with
    | caller => exact hreaction.elim
    | reaction =>
      cases request with
      | setTechRouting handle powers => exact hreaction.elim
      | _ => rfl

lemma partsTech_delivery {entry : Entry} (h : OfDelivery entry) (routed : TechMask) :
    PartsTech routed entry :=
  fun _ _ _ hpassage => parts_of_other (reaction_setsTech h hpassage) routed

lemma mem_callerRequests {trace : List Entry} {entry : Entry} (h : entry ∈ trace) {request : Request}
    {verdict : Status} (hpassage : entry.passage = .request .caller request verdict) :
    request ∈ callerRequests trace :=
  List.mem_filterMap.mpr ⟨entry, h, by rw [hpassage]⟩

lemma Posed.parts {requests : List Request} {routed : TechMask} (h : Posed c s t requests)
    (hparts : ∀ request ∈ requests, Parts routed request) : Adds (PartsTech routed) s t := by
  have hreactions : Adds (fun entry => ∀ request verdict,
      entry.passage = .request .reaction request verdict → setsTech request = false) s t :=
    h.evolves.adds (fun _ hof _ _ hpassage => reaction_setsTech hof hpassage)
      (fun _ _ _ _ _ _ _ => nofun) fun _ _ _ _ => nofun
  obtain ⟨new, htrace, hnew⟩ := hreactions
  refine ⟨new, htrace, fun entry hentry origin request verdict hpassage => ?_⟩
  cases origin with
  | reaction => exact parts_of_other (hnew entry hentry request verdict hpassage) routed
  | caller =>
    have hmade := h.asks.made
    rw [trace_since htrace] at hmade
    exact hparts request (hmade ▸ mem_callerRequests hentry hpassage)

/-- A registration for the environments' events that the controller accepted. -/
def registers (entry : Entry) : Bool :=
  match entry.passage with
  | .request .caller .registerNfcees verdict => verdict.isOk
  | _ => false

/-- A technology is routed to an environment. -/
def RoutesTo (handle : NfceeHandle) (tech : TechMask) (entry : Entry) : Prop :=
  ∃ origin powers verdict, entry.passage = .request origin (.setTechRouting handle powers) verdict ∧
    Routes powers tech

/-- What was routed off the host since the last registration is settled, and at no time was anything routed
to the host that was routed off it since the registration before. -/
structure Apart (routed : TechMask) (trace : List Entry) : Prop where
  recent : ∀ entry ∈ sinceLast registers trace, ∀ handle tech, tech.isEmpty = false →
    RoutesTo handle tech entry → handle ≠ .host → routed.contains tech = true
  past : ∀ earlier entry, earlier ++ [entry] <+: trace → ∀ tech, tech.isEmpty = false →
    RoutesTo .host tech entry → ∀ other ∈ sinceLast registers earlier, ∀ handle,
      RoutesTo handle tech other → handle = .host

lemma apart_nil (routed : TechMask) : Apart routed [] where
  recent _ h := absurd h List.not_mem_nil
  past earlier entry h := by
    have hnil := List.prefix_nil.mp h
    exact absurd hnil (by simp)

lemma PartsTech.routesTo {routed : TechMask} {entry : Entry} (h : PartsTech routed entry)
    {handle : NfceeHandle} {tech : TechMask} (hsome : tech.isEmpty = false)
    (hroutes : RoutesTo handle tech entry) : handle = .host ↔ routed.contains tech = false := by
  obtain ⟨origin, powers, verdict, hpassage, hpowers⟩ := hroutes
  exact h origin _ verdict hpassage tech hsome hpowers

lemma Apart.snoc {routed : TechMask} {trace : List Entry} {entry : Entry} (h : Apart routed trace)
    (hentry : PartsTech routed entry) : Apart routed (trace ++ [entry]) where
  recent other hmem handle tech hsome hroutes hhandle := by
    cases hregisters : registers entry with
    | true =>
      rw [sinceLast_self hregisters] at hmem
      exact absurd hmem List.not_mem_nil
    | false =>
      rw [sinceLast_other hregisters] at hmem
      rcases List.mem_append.mp hmem with hold | hlast
      · exact h.recent other hold handle tech hsome hroutes hhandle
      · obtain rfl := List.mem_singleton.mp hlast
        exact eq_true_of_ne_false fun hfree => hhandle ((hentry.routesTo hsome hroutes).mpr hfree)
  past earlier last hprefix tech hsome hroutes other hmem handle hother := by
    rcases List.prefix_concat_iff.mp hprefix with heq | hbefore
    · obtain ⟨rfl, hlast⟩ := List.append_inj' heq rfl
      obtain rfl := List.cons.inj hlast |>.1
      by_contra hhandle
      have hcontains := h.recent other hmem handle tech hsome hother hhandle
      rw [(hentry.routesTo hsome hroutes).mp rfl] at hcontains
      exact absurd hcontains nofun
    · exact h.past earlier last hbefore tech hsome hroutes other hmem handle hother

lemma Apart.append {routed : TechMask} {trace new : List Entry} (h : Apart routed trace)
    (hnew : ∀ entry ∈ new, PartsTech routed entry) : Apart routed (trace ++ new) := by
  induction new using List.reverseRecOn with
  | nil => rwa [List.append_nil]
  | append_singleton rest entry ih =>
    rw [← List.append_assoc]
    refine (ih fun other hmem => hnew other (List.mem_append_left _ hmem)).snoc ?_
    exact hnew entry (List.mem_append_right _ (List.mem_singleton_self _))

lemma not_routesTo_of_registers {entry : Entry} (h : registers entry = true) {handle : NfceeHandle}
    {tech : TechMask} : ¬RoutesTo handle tech entry := by
  rintro ⟨origin, powers, verdict, hpassage, -⟩
  unfold registers at h
  rw [hpassage] at h
  cases origin with
  | caller => exact absurd h nofun
  | reaction => exact absurd h nofun

/-- After a registration anything may be routed off the host. -/
lemma Apart.registered {routed : TechMask} {trace : List Entry} {entry : Entry}
    (h : Apart routed trace) (hentry : registers entry = true) (next : TechMask) :
    Apart next (trace ++ [entry]) where
  recent other hmem := by
    rw [sinceLast_self hentry] at hmem
    exact absurd hmem List.not_mem_nil
  past earlier last hprefix tech hsome hroutes := by
    rcases List.prefix_concat_iff.mp hprefix with heq | hbefore
    · obtain ⟨rfl, hlast⟩ := List.append_inj' heq rfl
      obtain rfl := List.cons.inj hlast |>.1
      exact absurd hroutes (not_routesTo_of_registers hentry)
    · exact h.past earlier last hbefore tech hsome hroutes

end Trace

section Runs

/-- Acts that route no technology and settle nothing about what is routed off the host. -/
def LeavesTech : Act → Prop
  | .request request => setsTech request = false
  | .change (.offHostTech _) => False
  | _ => True

lemma leavesTech_plain : ∀ act, ¬Particular act → LeavesTech act := by
  intro act hplain
  cases act with
  | request request =>
    cases request with
    | setTechRouting handle powers => exact absurd trivial hplain
    | _ => rfl
  | report event => trivial
  | change change =>
    cases change with
    | offHostTech routed => exact absurd trivial hplain
    | _ => trivial

lemma leavesTech_tagWork : ∀ act, TagWork act → LeavesTech act := by
  intro act hwork
  cases act with
  | request request =>
    cases request with
    | setTechRouting handle powers => exact hwork.elim
    | _ => rfl
  | report event => trivial
  | change change =>
    cases change with
    | offHostTech routed => exact hwork.elim
    | _ => trivial

/-- Acts that part what is routed and settle nothing about what is routed off the host. -/
def PartsAct (routed : TechMask) : Act → Prop
  | .request request => Parts routed request
  | .change (.offHostTech _) => False
  | _ => True

lemma LeavesTech.parts {act : Act} (h : LeavesTech act) (routed : TechMask) : PartsAct routed act := by
  cases act with
  | request request => exact parts_of_other h routed
  | report event => trivial
  | change change =>
    cases change with
    | offHostTech _ => exact h.elim
    | _ => trivial

/-- What is routed off the host stays as it was settled. -/
lemma Evolves.partsTech {routed : TechMask} (h : Evolves c (PartsAct routed) s t) :
    t.host.router.offHostTech = s.host.router.offHostTech ∧ Adds (PartsTech routed) s t := by
  have hasked {request : Request} (hr : Parts routed request) (verdict : Status) (flags : Flags) :
      PartsTech routed ⟨.request .caller request verdict, flags⟩ := by
    intro origin other status hpassage
    obtain ⟨-, rfl, -⟩ := Passage.request.inj hpassage
    exact hr
  refine ⟨h.offHostTech fun _ => id, ?_⟩
  exact h.adds (fun _ hof => partsTech_delivery hof routed) (fun _ _ _ hp _ => hasked hp _ _)
    fun _ _ => hasked (parts_of_other rfl routed) _ _

/-- From one system to another the technologies stay apart. -/
def StaysApart (s t : System σ) : Prop :=
  Apart s.host.router.offHostTech s.trace → Apart t.host.router.offHostTech t.trace

lemma staysApart_of_adds (hsame : t.host.router.offHostTech = s.host.router.offHostTech)
    (h : Adds (PartsTech s.host.router.offHostTech) s t) : StaysApart s t := by
  intro hs
  obtain ⟨new, htrace, hnew⟩ := h
  rw [hsame, htrace]
  exact hs.append hnew

lemma Evolves.staysApart (h : Evolves c LeavesTech s t) : StaysApart s t := by
  obtain ⟨hsame, hadds⟩ := (h.mono fun _ hleaves => hleaves.parts s.host.router.offHostTech).partsTech
  exact staysApart_of_adds hsame hadds

lemma composes_apart (c : Controller σ) : Composes LeavesTech c.alone StaysApart where
  evolves h := h.staysApart
  trans h₁ h₂ hs := h₂ (h₁ hs)
  occupy {s t} resource h := by
    have hback : StaysApart (t.mapHost (giveBack s.host.inUse))
        (c.release (t.mapHost (giveBack s.host.inUse))) :=
      staysApart_of_adds (offHostTech_of_steady (release_steady c _))
        ((release_adds c _).mono fun _ hof => partsTech_delivery hof _)
    exact fun hs => hback (h hs)
  meantime _ := id
  radio _ := rfl
  interlude _ _ := id
  goOn _ := id

/-- Whatever else is asked for in bringing card emulation up routes no technology. -/
lemma Posed.leaves {requests : List Request} (h : Posed c s t requests)
    (hleaves : ∀ request ∈ requests, setsTech request = false) (routed : TechMask) :
    Adds (PartsTech routed) s t :=
  h.parts fun request hmem => parts_of_other (hleaves request hmem) routed

lemma activations_leave (infos : Except Status (List NfceeInfo)) :
    ∀ request ∈ Request.queryNfcees :: activations infos, setsTech request = false := by
  intro request hmem
  rcases List.mem_cons.mp hmem with rfl | hmem
  · rfl
  · unfold activations at hmem
    split at hmem
    · obtain ⟨info, -, rfl⟩ := List.mem_map.mp hmem
      rfl
    · exact absurd hmem List.not_mem_nil

lemma listenRequests_leave (setting : CardSetting) :
    ∀ request ∈ setting.listenRequests, setsTech request = false := by
  simp [CardSetting.listenRequests, setsTech]

lemma defaultRequests_leave (setting : CardSetting) (infos : Except Status (List NfceeInfo))
    (version : UInt8) : ∀ request ∈ setting.defaultRequests infos version, setsTech request = false := by
  unfold CardSetting.defaultRequests
  split
  · simp [setsTech]
  · simp

lemma isoDepRequests_leave (setting : CardSetting) (infos : Except Status (List NfceeInfo)) :
    ∀ request ∈ setting.isoDepRequests infos, setsTech request = false := by
  simp [CardSetting.isoDepRequests, setsTech]

/-- After the registration only what the environments offer is routed, and that is settled. -/
lemma Stages.parts {active routed listening ready : System σ}
    (h : Stages c s active routed listening ready t) :
    t.host.router.offHostTech = (CardSetting.ofHost active.host).offHostTech ∧
      Adds (PartsTech (CardSetting.ofHost active.host).offHostTech) s t := by
  have hrouted : t.host.router.offHostTech = (CardSetting.ofHost active.host).offHostTech := by
    rw [h.isoDep.offHostTech, h.defaults.offHostTech, h.listens.offHostTech]
    rfl
  have hfirst := (h.activates.leaves (activations_leave _) _).trans
    (h.routes.parts (CardSetting.ofHost active.host).techRequests_part)
  have hsettled : Adds (PartsTech (CardSetting.ofHost active.host).offHostTech) routed
      (settled routed (CardSetting.ofHost active.host).offHostTech) := adds_of_trace_eq rfl
  have hrest : Adds (PartsTech (CardSetting.ofHost active.host).offHostTech)
      (settled routed (CardSetting.ofHost active.host).offHostTech) t :=
    (h.listens.leaves (listenRequests_leave _) _).trans
      ((h.defaults.leaves (defaultRequests_leave _ _ _) _).trans
        (h.isoDep.leaves (isoDepRequests_leave _ _) _))
  exact ⟨hrouted, (hfirst.trans hsettled).trans hrest⟩

/-- Among what is asked for after the registration, routing technologies stands together. -/
lemma Stages.asked {active routed listening ready : System σ}
    (h : Stages c s active routed listening ready t) : ∃ before after,
      Asks s t (before ++ (CardSetting.ofHost active.host).techRequests ++ after) ∧
        ∀ request ∈ before ++ after, setsTech request = false := by
  have hrest : Asks routed t _ := h.listens.asks.trans (h.defaults.asks.trans h.isoDep.asks)
  refine ⟨_, _, (h.activates.asks.trans h.routes.asks).trans hrest, fun request hmem => ?_⟩
  rcases List.mem_append.mp hmem with hmem | hmem
  · exact activations_leave _ request hmem
  · rcases List.mem_append.mp hmem with hmem | hmem
    · exact listenRequests_leave _ request hmem
    · rcases List.mem_append.mp hmem with hmem | hmem
      · exact defaultRequests_leave _ _ _ request hmem
      · exact isoDepRequests_leave _ _ request hmem

/-- After an accepted registration it is settled what is routed off the host, by the routing configuration
and what the environments announced. -/
lemma bringUp_settles (ha : (registering c s).accepted) :
    let t := ((CardEmulation.bringUp : Op σ Bool).run c.alone s).2
    ∃ setting : CardSetting, setting.routing = s.host.config.routing ∧
      t.host.router.offHostTech = setting.offHostTech ∧
      ∃ before after, callerRequests (t.trace.drop s.trace.length) =
        before ++ setting.techRequests ++ after ∧ ∀ request ∈ before ++ after, setsTech request = false := by
  intro t
  obtain ⟨active, routed, listening, ready, h⟩ := establish_stages c (registered c s)
  obtain ⟨before, after, hasks, hleaves⟩ := h.asked
  have hborne : Bears (fun _ => True) (registering c s).asked active :=
    ((registered_posed ha).evolves.bears fun _ _ => id).trans (h.activates.evolves.bears fun _ _ => id)
  have ht : t = ((CardEmulation.establish : Op σ Unit).run c.alone (registered c s)).2 := by
    change ((CardEmulation.bringUp : Op σ Bool).run c.alone s).2 = _
    rw [bringUp_accepted ha]
  have hall := (registered_asks c s).trans hasks
  rw [← ht] at hall
  refine ⟨CardSetting.ofHost active.host, congrArg Prod.fst hborne.ground, ?_,
    .registerNfcees :: before, after, hall.made, fun request hmem => ?_⟩
  · rw [ht]
    exact h.parts.1
  · rcases List.mem_cons.mp hmem with rfl | hmem
    · rfl
    · exact hleaves request hmem

lemma bringUp_apart (s : System σ) :
    StaysApart s ((CardEmulation.bringUp : Op σ Bool).run c.alone s).2 := by
  by_cases ha : (registering c s).accepted
  · intro hs
    have hregisters : registers ⟨.request .caller .registerNfcees (registering c s).verdict,
        (registering c s).asked.host.flags⟩ = true := ha
    obtain ⟨active, routed, listening, ready, h⟩ := establish_stages c (registered c s)
    obtain ⟨hrouted, hadds⟩ := h.parts
    rw [bringUp_accepted ha]
    dsimp only
    rw [hrouted]
    -- What was routed off the host before the registration counts no more.
    have hasked : Apart (CardSetting.ofHost active.host).offHostTech (registering c s).asked.trace :=
      hs.registered hregisters _
    obtain ⟨new, htrace, hnew⟩ := ((registered_posed ha).leaves (fun _ => nofun) _).trans hadds
    rw [htrace]
    exact hasked.append hnew
  · rw [bringUp_refused ha]
    have hended : (registering c s).ended = (registering c s).asked := if_neg ha
    have hadds : Adds (PartsTech s.host.router.offHostTech) s (registered c s) := by
      unfold registered
      rw [hended]
      refine ⟨[_], rfl, fun entry hentry => ?_⟩
      obtain rfl := List.mem_singleton.mp hentry
      refine partsTech_of_eq fun _ _ _ hpassage => ?_
      obtain ⟨-, rfl, -⟩ := Passage.request.inj hpassage
      rfl
    have hsame : (registered c s).host.router.offHostTech = s.host.router.offHostTech := by
      unfold registered
      rw [hended]
      rfl
    exact staysApart_of_adds hsame hadds

/-- What the host asks for when it routes to itself, or withdraws that. -/
def hostRequests (enable : Bool) (host : Host) : List Request :=
  (if host.config.routing.isoDepRoute = hostRoute then
    [CardEmulation.hostIsoDepRequest enable host.router.secure] else []) ++
  (CardEmulation.hostTechs.filter fun tech =>
    host.config.routing.hostListenTech.contains tech && !host.router.offHostTech.contains tech).map
      (CardEmulation.hostTechRequest enable host.router.secure)

lemma setHostRouting_posed (enable : Bool) (s : System σ) :
    Posed c s ((CardEmulation.setHostRouting enable : Op σ Unit).run c.alone s).2
      (hostRequests enable s.host) := by
  have htech (tech : TechMask) :
      Ordering (.request (CardEmulation.hostTechRequest enable s.host.router.secure tech)) := by
    cases enable <;> trivial
  have hisoDep : Ordering (.request (CardEmulation.hostIsoDepRequest enable s.host.router.secure)) := by
    cases enable <;> trivial
  have htechs (techs : List TechMask) : Poses c (CardEmulation.forEach techs fun tech => do
      let _ ← CardEmulation.routingCall
        (CardEmulation.hostTechRequest enable s.host.router.secure tech)
      return () : Op σ Unit)
        (techs.map (CardEmulation.hostTechRequest enable s.host.router.secure)) :=
    poses_forEach fun tech => poses_routingEdit _ (htech tech)
  unfold CardEmulation.setHostRouting hostRequests
  rw [Op.run_bind, Op.run_host]
  dsimp only
  split
  · exact (poses_routingCall _ hisoDep).cons (fun _ => htechs _) s
  · exact htechs _ s

lemma mem_hostRequests {enable : Bool} {host : Host} {request : Request}
    (h : request ∈ hostRequests enable host) (hsets : setsTech request = true) :
    ∃ tech ∈ CardEmulation.hostTechs, host.config.routing.hostListenTech.contains tech = true ∧
      host.router.offHostTech.contains tech = false ∧
        request = CardEmulation.hostTechRequest enable host.router.secure tech := by
  rcases List.mem_append.mp h with h | h
  · split at h
    · obtain rfl := List.mem_singleton.mp h
      cases enable with
      | true => exact absurd hsets nofun
      | false => exact absurd hsets nofun
    · exact absurd h List.not_mem_nil
  · obtain ⟨tech, hmem, rfl⟩ := List.mem_map.mp h
    obtain ⟨htech, hkept⟩ := List.mem_filter.mp hmem
    rw [Bool.and_eq_true, Bool.not_eq_true'] at hkept
    exact ⟨tech, htech, hkept.1, hkept.2, rfl⟩

lemma host_parts {routed tech : TechMask} (htech : tech ∈ CardEmulation.hostTechs)
    (hfree : routed.contains tech = false) (secure : Bool) :
    Parts routed (.setTechRouting .host (PowerRouting.host tech secure)) := by
  intro part hsome hroutes
  obtain ⟨-, -, hleast⟩ := hostTech_bit htech
  have hpart : part = tech := hleast part ((host_allOrNone _ _).contains hroutes hsome) hsome
  rw [hpart, hfree]
  exact iff_of_true rfl rfl

lemma hostRequests_part (enable : Bool) (host : Host) :
    ∀ request ∈ hostRequests enable host, Parts host.router.offHostTech request := by
  intro request h
  cases hsets : setsTech request with
  | false => exact parts_of_other hsets _
  | true =>
    obtain ⟨tech, htech, -, hfree, rfl⟩ := mem_hostRequests h hsets
    cases enable with
    | false => exact absurd hsets nofun
    | true => exact host_parts htech hfree _

/-- The host routes to itself exactly what it listens to and is not routed off it. -/
lemma hostRequests_techs (host : Host) : (hostRequests true host).filter setsTech =
    (CardEmulation.hostTechs.filter fun tech =>
      host.config.routing.hostListenTech.contains tech && !host.router.offHostTech.contains tech).map
        fun tech => .setTechRouting .host (PowerRouting.host tech host.router.secure) := by
  unfold hostRequests
  rw [List.filter_append]
  have hisoDep : (if host.config.routing.isoDepRoute = hostRoute then
      [CardEmulation.hostIsoDepRequest true host.router.secure] else []).filter setsTech = [] := by
    split
    · rfl
    · rfl
  rw [hisoDep, List.nil_append, List.filter_eq_self.mpr]
  · rfl
  · intro request hmem
    obtain ⟨tech, -, rfl⟩ := List.mem_map.mp hmem
    rfl

lemma setHostRouting_apart (enable : Bool) (s : System σ) :
    StaysApart s ((CardEmulation.setHostRouting enable : Op σ Unit).run c.alone s).2 :=
  staysApart_of_adds (setHostRouting_posed enable s).offHostTech
    ((setHostRouting_posed enable s).parts (hostRequests_part enable s.host))

lemma runAll_apart (deeds : List Deed) : Along StaysApart c.alone (Deed.runAll deeds : Op σ Unit) := by
  have hR := composes_apart c
  have hm (act : Act) (_ : SparesMode act) : ¬Particular act → LeavesTech act := leavesTech_plain act
  have ⟨hs, hc⟩ := tagWork_follows leavesTech_tagWork hR
  have he : FollowsEndpoints StaysApart c.alone :=
    followsEndpoints hR hs hc (fun act _ => leavesTech_plain act) fun _ _ => trivial
  have hf : FollowsRouting StaysApart c.alone :=
    { addAid := fun aid route info s => addAid_along hR hm aid route info s rfl
      bringUp := bringUp_apart
      host := setHostRouting_apart }
  exact runAll_along hR hs hc hf he leavesTech_plain deeds fun deed _ =>
    deed.within (fun _ => trivial) (fun _ => rfl) fun _ => trivial

end Runs

section Company

variable {routed : TechMask} {env : Environment σ}

/-- Until the next registration what is routed off the host stays as it was settled, and none of it is
routed to the host. -/
def KeepsOff (routed : TechMask) (s t : System σ) : Prop :=
  ∃ new, t.trace = s.trace ++ new ∧ (s.host.router.offHostTech = routed →
    (∀ entry ∈ beforeNext registers new, PartsTech routed entry) ∧
      (new.any registers = false → t.host.router.offHostTech = routed))

lemma KeepsOff.covers (h : KeepsOff routed s t) : s.trace <+: t.trace := by
  obtain ⟨new, htrace, -⟩ := h
  exact ⟨new, htrace.symm⟩

lemma KeepsOff.trans (h₁ : KeepsOff routed s t) (h₂ : KeepsOff routed t u) : KeepsOff routed s u := by
  obtain ⟨first, hfirst, hone⟩ := h₁
  obtain ⟨rest, hrest, htwo⟩ := h₂
  refine ⟨first ++ rest, by rw [hrest, hfirst, List.append_assoc], fun hs => ?_⟩
  obtain ⟨hparts, hstays⟩ := hone hs
  rw [beforeNext_append, List.any_append]
  cases hany : first.any registers with
  | true => exact ⟨hparts, nofun⟩
  | false =>
    obtain ⟨hpartsRest, hstaysRest⟩ := htwo (hstays hany)
    have hwhole : beforeNext registers first = first := by
      have happended : beforeNext registers (first ++ []) = _ := beforeNext_append first []
      rw [hany, List.append_nil] at happended
      exact happended.trans (List.append_nil first)
    rw [hwhole] at hparts
    exact ⟨fun entry hentry => (List.mem_append.mp hentry).elim (hparts entry) (hpartsRest entry),
      hstaysRest⟩

lemma keepsOff_of_adds (hsame : t.host.router.offHostTech = s.host.router.offHostTech)
    (h : Adds (PartsTech routed) s t) : KeepsOff routed s t := by
  obtain ⟨new, htrace, hnew⟩ := h
  refine ⟨new, htrace, fun hs => ⟨fun entry hentry => hnew entry ?_, fun _ => hsame.trans hs⟩⟩
  exact (List.takeWhile_prefix _).subset hentry

lemma keepsOff_occupy (resource : Resource)
    (h : KeepsOff routed (s.mapHost (takeResource resource)) t) :
    KeepsOff routed s (c.release (t.mapHost (giveBack s.host.inUse))) := by
  have hback : KeepsOff routed (t.mapHost (giveBack s.host.inUse))
      (c.release (t.mapHost (giveBack s.host.inUse))) :=
    keepsOff_of_adds (offHostTech_of_steady (release_steady c _))
      ((release_adds c _).mono fun _ hof => partsTech_delivery hof _)
  have hthere : KeepsOff routed s (t.mapHost (giveBack s.host.inUse)) := h
  exact hthere.trans hback

/-- Whoever keeps to this lets the trace go on. -/
lemma Composes.covering (hR : Composes (PartsAct routed) env (KeepsOff routed)) :
    Composes (fun _ => True) env fun s t : System σ => s.trace <+: t.trace where
  evolves h := h.covers
  trans h₁ h₂ := h₁.trans h₂
  occupy {s t} resource h := by
    obtain ⟨rest, hrest, -⟩ := release_adds env.controller (t.mapHost (giveBack s.host.inUse))
    exact List.IsPrefix.trans h ⟨rest, hrest.symm⟩
  meantime s := (hR.meantime s).covers
  radio := hR.radio
  interlude request s := (hR.interlude request s).covers
  goOn s := (hR.goOn s).covers

/-- Where a registration comes first, nothing is asked of what follows it. -/
lemma keepsOff_of_registers {entry : Entry} (hregisters : registers entry = true)
    (h : s.trace ++ [entry] <+: t.trace) : KeepsOff routed s t := by
  obtain ⟨rest, hrest⟩ := h
  refine ⟨entry :: rest, hrest.symm.trans (List.append_assoc s.trace [entry] rest), fun _ => ?_⟩
  unfold beforeNext
  rw [List.takeWhile_cons_of_neg (by rw [hregisters]; exact Bool.false_ne_true), List.any_cons,
    hregisters, Bool.true_or]
  exact ⟨fun _ hmem => absurd hmem List.not_mem_nil, fun hnone => absurd hnone.symm Bool.false_ne_true⟩

/-- Card emulation begins with the registration, and ends with it if that is refused. -/
lemma bringUp_registers
    (hC : Composes (fun _ => True) env fun s t : System σ => s.trace <+: t.trace) :
    ∃ next : Outcome Status → Op σ Bool,
      CardEmulation.bringUp = Op.call Venue.register .registerNfcees >>= next ∧
      (∀ outcome, Along (fun s t : System σ => s.trace <+: t.trace) env (next outcome)) ∧
      ∀ verdict, next (.rejected verdict) = return false := by
  have hm (act : Act) (_ : SparesMode act) (_ : ¬Particular act) : True := trivial
  have hadd (aid : Aid) (route : UInt8) (info : AidInfo) :=
    fun s : System σ => addAid_along hC hm aid route info s trivial
  have hestablish : Along (fun s t : System σ => s.trace <+: t.trace) env
      (CardEmulation.establish : Op σ Unit) :=
    cards_establish_along hC hm hadd (fun s => routeTechOffHost_along hC hm s fun _ _ => trivial)
      (fun s => routeIsoDep_along hC hm s (fun _ => trivial) fun _ => trivial) fun _ => trivial
  refine ⟨_, rfl, fun outcome => ?_, fun _ => rfl⟩
  split
  · exact along_pure hC _
  · exact along_bind hC hestablish fun _ => along_pure hC _

lemma bringUp_keepsOff (hR : Composes (PartsAct routed) env (KeepsOff routed)) :
    Along (KeepsOff routed) env (CardEmulation.bringUp : Op σ Bool) := by
  intro s
  have hC := hR.covering
  obtain ⟨next, hnext, hcovers, hrefused⟩ := bringUp_registers hC
  let armed := env.meantime (s.mapHost (Venue.register.map .arm))
  let asked := env.controller.issue .caller .registerNfcees armed
  have hrun : (CardEmulation.bringUp : Op σ Bool).run env s =
      ((if asked.1.isOk then Op.await Venue.register else do
          Op.update (Venue.register.map .disarm)
          return .rejected asked.1) >>= next).run env (env.interlude .registerNfcees asked.2) := by
    rw [hnext]
    rfl
  cases ha : asked.1.isOk with
  | true =>
    have hregisters : registers ⟨.request .caller .registerNfcees asked.1, armed.host.flags⟩ = true := ha
    have harmed : KeepsOff routed s (s.mapHost (Venue.register.map .arm)) :=
      keepsOff_of_adds rfl (adds_of_trace_eq rfl)
    have hrest : asked.2.trace <+: ((CardEmulation.bringUp : Op σ Bool).run env s).2.trace := by
      rw [hrun, ha]
      refine (hC.interlude .registerNfcees asked.2).trans ?_
      exact along_bind hC (along_await hC (fun _ _ => trivial) fun _ _ => rfl) hcovers _
    exact (harmed.trans (hR.meantime _)).trans (keepsOff_of_registers hregisters hrest)
  | false =>
    have hsets : setsTech .registerNfcees = false := rfl
    have hasks : Along (KeepsOff routed) env
        (Op.call Venue.register .registerNfcees : Op σ (Outcome Status)) :=
      along_call hR (fun _ _ => trivial) (fun _ _ => rfl) (parts_of_other hsets routed) nofun
    have hcall : KeepsOff routed s ((if asked.1.isOk then Op.await Venue.register else do
        Op.update (Venue.register.map .disarm)
        return .rejected asked.1 : Op σ (Outcome Status)).run env
          (env.interlude .registerNfcees asked.2)).2 := hasks s
    rw [ha, if_neg Bool.false_ne_true] at hcall
    rw [hrun, ha, if_neg Bool.false_ne_true, Op.run_bind]
    change KeepsOff routed s ((next (.rejected asked.1)).run env _).2
    rw [hrefused]
    exact hcall

/-- Whoever acts, what is routed off the host is not routed to it until the next registration. -/
lemma follows_keepsOff (c : Controller σ) (routed : TechMask) :
    FollowsRuns c (PartsAct routed) (KeepsOff routed) where
  plain act h := (leavesTech_plain act h).parts routed
  evolves h := keepsOff_of_adds h.partsTech.1 h.partsTech.2
  trans := .trans
  occupy resource h := keepsOff_occupy resource h
  selection _ hR := (tagWork_follows (fun act h => (leavesTech_tagWork act h).parts routed) hR).1
  content _ hR := (tagWork_follows (fun act h => (leavesTech_tagWork act h).parts routed) hR).2
  routing {env} _ hR := by
    have hm (act : Act) (_ : SparesMode act) (h : ¬Particular act) : PartsAct routed act :=
      (leavesTech_plain act h).parts routed
    have hcovers : FollowsRouting (fun s t : System σ => s.trace <+: t.trace) env :=
      sparesMode_followsRouting hR.covering fun _ _ => trivial
    refine ⟨fun aid route info s => addAid_along hR hm aid route info s trivial, bringUp_keepsOff hR,
      fun enable s => ?_⟩
    by_cases hs : s.host.router.offHostTech = routed
    · exact setHostRouting_along hR hm enable s
        (fun tech htech hfree => host_parts htech (hs ▸ hfree) _) trivial
    · obtain ⟨new, hnew⟩ := hcovers.host enable s
      exact ⟨new, hnew.symm, fun hsame => absurd hsame hs⟩
  endpoints _ hR :=
    have ⟨hs, hc⟩ := tagWork_follows (fun act h => (leavesTech_tagWork act h).parts routed) hR
    followsEndpoints hR hs hc (fun act _ h => (leavesTech_plain act h).parts routed) fun _ _ => trivial

end Company

/-- Between a route of a technology to a secure element and one of it to the host there is a registration. -/
lemma Apart.between {routed tech : TechMask} {before between after : List Entry} {other entry : Entry}
    (h : Apart routed (before ++ other :: between ++ entry :: after)) (hsome : tech.isEmpty = false)
    {handle : NfceeHandle} (hother : RoutesTo handle tech other) (hhandle : handle ≠ .host)
    (hentry : RoutesTo .host tech entry) : between.any registers = true := by
  by_contra hnone
  have hclear : (other :: between).any registers = false := by
    rw [List.any_cons, Bool.eq_false_iff.mpr fun hregisters => not_routesTo_of_registers hregisters hother,
      Bool.false_or]
    exact Bool.eq_false_iff.mpr hnone
  have hsince : other ∈ sinceLast registers (before ++ other :: between) := by
    rw [sinceLast_append, hclear]
    exact List.mem_append_right _ List.mem_cons_self
  have hprefix : before ++ other :: between ++ [entry] <+: before ++ other :: between ++ entry :: after :=
    ⟨after, by simp⟩
  exact hhandle (h.past _ entry hprefix tech hsome hentry other hsince handle hother)

/-- A bring-up whose registration is accepted routes technologies to nothing but the configured environment.
What it asked to be routed there counts as routed off the host, and is withdrawn from the host. -/
lemma bringUp_parts (ha : (registering c s).accepted) :
    let routing := s.host.config.routing
    let t := ((CardEmulation.bringUp : Op σ Bool).run c.alone s).2
    let asked := callerRequests (t.trace.drop s.trace.length)
    (∀ handle powers, .setTechRouting handle powers ∈ asked →
      handle = .ofId routing.offHostRoute ∧ handle ≠ .host) ∧
    ∀ tech ∈ CardEmulation.hostTechs,
      (t.host.router.offHostTech.contains tech = true ↔
        ∃ handle powers, .setTechRouting handle powers ∈ asked ∧ Routes powers tech) ∧
      (t.host.router.offHostTech.contains tech = true → routing.hostListenTech.contains tech = true →
        .clearTechRouting .host tech ∈ asked) := by
  intro routing t asked
  obtain ⟨setting, hrouting, hrouted, before, after, hasked, hleaves⟩ := bringUp_settles ha
  have hincludes {request : Request} (hmem : request ∈ setting.techRequests) : request ∈ asked := by
    change request ∈ callerRequests (t.trace.drop s.trace.length)
    rw [hasked]
    exact List.mem_append_left _ (List.mem_append_right _ hmem)
  have hsets {handle : NfceeHandle} {powers : PowerRouting TechMask}
      (hmem : .setTechRouting handle powers ∈ asked) :
      .setTechRouting handle powers ∈ setting.techRequests := by
    change _ ∈ callerRequests (t.trace.drop s.trace.length) at hmem
    rw [hasked, List.append_assoc, List.mem_append, List.mem_append] at hmem
    rcases hmem with hmem | hmem | hmem
    · exact absurd (hleaves _ (List.mem_append_left _ hmem)) nofun
    · exact hmem
    · exact absurd (hleaves _ (List.mem_append_right _ hmem)) nofun
  refine ⟨fun handle powers hmem => ?_, fun tech htech => ⟨?_, fun hcontains hlistens => ?_⟩⟩
  · obtain ⟨one, hone, hrequest⟩ := setting.mem_techRequests (hsets hmem) rfl
    obtain ⟨rfl, -⟩ := Request.setTechRouting.inj hrequest
    obtain ⟨hroute, hhandle⟩ := setting.mem_targets hone
    rw [hhandle, hrouting] at *
    exact ⟨rfl, ofId_ne_host hroute⟩
  · rw [hrouted, setting.offHostTech_iff htech]
    exact exists_congr fun handle => exists_congr fun powers =>
      and_congr_left fun _ => ⟨hincludes, hsets⟩
  · rw [hrouted] at hcontains
    exact hincludes (setting.withdraws htech hcontains (hrouting ▸ hlistens))

/-- Whatever is begun and whoever acts, what is routed off the host stays so until the next registration. -/
lemma company_keepsOff (c : Controller σ) (others : List (Companion σ)) (taken : List Resource)
    (deeds : List Deed) (s : System σ) :
    KeepsOff s.host.router.offHostTech s
      ((Deed.runAll deeds).run { company c others with taken } s).2 := by
  have hfollows := follows_keepsOff c s.host.router.offHostTech
  have hwithin (deed : Deed) : deed.Within (PartsAct s.host.router.offHostTech) :=
    deed.within (fun _ => trivial) (fun _ => trivial) fun _ => trivial
  have hR := hfollows.company others fun companion _ => within_of_all hwithin companion
  have hc : ({ company c others with taken } : Environment σ).controller = c := company_controller c others
  have hheld : Composes (PartsAct s.host.router.offHostTech) { company c others with taken }
      (KeepsOff s.host.router.offHostTech) := hfollows.composes hc hR.meantime hR.radio hR.interlude hR.goOn
  exact hfollows.runAll hc hheld deeds (fun deed _ => hwithin deed) s

/-- The host and a secure element never compete for a technology. In a run of one caller a technology is
routed to the host after it was routed to an environment only if there was an accepted registration between
the two. A bring-up whose registration is accepted routes technologies to nothing but the configured
environment, counts as routed off the host what it asked to be routed there, and withdraws of that what the
host listens to. From then on, and until the next accepted registration, this stays so, whoever acts, and no
operation that is begun routes any of it to the host. Where host routing is enabled, the host routes to
itself what it listens to and is not routed off it, and nothing else. -/
theorem technologies_kept_apart (c : Controller σ) :
    (∀ (config : Config) (x : σ) (deeds : List Deed) before other between entry after,
      (ran c [] config x deeds).trace = before ++ other :: between ++ entry :: after →
      ∀ handle tech, tech.isEmpty = false → RoutesTo handle tech other → handle ≠ .host →
        RoutesTo .host tech entry → between.any registers = true) ∧
    (∀ s : System σ, (registering c s).accepted →
      let routing := s.host.config.routing
      let t := ((CardEmulation.bringUp : Op σ Bool).run c.alone s).2
      let asked := callerRequests (t.trace.drop s.trace.length)
      (∀ handle powers, .setTechRouting handle powers ∈ asked →
        handle = .ofId routing.offHostRoute ∧ handle ≠ .host) ∧
      ∀ tech ∈ CardEmulation.hostTechs,
        (t.host.router.offHostTech.contains tech = true ↔
          ∃ handle powers, .setTechRouting handle powers ∈ asked ∧ Routes powers tech) ∧
        (t.host.router.offHostTech.contains tech = true → routing.hostListenTech.contains tech = true →
          .clearTechRouting .host tech ∈ asked)) ∧
    (∀ (others : List (Companion σ)) (taken : List Resource) (deeds : List Deed) (s : System σ),
      let t := ((Deed.runAll deeds).run { company c others with taken } s).2
      let since := t.trace.drop s.trace.length
      (∀ entry ∈ beforeNext registers since, ∀ tech, tech.isEmpty = false →
        s.host.router.offHostTech.contains tech = true → ¬RoutesTo .host tech entry) ∧
      (since.any registers = false → t.host.router.offHostTech = s.host.router.offHostTech)) ∧
    ∀ s : System σ,
      let t := ((CardEmulation.setHostRouting true : Op σ Unit).run c.alone s).2
      (callerRequests (t.trace.drop s.trace.length)).filter setsTech =
        (CardEmulation.hostTechs.filter fun tech => s.host.config.routing.hostListenTech.contains tech &&
          !s.host.router.offHostTech.contains tech).map
            fun tech => .setTechRouting .host (PowerRouting.host tech s.host.router.secure) := by
  refine ⟨fun config x deeds before other between entry after hsplit handle tech hsome hother hhandle
    hentry => ?_, fun s ha => bringUp_parts ha, fun others taken deeds s => ?_, fun s => ?_⟩
  · have hrun : Apart (ran c [] config x deeds).host.router.offHostTech (ran c [] config x deeds).trace :=
      runAll_apart deeds (booted config x) (apart_nil _)
    rw [hsplit] at hrun
    exact hrun.between hsome hother hhandle hentry
  · intro t since
    obtain ⟨new, htrace, hkeeps⟩ := company_keepsOff c others taken deeds s
    obtain ⟨hparts, hstays⟩ := hkeeps rfl
    have hsince : since = new := trace_since htrace
    rw [hsince]
    refine ⟨fun entry hentry tech hsome hcontains hroutes => ?_, hstays⟩
    have hfree := ((hparts entry hentry).routesTo hsome hroutes).mp rfl
    rw [hcontains] at hfree
    exact absurd hfree nofun
  · intro t
    rw [(setHostRouting_posed true s).asks.made]
    exact hostRequests_techs s.host

/-- A secure element tells what it offers in NFC-A. -/
def offering (protocol : UInt8) : Deed :=
  .move (.event (.nfceesAnnounced .ok [{ handle := .ofId 0x81, protocolA := protocol, protocolB := 0x00 }]))

/-- A stack is up and routes to the element. Then the element offers nothing any more, card emulation is
brought up again, and host routing is enabled. -/
def elementLost : List Deed :=
  [.move (.call (.host .bringUp)), offering 0x01, .move (.call (.host .bringUpCards)), offering 0x00,
    .move (.call (.host .bringUpCards)), .move (.call (.host (.setHostRouting true)))]

/-- The element is registered between its route of NFC-A and that of the host. Before that the host withdraws
what it listens to, and enabling host routing routes nothing to it. -/
theorem element_registered_between :
    let config : Config := { routing := { offHostRoute := 0x81 } }
    let s := ran Script.controller [] config {} [.move (.call (.host .bringUp)), offering 0x01]
    let u := ((CardEmulation.bringUp : Op Script Bool).run Script.controller.alone s).2
    let t := ran Script.controller [] config {} elementLost
    .clearTechRouting .host TechMask.a ∈ callerRequests (u.trace.drop s.trace.length) ∧
      (∀ entry ∈ beforeNext registers ((afterDeeds Script.controller
        [.move (.call (.host (.setHostRouting true)))] u).trace.drop u.trace.length),
          ¬RoutesTo .host TechMask.a entry) ∧
      ∃ before other between entry after, t.trace = before ++ other :: between ++ entry :: after ∧
        RoutesTo (.ofId 0x81) TechMask.a other ∧ RoutesTo .host TechMask.a entry ∧
        between.any registers = true := by
  intro config s u t
  obtain ⟨hrun, hbringUp, hcompany, -⟩ := technologies_kept_apart Script.controller
  have ha : TechMask.a ∈ CardEmulation.hostTechs := List.mem_cons_self
  have hwithdraws (s u : System Script) (hs : (registering Script.controller s).accepted)
      (hu : ((CardEmulation.bringUp : Op Script Bool).run Script.controller.alone s).2 = u)
      (hrouted : u.host.router.offHostTech.contains TechMask.a = true)
      (hlistens : s.host.config.routing.hostListenTech.contains TechMask.a = true) :
      .clearTechRouting .host TechMask.a ∈ callerRequests (u.trace.drop s.trace.length) := by
    subst hu
    exact ((hbringUp s hs).2 TechMask.a ha).2 hrouted hlistens
  have haccepted : (registering Script.controller s).verdict.isOk = true := by decide +kernel
  have hrouted : u.host.router.offHostTech.contains TechMask.a = true := by decide +kernel
  have hlistens : s.host.config.routing.hostListenTech.contains TechMask.a = true := by decide +kernel
  have hroutes (handle : NfceeHandle) (powers : PowerRouting TechMask)
      (h : powers.switchOn.contains TechMask.a = true) :
      RoutesTo handle TechMask.a ⟨.request .caller (.setTechRouting handle powers) .ok, t.host.flags⟩ :=
    ⟨.caller, powers, .ok, rfl, routes_switchOn h⟩
  refine ⟨hwithdraws s u haccepted rfl hrouted hlistens, fun entry hentry => ?_, ?_⟩
  · exact (hcompany [] [] [.move (.call (.host (.setHostRouting true)))] u).1 entry hentry TechMask.a rfl hrouted
  · have helement := hroutes (.ofId 0x81) (PowerRouting.offHost TechMask.a false) rfl
    have hhost := hroutes .host (PowerRouting.host TechMask.a false) rfl
    have hsplit : t.trace = t.trace.take 26 ++
        ⟨.request .caller (.setTechRouting (.ofId 0x81) (PowerRouting.offHost TechMask.a false)) .ok,
          t.host.flags⟩ :: (t.trace.drop 27).take 29 ++
        ⟨.request .caller (.setTechRouting .host (PowerRouting.host TechMask.a false)) .ok,
          t.host.flags⟩ :: t.trace.drop 57 := by decide +kernel
    refine ⟨_, _, _, _, _, hsplit, helement, hhost, ?_⟩
    exact hrun config {} elementLost _ _ _ _ _ hsplit (.ofId 0x81) TechMask.a rfl helement nofun hhost

/-- The host takes over a technology of the element although no later bring-up routed it to one. -/
theorem host_takes_over :
    let t := ran Script.controller [] { routing := { offHostRoute := 0x81 } } {} elementLost
    (System.requestsOf t.trace).filter (fun request => setsTech request || request == .registerNfcees) =
        [.registerNfcees, .registerNfcees,
          .setTechRouting (.ofId 0x81) (PowerRouting.offHost TechMask.a false), .registerNfcees,
          .setTechRouting .host (PowerRouting.host TechMask.a false)] ∧
      t.trace.countP registers = 3 := by
  decide +kernel

end NfcStack.Proofs
