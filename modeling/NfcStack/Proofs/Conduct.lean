import NfcStack.Proofs.Delivery
import NfcStack.Proofs.Evolution

/-!
# What operations do

Every operation of the stack is an evolution. Radio and routing operations keep to routine acts: they
neither enable nor disable the controller and leave the tag session alone. The life cycle and the mode
of discovery spare the tag session as well. Of the operations on a tag two select one, and those that
handle the selected tag record no selection.
-/

namespace NfcStack.Proofs

variable {σ α : Type}

/-- Acts that concern neither the life cycle of the stack nor a tag. -/
def Routine : Act → Prop
  | .request .enable => False
  | .request (.disable _) => False
  | .request (.select _ _ _) => False
  | .request (.deactivate _) => False
  | .request _ => True
  | .change (.radio _) => True
  | .change (.polling _) => True
  | .change (.discoveryDuration _) => True
  | .change (.fieldBound _) => True
  | .change (.offHostTech _) => True
  | .change (.waits _ _) => True
  | _ => False

/-- What routine acts leave of a host: all but its radio, its bounds and where technologies are routed. -/
def groundOf (host : Host) : Host :=
  { unarmed host with
    flags := { host.flags with rf := false, polling := false, discoveryDuration := 0 }
    router := { (unarmed host).router with offHostTech := ∅ }
    fieldBound := 0 }

lemma routine_ground {change : Change} (h : Routine (.change change)) (host : Host) :
    groundOf (change.apply host) = groundOf host := by
  cases change with
  | waits f hf =>
    change groundOf (unarmed (f host)) = groundOf (unarmed host)
    rw [hf]
  | radio on => rfl
  | polling on => rfl
  | discoveryDuration duration => rfl
  | fieldBound bound => rfl
  | offHostTech routed => rfl
  | _ => exact h.elim

/-- Routine acts that leave alone whether the stack listens and how long a round of discovery takes. -/
def SparesMode : Act → Prop
  | .request .enableListening => False
  | .request .disableListening => False
  | .request (.setDiscoveryDuration _) => False
  | .change (.discoveryDuration _) => False
  | act => Routine act

/-- Acts that leave alone what the session and the endpoints know of a tag. -/
def SparesTag : Act → Prop
  | .change (.session _) => False
  | .change (.welcome _) => False
  | .change (.endpoint _ _) => False
  | .report _ => False
  | _ => True

/-- Acts of operations on tags. They concern neither the life cycle nor the radio nor an endpoint. -/
def TagWork : Act → Prop
  | .request (.select _ _ _) => True
  | .request (.deactivate _) => True
  | .request (.sendFrame _) => True
  | .request .registerNdef => True
  | .request .detectNdef => True
  | .request .readNdef => True
  | .request (.writeNdef _) => True
  | .request (.presenceCheck _) => True
  | .request .format => True
  | .request (.lock _) => True
  | .change .settled => True
  | .change (.fieldBound _) => True
  | .change (.waits _ _) => True
  | .change (.session _) => True
  | .change (.welcome _) => True
  | _ => False

/-- Acts of selecting a tag. -/
def Selecting : Act → Prop
  | .request (.select _ _ _) => True
  | .request (.deactivate _) => True
  | .change (.fieldBound _) => True
  | .change (.waits _ _) => True
  | .change (.session (.connection _)) => True
  | _ => False

/-- Acts that set bounds of exchanges or bring the configured ones back. -/
def Bounding : Act → Prop
  | .change (.session .letGo) => True
  | .change (.session (.timeouts _)) => True
  | .change (.session .resetTimeouts) => True
  | .change (.session .forget) => True
  | _ => False

/-- Acts of operations on the tag that is selected. They leave the bounds of exchanges alone. -/
def Handling : Act → Prop
  | .change (.session (.connection _)) => False
  | .change (.session .letGo) => False
  | .change (.session (.timeouts _)) => False
  | .change (.session .resetTimeouts) => False
  | .change (.session .forget) => False
  | act => TagWork act

/-- Acts of writing a message to a tag. -/
def Writing : Act → Prop
  | .request (.writeNdef _) => True
  | .request .format => True
  | .change (.fieldBound _) => True
  | .change (.waits _ _) => True
  | _ => False

/-- Acts that record no selection. -/
def SparesConnection : Act → Prop
  | .change (.session (.connection _)) => False
  | _ => True

/-- A change of an endpoint that leaves its slots as they are, and what is kept of them. -/
def KeepsDetails (f : Endpoint → Endpoint) : Prop :=
  ∀ endpoint, (f endpoint).slots = endpoint.slots ∧
    (f endpoint).ndefAdded = endpoint.ndefAdded ∧ (f endpoint).extras = endpoint.extras

/-- A change of an endpoint that takes nothing from its slots and details and adds no slot. -/
def KeepsSlots (f : Endpoint → Endpoint) : Prop :=
  ∀ endpoint, (f endpoint).slots = endpoint.slots ∧
    (endpoint.ndefAdded = true → (f endpoint).ndefAdded = true) ∧
    endpoint.extras <+: (f endpoint).extras

/-- Acts that only operations of their own do, or that come from outside: work on the contents of a tag,
recording a connection, setting a route, settling what is routed off the host, switching secure mode,
adding to the slots of an endpoint or to what is kept of them, and reports. -/
def Particular : Act → Prop
  | .request (.sendFrame _) => True
  | .request .readNdef => True
  | .request (.writeNdef _) => True
  | .request .format => True
  | .request (.lock _) => True
  | .request (.addAid _) => True
  | .request (.setTechRouting _ _) => True
  | .request (.setProtocolRouting _ _) => True
  | .report _ => True
  | .change (.session (.connection _)) => True
  | .change (.secure _) => True
  | .change (.offHostTech _) => True
  | .change (.endpoint _ f) => ¬KeepsDetails f
  | _ => False

/-- Requests that set a route, and what is settled about the routes off the host. -/
def SetsRoute : Act → Prop
  | .request (.addAid _) => True
  | .request (.setTechRouting _ _) => True
  | .request (.setProtocolRouting _ _) => True
  | .change (.offHostTech _) => True
  | _ => False

lemma KeepsDetails.keepsSlots {f : Endpoint → Endpoint} (h : KeepsDetails f) : KeepsSlots f := by
  intro endpoint
  obtain ⟨hslots, hadded, hextras⟩ := h endpoint
  exact ⟨hslots, fun hbefore => hadded.trans hbefore, by simp only [hextras, List.prefix_refl]⟩

lemma routine_sparesTag : ∀ act, Routine act → SparesTag act := by
  rintro (request | event | change) h
  · trivial
  · exact h
  · cases change with
    | session change => exact h
    | welcome act => exact h
    | endpoint number f => exact h
    | _ => trivial

lemma sparesMode_routine : ∀ act, SparesMode act → Routine act := by
  intro act h
  unfold SparesMode at h
  split at h
  · exact h.elim
  · exact h.elim
  · exact h.elim
  · exact h.elim
  · exact h

lemma setsRoute_sparesMode : ∀ act, SetsRoute act → SparesMode act := by
  intro act h
  unfold SetsRoute at h
  split at h
  · trivial
  · trivial
  · trivial
  · trivial
  · exact h.elim

lemma sparesMode_sparesTag (act : Act) (h : SparesMode act) : SparesTag act :=
  routine_sparesTag act (sparesMode_routine act h)

lemma selecting_tagWork : ∀ act, Selecting act → TagWork act := by
  intro act h
  unfold Selecting at h
  split at h
  · trivial
  · trivial
  · trivial
  · trivial
  · trivial
  · exact h.elim

lemma handling_tagWork : ∀ act, Handling act → TagWork act := by
  intro act h
  unfold Handling at h
  split at h
  · exact h.elim
  · exact h.elim
  · exact h.elim
  · exact h.elim
  · exact h.elim
  · exact h

lemma bounding_tagWork : ∀ act, Bounding act → TagWork act := by
  intro act h
  unfold Bounding at h
  split at h
  · trivial
  · trivial
  · trivial
  · trivial
  · exact h.elim

lemma bounding_plain : ∀ act, Bounding act → ¬Particular act := by
  intro act h
  unfold Bounding at h
  split at h
  · exact id
  · exact id
  · exact id
  · exact id
  · exact h.elim

lemma handling_unbounding : ∀ act, Handling act → ¬Bounding act := by
  intro act h hb
  unfold Bounding at hb
  split at hb
  · exact h
  · exact h
  · exact h
  · exact h
  · exact hb

lemma sparesTag_unbounding : ∀ act, SparesTag act → ¬Bounding act := by
  intro act h hb
  unfold Bounding at hb
  split at hb
  · exact h
  · exact h
  · exact h
  · exact h
  · exact hb

lemma selecting_unbounding : ∀ act, Selecting act → ¬Bounding act := by
  intro act h hb
  unfold Bounding at hb
  split at hb
  · exact h
  · exact h
  · exact h
  · exact h
  · exact hb

lemma writing_handling : ∀ act, Writing act → Handling act := by
  intro act h
  unfold Writing at h
  split at h
  · trivial
  · trivial
  · trivial
  · trivial
  · exact h.elim

lemma writing_sparesTag : ∀ act, Writing act → SparesTag act := by
  intro act h
  unfold Writing at h
  split at h
  · trivial
  · trivial
  · trivial
  · trivial
  · exact h.elim

lemma sparesTag_sparesConnection : ∀ act, SparesTag act → SparesConnection act := by
  intro act h
  unfold SparesConnection
  split
  · exact h
  · trivial

lemma handling_sparesConnection : ∀ act, Handling act → SparesConnection act := by
  intro act h
  unfold SparesConnection
  split
  · exact h
  · trivial

lemma waits_only_abortSession : OnlyWaits (Host.mapSession Session.abort) := fun _ => rfl

lemma waits_only_abortAll : OnlyWaits Host.abortAll := fun _ => rfl

variable {P : Act → Prop} {env : Environment σ} {R : System σ → System σ → Prop}
  (hR : Composes P env R)

section Radio

/-- What an operation leaves behind it of the radio flag stands when its resource is free again. -/
lemma reserving_rf (resource : Resource) (op : Op σ α) (φ : α → Bool → Prop)
    (h : ∀ s, φ (op.run env s).1 (op.run env s).2.host.flags.rf) (s : System σ) :
    φ ((Op.reserving resource op).run env s).1
      ((Op.reserving resource op).run env s).2.host.flags.rf := by
  unfold Op.reserving
  rw [Op.run_bind, Op.run_isTaken]
  dsimp only
  split
  · exact h _
  · rw [Op.run_bind, Op.run_read]
    dsimp only
    split
    · exact h s
    · unfold Op.occupying
      simp only [Op.run_bind, Op.run_yieldTurn, Op.run_read, Op.run_update, Op.run_release,
        Op.run_pure]
      rw [rf_of_steady (release_steady _ _)]
      exact h _

/-- Where stopping reports success, radio discovery does not run. -/
lemma stopDiscovery_rf (s : System σ) :
    ((Radio.stopDiscovery : Op σ Bool).run env s).1 = true →
      ((Radio.stopDiscovery : Op σ Bool).run env s).2.host.flags.rf = false := by
  refine reserving_rf .field _ (fun done rf => done = true → rf = false) (fun t => ?_) s
  simp only [Op.run_bind, Op.run_read, Op.run_update, Op.run_pure]
  unfold Radio.settle
  split
  · intro _
    rfl
  · intro hfalse
    exact absurd hfalse Bool.false_ne_true

end Radio

section Routine

variable (hm : ∀ act, SparesMode act → ¬Particular act → P act)

include hR

lemma settle_along (outcome : Outcome Status) (change : Change) (hc : P (.change change))
    (f : Flags → Flags) (hf : change.apply = Host.mapFlags f) :
    Along R env (Radio.settle outcome f : Op σ Bool) := by
  unfold Radio.settle
  split
  · refine along_bind hR ?_ fun _ => along_pure hR _
    have hk : Along R env (Op.update change.apply : Op σ Unit) := along_change hR change hc
    rw [hf] at hk
    exact hk
  · exact along_pure hR _

lemma forEach_along (items : List α) (op : α → Op σ Unit) (h : ∀ item ∈ items, Along R env (op item)) :
    Along R env (CardEmulation.forEach items op) := by
  induction items with
  | nil => exact along_pure hR _
  | cons item rest ih =>
    obtain ⟨hfirst, hrest⟩ := List.forall_mem_cons.mp h
    exact along_bind hR hfirst fun _ => ih hrest

lemma connectedId_along (selector : UInt8) :
    Along R env (CardEmulation.connectedId selector : Op σ UInt8) := by
  refine along_bind hR (along_queryNfcees hR) fun infos => ?_
  split
  · exact along_pure hR _
  · exact along_pure hR _

include hm

/-- An operation of the radio: one request at the shared venue, and a flag that follows it. -/
lemma radio_along (request : Request) (hq : P (.request request)) (hc : request ≠ .commitRouting)
    (change : Change) (hch : P (.change change)) (f : Flags → Flags)
    (hf : change.apply = Host.mapFlags f) :
    Along R env (Op.holdingField Host.waitBound do
      let outcome ← Op.call Venue.polling request
      Radio.settle outcome f : Op σ Bool) := by
  refine along_holdingField hR (fun _ => hm _ trivial id) _ ?_
  refine along_bind hR ?_ fun outcome => settle_along hR outcome change hch f hf
  exact along_call hR (fun _ _ => hm _ trivial id) (fun _ _ => rfl) hq hc

lemma startDiscovery_along : Along R env (Radio.startDiscovery : Op σ Bool) :=
  radio_along hR hm .startDiscovery (hm _ trivial id) nofun (.radio true) (hm _ trivial id) _ rfl

lemma stopDiscovery_along : Along R env (Radio.stopDiscovery : Op σ Bool) :=
  radio_along hR hm .stopDiscovery (hm _ trivial id) nofun (.radio false) (hm _ trivial id) _ rfl

lemma startPolling_along (mask : TechMask) : Along R env (Radio.startPolling mask : Op σ Bool) :=
  radio_along hR hm (.enablePolling mask) (hm _ trivial id) nofun (.polling true) (hm _ trivial id) _ rfl

lemma stopPolling_along : Along R env (Radio.stopPolling : Op σ Bool) :=
  radio_along hR hm .disablePolling (hm _ trivial id) nofun (.polling false) (hm _ trivial id) _ rfl

lemma routingCall_along {request : Request} (hq : P (.request request))
    (hc : request ≠ .commitRouting) : Along R env (CardEmulation.routingCall request : Op σ Bool) := by
  refine along_bind hR (along_call hR (fun _ _ => hm _ trivial id) (fun _ _ => rfl) hq hc) ?_
  intro outcome
  split
  · exact along_pure hR _
  · exact along_pure hR _

lemma aidCall_along {request : Request} (hq : P (.request request))
    (hc : request ≠ .commitRouting) : Along R env (CardEmulation.aidCall request : Op σ Bool) := by
  refine along_bind hR (along_call hR (fun _ _ => hm _ trivial id) (fun _ _ => rfl) hq hc) ?_
  intro outcome
  split
  · exact along_pure hR _
  · exact along_pure hR _

lemma setMode_along (handle : NfceeHandle) (mode : UInt8) :
    Along R env (CardEmulation.setMode handle mode : Op σ Unit) :=
  along_bind hR (along_call hR (fun _ _ => hm _ trivial id) (fun _ _ => rfl) (hm _ trivial id) nofun)
    fun _ => along_pure hR _

lemma activateInactive_along : Along R env (CardEmulation.activateInactive : Op σ Unit) := by
  refine along_bind hR (along_queryNfcees hR) fun infos => ?_
  split
  · exact forEach_along hR _ _ fun info _ => setMode_along hR hm _ _
  · exact along_pure hR _

lemma deactivateRunning_along : Along R env (CardEmulation.deactivateRunning : Op σ Unit) := by
  refine along_bind hR (along_read hR _) fun route => ?_
  split
  · exact along_pure hR _
  · refine along_bind hR (along_queryNfcees hR) fun infos => ?_
    split
    · refine along_bind hR (along_version hR) fun version => ?_
      exact forEach_along hR _ _ fun info _ => setMode_along hR hm _ _
    · exact along_pure hR _

lemma cards_takeDown_along : Along R env (CardEmulation.takeDown : Op σ Unit) := by
  refine along_bind hR (deactivateRunning_along hR hm) fun _ => ?_
  exact along_bind hR (along_send hR (hm _ trivial id) nofun) fun _ => along_pure hR _

lemma remaining_along : Along R env (CardEmulation.remaining : Op σ UInt16) :=
  along_bind hR (along_call hR (fun _ _ => hm _ trivial id) (fun _ _ => rfl) (hm _ trivial id) nofun)
    fun _ => along_pure hR _

/-- The commit is asked for right after the radio was seen or made to stand still. -/
lemma commit_along : Along R env (CardEmulation.commit : Op σ Bool) := by
  refine along_holdingField hR (fun _ => hm _ trivial id) _ ?_
  intro s
  have hcommit (running : Bool) (t : System σ) (ht : t.host.flags.rf = false) :
      R t ((do
        let outcome ← Op.call Venue.commit .commitRouting
        if running then do
          let _ ← Radio.startDiscovery
          return outcome.isCompleted
        else return outcome.isCompleted : Op σ Bool).run env t).2 := by
    have hask : R t ((Op.call Venue.commit .commitRouting).run env t).2 :=
      along_call_at hR (fun _ _ => hm _ trivial id) (fun _ _ => rfl)
        (hm (.request .commitRouting) trivial id) t fun _ => ht
    rw [Op.run_bind]
    refine hR.trans hask ?_
    cases running
    · exact along_pure hR _ _
    · exact along_bind hR (startDiscovery_along hR hm) (fun _ => along_pure hR _) _
  rw [Op.run_bind, Op.run_read]
  cases hrf : s.host.flags.rf with
  | false => exact hcommit false s hrf
  | true =>
    have hstop := stopDiscovery_along hR hm s
    have hquiet : ((Radio.stopDiscovery : Op σ Bool).run env s).1 = true →
        ((Radio.stopDiscovery : Op σ Bool).run env s).2.host.flags.rf = false := stopDiscovery_rf s
    simp only [if_true, Op.run_bind]
    generalize (Radio.stopDiscovery : Op σ Bool).run env s = result at hstop hquiet ⊢
    obtain ⟨stopped, t⟩ := result
    refine hR.trans hstop ?_
    cases stopped
    · exact along_pure hR _ t
    · exact hcommit true t (hquiet rfl)

end Routine

section Routes

/-- A relation that holds along the operations that set routes. -/
structure FollowsRouting (R : System σ → System σ → Prop) (env : Environment σ) : Prop where
  addAid : ∀ aid route info, Along R env (CardEmulation.addAid aid route info : Op σ Bool)
  bringUp : Along R env (CardEmulation.bringUp : Op σ Bool)
  host : ∀ enable, Along R env (CardEmulation.setHostRouting enable : Op σ Unit)

variable (hm : ∀ act, SparesMode act → ¬Particular act → P act)

include hR hm

lemma addAid_along (aid : Aid) (route : UInt8) (info : AidInfo) (s : System σ)
    (hq : P (.request (.addAid
      { aid, route := routeHandle route, powerState := CardEmulation.powerState s.host route, info }))) :
    R s ((CardEmulation.addAid aid route info : Op σ Bool).run env s).2 :=
  aidCall_along hR hm hq nofun s

lemma routeOffered_along (secure : Bool)
    (hq : ∀ handle offered, P (.request (.setTechRouting handle (PowerRouting.offHost offered secure))))
    (announced : List NfceeAnnouncement) (routed : TechMask) :
    Along R env (CardEmulation.routeOffered secure announced routed : Op σ TechMask) := by
  induction announced generalizing routed with
  | nil => exact along_pure hR _
  | cons first rest ih =>
    unfold CardEmulation.routeOffered
    dsimp only
    split
    · exact ih routed
    · refine along_bind hR (routingCall_along hR hm (hm _ trivial id) nofun) fun _ => ?_
      refine along_bind hR (routingCall_along hR hm (hq _ _) nofun) fun _ => ?_
      exact ih _

lemma routeTechOffHost_along (s : System σ)
    (hq : ∀ handle offered, P (.request
      (.setTechRouting handle (PowerRouting.offHost offered s.host.router.secure)))) :
    R s ((CardEmulation.routeTechOffHost : Op σ TechMask).run env s).2 := by
  unfold CardEmulation.routeTechOffHost
  rw [Op.run_bind, Op.run_host]
  dsimp only
  split
  · exact along_pure hR _ s
  · refine along_bind hR (routeOffered_along hR hm _ hq _ _) (fun routed => ?_) s
    refine along_bind hR ?_ fun _ => along_pure hR _
    refine forEach_along hR _ _ fun tech _ => ?_
    exact along_bind hR (routingCall_along hR hm (hm _ trivial id) nofun) fun _ => along_pure hR _

lemma routeIsoDep_along (s : System σ)
    (hoff : ∀ handle, P (.request (.setProtocolRouting handle
      (PowerRouting.offHost ProtocolMask.isoDep s.host.router.secure))))
    (hhost : ∀ handle, P (.request (.setProtocolRouting handle
      (PowerRouting.host ProtocolMask.isoDep s.host.router.secure)))) :
    R s ((CardEmulation.routeIsoDep : Op σ Unit).run env s).2 := by
  unfold CardEmulation.routeIsoDep
  rw [Op.run_bind, Op.run_read]
  refine along_bind hR (along_read hR _) (fun selector => ?_) s
  refine along_bind hR (connectedId_along hR _) fun route => ?_
  refine along_bind hR (routingCall_along hR hm (hm _ trivial id) nofun) fun _ => ?_
  refine along_bind hR (routingCall_along hR hm ?_ nofun) fun _ => along_pure hR _
  split
  · exact hoff _
  · exact hhost _

/-- The host routes technologies to itself only where they are not routed off it. -/
lemma setHostRouting_along (enable : Bool) (s : System σ)
    (htech : ∀ tech ∈ CardEmulation.hostTechs, s.host.router.offHostTech.contains tech = false →
      P (.request (.setTechRouting NfceeHandle.host (PowerRouting.host tech s.host.router.secure))))
    (hiso : P (.request (.setProtocolRouting NfceeHandle.host
      (PowerRouting.host ProtocolMask.isoDep s.host.router.secure)))) :
    R s ((CardEmulation.setHostRouting enable : Op σ Unit).run env s).2 := by
  unfold CardEmulation.setHostRouting
  rw [Op.run_bind, Op.run_host]
  generalize s.host = host at *
  have htechs : Along R env (CardEmulation.forEach
      (CardEmulation.hostTechs.filter fun tech =>
        host.config.routing.hostListenTech.contains tech && !host.router.offHostTech.contains tech)
      fun tech => do
        let _ ← CardEmulation.routingCall (CardEmulation.hostTechRequest enable host.router.secure tech)
        return () : Op σ Unit) := by
    refine forEach_along hR _ _ fun tech hmem => ?_
    obtain ⟨hhost, hkept⟩ := List.mem_filter.mp hmem
    rw [Bool.and_eq_true, Bool.not_eq_true'] at hkept
    refine along_bind hR ?_ fun _ => along_pure hR _
    cases enable
    · exact routingCall_along hR hm (hm _ trivial id) nofun
    · exact routingCall_along hR hm (htech tech hhost hkept.2) nofun
  dsimp only
  split
  · refine along_bind hR ?_ (fun _ => htechs) s
    cases enable
    · exact routingCall_along hR hm (hm _ trivial id) nofun
    · exact routingCall_along hR hm hiso nofun
  · exact htechs s

section BringUp

variable (hadd : ∀ aid route info, Along R env (CardEmulation.addAid aid route info : Op σ Bool))

include hadd

omit hm in
lemma routeDefault_along : Along R env (CardEmulation.routeDefault : Op σ Unit) := by
  refine along_bind hR (along_version hR) fun version => ?_
  split
  · refine along_bind hR (along_read hR _) fun selector => ?_
    refine along_bind hR (connectedId_along hR _) fun route => ?_
    have hdefault : Along R env (do
        let _ ← CardEmulation.addAid Aid.empty route AidInfo.leading
        return () : Op σ Unit) :=
      along_bind hR (hadd _ _ _) fun _ => along_pure hR _
    exact hdefault
  · exact along_pure hR _

variable (htech : Along R env (CardEmulation.routeTechOffHost : Op σ TechMask))
  (hiso : Along R env (CardEmulation.routeIsoDep : Op σ Unit))
  (hrouted : ∀ routed, P (.change (.offHostTech routed)))

include htech hiso hrouted

lemma cards_establish_along : Along R env (CardEmulation.establish : Op σ Unit) := by
  refine along_bind hR (activateInactive_along hR hm) fun _ => ?_
  refine along_bind hR htech fun routed => ?_
  refine along_bind hR (along_change hR (.offHostTech routed) (hrouted routed)) fun _ => ?_
  refine along_bind hR (along_read hR _) fun listen => ?_
  refine along_bind hR (along_send hR (hm _ trivial id) nofun) fun _ => ?_
  refine along_bind hR (along_send hR (hm _ trivial id) nofun) fun _ => ?_
  exact along_bind hR (routeDefault_along hR hadd) fun _ => hiso

lemma cards_bringUp_along : Along R env (CardEmulation.bringUp : Op σ Bool) := by
  refine along_bind hR
    (along_call hR (fun _ _ => hm _ trivial id) (fun _ _ => rfl) (hm _ trivial id) nofun) ?_
  intro outcome
  split
  · exact along_pure hR _
  · exact along_bind hR (cards_establish_along hR hm hadd htech hiso hrouted) fun _ => along_pure hR _

end BringUp

lemma followsRouting (hroute : ∀ act, SetsRoute act → P act) : FollowsRouting R env := by
  have hadd (aid : Aid) (route : UInt8) (info : AidInfo) :
      Along R env (CardEmulation.addAid aid route info : Op σ Bool) :=
    fun s => addAid_along hR hm aid route info s (hroute _ trivial)
  have htech : Along R env (CardEmulation.routeTechOffHost : Op σ TechMask) :=
    fun s => routeTechOffHost_along hR hm s fun _ _ => hroute _ trivial
  have hiso : Along R env (CardEmulation.routeIsoDep : Op σ Unit) :=
    fun s => routeIsoDep_along hR hm s (fun _ => hroute _ trivial) fun _ => hroute _ trivial
  exact
    { addAid := hadd
      bringUp := cards_bringUp_along hR hm hadd htech hiso fun _ => hroute _ trivial
      host := fun enable s =>
        setHostRouting_along hR hm enable s (fun _ _ _ => hroute _ trivial) (hroute _ trivial) }

omit hm in
lemma sparesMode_followsRouting (hm : ∀ act, SparesMode act → P act) : FollowsRouting R env :=
  followsRouting hR (fun act h _ => hm act h) fun act h => hm act (setsRoute_sparesMode act h)

end Routes

section Establishing

variable (hr : ∀ act, Routine act → ¬Particular act → P act) (hf : FollowsRouting R env)

include hR hr hf

lemma lifecycle_establish_along : Along R env (Lifecycle.establish : Op σ Unit) := by
  refine along_bind hR (along_send hR (hr _ trivial id) nofun) fun _ => ?_
  refine along_bind hR hf.bringUp fun _ => ?_
  refine along_bind hR (along_send hR (hr _ trivial id) nofun) fun _ => ?_
  refine along_bind hR (along_read hR _) fun duration => ?_
  refine along_bind hR (along_change hR (.discoveryDuration duration) (hr _ trivial id)) fun _ => ?_
  exact along_bind hR (along_send hR (hr _ trivial id) nofun) fun _ => along_pure hR _

/-- What is left to do once the controller has answered the request to enable it. -/
lemma answered_along (hd : P (.request (.disable false))) (outcome : Outcome Status) :
    Along R env (do
      let enabled ← Op.read (·.flags.enabled)
      if outcome.status.isOk && enabled then do
        Lifecycle.establish
        return true
      else do
        if enabled then do
          let _ ← Op.send (.disable false)
        let _ ← Op.send .adaptationClose
        return false : Op σ Bool) := by
  have hclose : Along R env (do
      let _ ← Op.send .adaptationClose
      return false : Op σ Bool) :=
    along_bind hR (along_send hR (hr _ trivial id) nofun) fun _ => along_pure hR _
  refine along_bind hR (along_read hR _) fun enabled => ?_
  split
  · exact along_bind hR (lifecycle_establish_along hR hr hf) fun _ => along_pure hR _
  · dsimp only
    split
    · exact along_bind hR (along_send hR hd nofun) fun _ => hclose
    · exact hclose

lemma bringUp_along (he : P (.request .enable)) (hd : P (.request (.disable false))) :
    Along R env (Lifecycle.bringUp : Op σ Bool) := by
  refine along_reserving hR _ ?_
  refine along_bind hR (along_read hR _) fun already => ?_
  split
  · exact along_pure hR _
  · refine along_bind hR (along_send hR (hr _ trivial id) nofun) fun _ => ?_
    refine along_bind hR (along_callForever hR (fun _ _ => hr _ trivial id) (fun _ _ => rfl) he nofun) ?_
    exact fun outcome => answered_along hR hr hf hd outcome

end Establishing

section HostCalls

variable (hs : ∀ act, SparesTag act → ¬Particular act → P act)

/-- An act that is all a call does by itself. -/
def hostAct : HostCall → Option Act
  | .sendFrame frame => some (.request (.sendFrame frame))
  | .setSecure secure => some (.change (.secure secure))
  | _ => none

omit hR hs in
lemma hostAct_within (hframe : ∀ frame, P (.request (.sendFrame frame)))
    (hsecure : ∀ secure, P (.change (.secure secure))) (call : HostCall) :
    ∀ act ∈ hostAct call, P act := by
  cases call with
  | sendFrame frame => exact fun act h => Option.some.inj h ▸ hframe frame
  | setSecure secure => exact fun act h => Option.some.inj h ▸ hsecure secure
  | _ => exact fun act => nofun

include hR hs

lemma disableGracefully_along : Along R env (Lifecycle.disableGracefully : Op σ Bool) := by
  refine along_bind hR (along_read hR _) fun enabled => ?_
  split
  · refine along_bind hR (along_callForever hR (fun _ _ => hs _ trivial id) (fun _ _ => rfl)
      (hs _ trivial id) nofun) fun outcome => ?_
    split
    · exact along_pure hR _
    · exact along_pure hR _
  · exact along_pure hR _

lemma takeDown_along : Along R env (Lifecycle.takeDown : Op σ Bool) := by
  have hm (act : Act) (h : SparesMode act) : ¬Particular act → P act := hs act (sparesMode_sparesTag act h)
  have hend : Along R env (do
      let accepted ← Lifecycle.disableGracefully
      Op.update Change.down.apply
      let _ ← Op.send .adaptationClose
      return accepted : Op σ Bool) := by
    refine along_bind hR (disableGracefully_along hR hs) fun accepted => ?_
    refine along_bind hR (along_change hR .down (hs _ trivial id)) fun _ => ?_
    exact along_bind hR (along_send hR (hs _ trivial id) nofun) fun _ => along_pure hR _
  refine along_bind hR (along_read hR _) fun active => ?_
  split
  · refine along_reserving hR _ ?_
    refine along_bind hR (along_change hR .disabling (hs _ trivial id)) fun _ => ?_
    refine along_bind hR (cards_takeDown_along hR hm) fun _ => ?_
    refine along_bind hR (along_read hR _) fun running => ?_
    dsimp only
    split
    · exact along_bind hR (stopDiscovery_along hR hm) fun _ => hend
    · exact hend
  · exact along_pure hR _

lemma checkFirmware_along : Along R env (Lifecycle.checkFirmware : Op σ Unit) := by
  refine along_reserving hR _ ?_
  refine along_bind hR (along_send hR (hs _ trivial id) nofun) fun _ => ?_
  refine along_bind hR (along_send hR (hs _ trivial id) nofun) fun _ => ?_
  exact along_bind hR (along_send hR (hs _ trivial id) nofun) fun _ => along_pure hR _

lemma switchReaderMode_along (readerMode : Bool) :
    Along R env (Discovery.switchReaderMode readerMode : Op σ Unit) := by
  refine along_bind hR (along_read hR _) fun current => ?_
  split
  · exact along_pure hR _
  · refine along_bind hR (along_read hR _) fun config => ?_
    cases readerMode
    · refine along_bind hR (along_send hR (hs _ trivial id) nofun) fun _ => ?_
      refine along_bind hR (along_send hR (hs _ trivial id) nofun) fun _ => ?_
      exact along_change hR (.readerMode false config.discoveryDuration) (hs _ trivial id)
    · refine along_bind hR (along_send hR (hs _ trivial id) nofun) fun _ => ?_
      refine along_bind hR (along_send hR (hs _ trivial id) nofun) fun _ => ?_
      exact along_change hR (.readerMode true config.readerModeDuration) (hs _ trivial id)

lemma configurePolling_along (mask : TechMask) (readerMode : Bool) :
    Along R env (Discovery.configurePolling mask readerMode : Op σ Unit) := by
  have hm (act : Act) (h : SparesMode act) : ¬Particular act → P act := hs act (sparesMode_sparesTag act h)
  refine along_bind hR (stopPolling_along hR hm) fun _ => ?_
  split
  · exact along_pure hR _
  · refine along_bind hR (startPolling_along hR hm mask) fun _ => ?_
    refine along_bind hR (along_read hR _) fun polling => ?_
    split
    · exact switchReaderMode_along hR hs readerMode
    · exact along_pure hR _

lemma enable_along (hf : FollowsRouting R env) (mask : Option TechMask)
    (readerMode hostRouting restart : Bool) :
    Along R env (Discovery.enable mask readerMode hostRouting restart : Op σ Unit) := by
  have hm (act : Act) (h : SparesMode act) : ¬Particular act → P act := hs act (sparesMode_sparesTag act h)
  have hrest : Along R env (do
      Discovery.configurePolling (Discovery.pollMask mask) readerMode
      CardEmulation.setHostRouting hostRouting
      let _ ← CardEmulation.commit
      let _ ← Radio.startDiscovery
      Op.update Change.discoveryBegun.apply : Op σ Unit) := by
    refine along_bind hR (configurePolling_along hR hs _ _) fun _ => ?_
    refine along_bind hR (hf.host _) fun _ => ?_
    refine along_bind hR (commit_along hR hm) fun _ => ?_
    refine along_bind hR (startDiscovery_along hR hm) fun _ => ?_
    exact along_change hR .discoveryBegun (hs _ trivial id)
  refine along_reserving hR _ ?_
  refine along_bind hR (along_read hR _) fun flags => ?_
  split
  · exact along_pure hR _
  · dsimp only
    split
    · exact along_bind hR (stopDiscovery_along hR hm) fun _ => hrest
    · exact hrest

lemma disable_along : Along R env (Discovery.disable : Op σ Unit) := by
  have hm (act : Act) (h : SparesMode act) : ¬Particular act → P act := hs act (sparesMode_sparesTag act h)
  have hend : Along R env (Op.update Change.discoveryEnded.apply : Op σ Unit) :=
    along_change hR .discoveryEnded (hs _ trivial id)
  refine along_reserving hR _ ?_
  refine along_bind hR (along_read hR _) fun flags => ?_
  split
  · exact along_pure hR _
  · refine along_bind hR (stopDiscovery_along hR hm) fun _ => ?_
    refine along_bind hR (along_read hR _) fun polling => ?_
    dsimp only
    split
    · exact along_bind hR (stopPolling_along hR hm) fun _ => hend
    · exact hend

lemma sendPowerSubState_along (state : UInt8) :
    Along R env (Discovery.sendPowerSubState state : Op σ Bool) :=
  along_bind hR (along_call hR (fun _ _ => hs _ trivial id) (fun _ _ => rfl) (hs _ trivial id) nofun)
    fun _ => along_pure hR _

lemma sendParameter_along (mask : UInt8) :
    Along R env (Discovery.sendParameter mask : Op σ Bool) :=
  along_bind hR (along_call hR (fun _ _ => hs _ trivial id) (fun _ _ => rfl) (hs _ trivial id) nofun)
    fun _ => along_pure hR _

lemma sendScreen_along (mask : UInt8) (leavingUnlocked : Bool) :
    Along R env (Discovery.sendScreen mask leavingUnlocked : Op σ Bool) := by
  unfold Discovery.sendScreen
  dsimp only
  split
  · refine along_bind hR (sendParameter_along hR hs mask) fun told => ?_
    split
    · exact sendPowerSubState_along hR hs _
    · exact along_pure hR _
  · refine along_bind hR (sendPowerSubState_along hR hs _) fun told => ?_
    split
    · exact sendParameter_along hR hs mask
    · exact along_pure hR _

lemma setScreen_along (mask : UInt8) : Along R env (Discovery.setScreen mask : Op σ Unit) := by
  have hend (told : Bool) : Along R env (if told then
      Op.update (Change.screen (mask &&& Discovery.Screen.stateMask)).apply else return () :
        Op σ Unit) := by
    split
    · exact along_change hR (.screen _) (hs _ trivial id)
    · exact along_pure hR _
  refine along_reserving hR _ ?_
  dsimp only
  refine along_bind hR (along_read hR _) fun flags => ?_
  split
  · exact along_pure hR _
  · refine along_bind hR (along_version hR) fun version => ?_
    split
    · exact along_bind hR (along_pure hR _) hend
    · exact along_bind hR (sendScreen_along hR hs _ _) hend

omit hs in
lemma order_along {request : Request} (hp : P (.request request))
    (hc : request ≠ .commitRouting) : Along R env (HostCall.order request : Op σ Unit) :=
  along_bind hR (along_send hR hp hc) fun _ => along_pure hR _

omit hs in
lemma withAid_along (bytes : Bytes) (op : Aid → Op σ Bool) (h : ∀ aid, Along R env (op aid)) :
    Along R env (HostCall.withAid bytes op) := by
  unfold HostCall.withAid
  split
  · exact along_map _ (h _)
  · exact along_pure hR _

lemma hostCall_along (hf : FollowsRouting R env) (call : HostCall)
    (hown : ∀ act ∈ hostAct call, P act) : Along R env (call.run : Op σ Answer) := by
  have hr (act : Act) (h : Routine act) : ¬Particular act → P act := hs act (routine_sparesTag act h)
  have hm (act : Act) (h : SparesMode act) : ¬Particular act → P act := hs act (sparesMode_sparesTag act h)
  cases call with
  | bringUp => exact along_map _ (bringUp_along hR hr hf (hs _ trivial id) (hs _ trivial id))
  | takeDown => exact along_map _ (takeDown_along hR hs)
  | isActive => exact along_map _ (along_read hR _)
  | enableDiscovery mask readerMode hostRouting restart =>
    exact along_map _ (enable_along hR hs hf mask readerMode hostRouting restart)
  | disableDiscovery => exact along_map _ (disable_along hR hs)
  | startRadio => exact along_map _ (startDiscovery_along hR hm)
  | stopRadio => exact along_map _ (stopDiscovery_along hR hm)
  | isRadioOn => exact along_map _ (along_read hR _)
  | startPolling mask => exact along_map _ (startPolling_along hR hm mask)
  | stopPolling => exact along_map _ (stopPolling_along hR hm)
  | sendFrame frame =>
    refine along_map _ (along_reserving hR _ ?_)
    exact along_bind hR (along_send hR (hown _ rfl) nofun) fun _ => along_pure hR _
  | setScreen mask => exact along_map _ (setScreen_along hR hs mask)
  | screen => exact along_map _ (along_read hR _)
  | version => exact along_map _ (along_version hR)
  | isoDepLimit => exact along_map _ (along_read hR _)
  | type3 identifier => exact along_pure hR _
  | canLock forumType => exact along_pure hR _
  | abort =>
    exact along_map _ (along_waits hR (fun _ _ => hs _ trivial id) waits_only_abortAll)
  | checkFirmware => exact along_map _ (checkFirmware_along hR hs)
  | dump descriptor => exact along_map _ (order_along hR (hs _ trivial id) nofun)
  | factoryReset => exact along_map _ (order_along hR (hs _ trivial id) nofun)
  | shutdown => exact along_map _ (order_along hR (hs _ trivial id) nofun)
  | setSecure secure => exact along_map _ (along_change hR (.secure secure) (hown _ rfl))
  | addAid aid route info => exact withAid_along hR _ _ fun known => hf.addAid known route info
  | removeAid aid =>
    exact withAid_along hR _ _ fun known => aidCall_along hR hm (hs _ trivial id) nofun
  | clearAids => exact along_map _ (aidCall_along hR hm (hs _ trivial id) nofun)
  | commit => exact along_map _ (commit_along hR hm)
  | setHostRouting enable => exact along_map _ (hf.host enable)
  | bringUpCards => exact along_map _ hf.bringUp
  | takeDownCards => exact along_map _ (cards_takeDown_along hR hm)
  | tableSize => exact along_map _ (along_tableSize hR)
  | remaining => exact along_map _ (remaining_along hR hm)
  | routes => exact along_map _ (along_read hR _)
  | setListener listener => exact along_map _ (along_change hR (.listener listener) (hs _ trivial id))

end HostCalls

section TagCalls

include hR

lemma sessionChange_along (change : SessionChange) (hp : P (.change (.session change))) :
    Along R env (Op.updateSession change.apply : Op σ Unit) :=
  along_change hR (.session change) hp

/-- An operation on the tag that holds the radio field. -/
lemma onTag_along (hb : AllowsBounds P) (otherwise : α) (bound : Host → UInt64) {op : Op σ α}
    (h : Along R env op) : Along R env (Tag.whenReady otherwise (Op.holdingField bound op)) :=
  along_whenReady hR otherwise (along_holdingField hR hb bound h)

end TagCalls

section Selecting

variable (hl : ∀ act, Selecting act → P act)

include hR hl

lemma tag_connect_along (target : Connection) :
    Along R env (Tag.connect target : Op σ Status) := by
  refine onTag_along hR (fun _ => hl _ trivial) _ _ ?_
  refine along_bind hR (along_call hR (fun _ _ => hl _ trivial) (fun _ _ => rfl) (hl _ trivial) nofun) ?_
  intro outcome
  split
  · exact along_bind hR (sessionChange_along hR (.connection target) (hl _ trivial)) fun _ => along_pure hR _
  · exact along_bind hR (along_send hR (hl _ trivial) nofun) fun _ => along_pure hR _
  · exact along_pure hR _

lemma reselect_along (target : Connection) :
    Along R env (Tag.reselect target : Op σ Bool) := by
  have hwaits (f : Rendezvous Unit → Rendezvous Unit) :
      Along R env (Op.update (Venue.activated.map f) : Op σ Unit) :=
    along_waits hR (fun _ _ => hl _ trivial) fun _ => rfl
  refine along_bind hR (hwaits _) fun _ => ?_
  refine along_bind hR (along_call hR (fun _ _ => hl _ trivial) (fun _ _ => rfl) (hl _ trivial) nofun) ?_
  intro outcome
  split
  · refine along_bind hR (along_await hR (fun _ _ => hl _ trivial) fun _ _ => rfl) fun activation => ?_
    split
    · exact along_bind hR (sessionChange_along hR (.connection target) (hl _ trivial)) fun _ => along_pure hR _
    · exact along_pure hR _
  · refine along_bind hR (along_send hR (hl _ trivial) nofun) fun _ => ?_
    exact along_bind hR (hwaits _) fun _ => along_pure hR _
  · exact along_bind hR (hwaits _) fun _ => along_pure hR _

lemma tag_reconnect_along (target : Connection) (restart : Bool) :
    Along R env (Tag.reconnect target restart : Op σ Bool) := by
  refine onTag_along hR (fun _ => hl _ trivial) _ _ ?_
  refine along_bind hR (along_read hR _) fun current => ?_
  split
  · exact along_pure hR _
  · refine along_bind hR (along_call hR (fun _ _ => hl _ trivial) (fun _ _ => rfl) (hl _ trivial) nofun) ?_
    intro outcome
    split
    · exact along_pure hR _
    · exact reselect_along hR hl target

end Selecting

section Handling

variable (hn : ∀ act, Handling act → ¬Particular act → P act)

include hR hn

lemma settled_along :
    Along R env (Op.updateFlags fun flags => { flags with reconnecting := false } : Op σ Unit) :=
  along_change hR .settled (hn _ trivial id)

lemma tag_disconnect_along (hg : P (.change (.session .letGo))) :
    Along R env (Tag.disconnect : Op σ Bool) := by
  refine along_holdingField hR (fun _ => hn _ trivial id) _ ?_
  refine along_bind hR (along_send hR (hn _ trivial id) nofun) fun verdict => ?_
  refine along_bind hR (sessionChange_along hR .letGo hg) fun _ => ?_
  exact along_bind hR (settled_along hR hn) fun _ => along_pure hR _

lemma probe_along : Along R env (Tag.probe : Op σ Bool) := by
  refine along_bind hR (along_read hR _) fun option => ?_
  refine along_bind hR (along_call hR (fun _ _ => hn _ trivial id) (fun _ _ => rfl) (hn _ trivial id) nofun) ?_
  intro outcome
  split
  · exact along_pure hR _
  · exact along_read hR _
  · exact along_pure hR _

lemma checkPresence_along : Along R env (Tag.checkPresence : Op σ Bool) := by
  refine along_whenReady hR _ ?_
  refine along_bind hR (along_host hR) fun host => ?_
  split
  · exact along_pure hR _
  · refine along_bind hR ?_ fun present =>
      along_bind hR (sessionChange_along hR (.present present) (hn _ trivial id)) fun _ => along_pure hR _
    exact along_holdingField hR (fun _ => hn _ trivial id) _ (probe_along hR hn)

lemma recordCheck_along (check : NdefCheck) :
    Along R env (Tag.recordCheck check : Op σ (Option NdefCheck)) :=
  along_bind hR (sessionChange_along hR (.check check) (hn _ trivial id)) fun _ => along_pure hR _

lemma checkNdef_along : Along R env (Tag.checkNdef : Op σ (Option NdefCheck)) := by
  refine onTag_along hR (fun _ => hn _ trivial id) _ _ ?_
  refine along_bind hR (settled_along hR hn) fun _ => ?_
  refine along_bind hR (along_call hR (fun _ _ => hn _ trivial id) (fun _ _ => rfl) (hn _ trivial id) nofun) ?_
  intro outcome
  split
  · exact recordCheck_along hR hn _
  · exact along_pure hR _
  · exact recordCheck_along hR hn _

lemma checkNdefInfo_along : Along R env (Tag.checkNdefInfo : Op σ (Option NdefInfo)) :=
  along_bind hR (checkNdef_along hR hn) fun _ => along_pure hR _

lemma registerNdef_along : Along R env (Tag.registerNdef : Op σ Bool) :=
  along_bind hR (along_send hR (hn _ trivial id) nofun) fun _ => along_pure hR _

omit hn in
lemma setBound_along (hb : ∀ table, P (.change (.session (.timeouts table)))) (technology : Technology)
    (bound : UInt64) : Along R env (SessionCall.setBound technology bound : Op σ Bool) := by
  refine along_bind hR (along_read hR _) fun session => ?_
  split
  · exact along_bind hR (sessionChange_along hR (.timeouts _) (hb _)) fun _ => along_pure hR _
  · exact along_pure hR _

lemma welcome_along (act : Activation) :
    Along R env (SessionCall.welcome act : Op σ (Option (Nat × Endpoint))) := by
  intro s
  have hw : R s (s.mapHost (welcomed act)) := along_change hR (.welcome act) (hn _ trivial id) s
  unfold SessionCall.welcome
  rw [Op.run_bind, Op.run_host]
  unfold System.mapHost welcomed at hw
  split at hw
  · next hfound =>
    simp only [hfound]
    exact along_pure hR none s
  · next session hfound =>
    simp only [hfound]
    exact hw

end Handling

section Writing

include hR

lemma confirmed_along (hw : AllowsWaits P) {venue : Venue Status} (hv : OnlyHolds venue) {request : Request}
    (hq : P (.request request)) (hc : request ≠ .commitRouting) :
    Along R env (Tag.confirmed venue request : Op σ Bool) := by
  refine along_bind hR (along_call hR hw hv hq hc) fun outcome => ?_
  split
  · exact along_pure hR _
  · exact along_pure hR _

variable (hw : ∀ act, Writing act → P act)

include hw

lemma format_along : Along R env (Tag.format : Op σ Bool) :=
  onTag_along hR (fun _ => hw _ trivial) _ _
    (confirmed_along hR (fun _ _ => hw _ trivial) (fun _ _ => rfl) (hw _ trivial) nofun)

lemma writeNdef_along (message : Bytes) : Along R env (Tag.writeNdef message : Op σ Bool) := by
  have hwrite (prepared : Bool) : Along R env (if prepared then
      Tag.confirmed Venue.write (.writeNdef (if message.isEmpty then Tag.emptyMessage else message))
      else return false : Op σ Bool) := by
    split
    · exact confirmed_along hR (fun _ _ => hw _ trivial) (fun _ _ => rfl) (hw _ trivial) nofun
    · exact along_pure hR _
  refine onTag_along hR (fun _ => hw _ trivial) _ _ ?_
  refine along_bind hR (along_read hR _) fun lastCheck => ?_
  dsimp only
  split
  · exact along_bind hR (format_along hR hw) hwrite
  · exact along_bind hR (along_pure hR _) hwrite

end Writing

section Content

variable (hh : ∀ act, Handling act → P act)

include hR hh

lemma exchange_along (frame : Bytes) :
    Along R env (Tag.exchange frame : Op σ (Status × Bytes)) := by
  have hwaits (f : Rendezvous Status → Rendezvous Status) :
      Along R env (Op.update (Venue.transceive.map f) : Op σ Unit) :=
    along_waits hR (fun _ _ => hh _ trivial) fun _ => rfl
  refine along_bind hR (hwaits _) fun _ => along_bind hR (along_elapse hR) fun _ => ?_
  refine along_bind hR (sessionChange_along hR .clearReceived (hh _ trivial)) fun _ => ?_
  refine along_bind hR (along_elapse hR) fun _ => ?_
  refine along_bind hR (along_issue hR (hh _ trivial) nofun) fun verdict => ?_
  split
  · refine along_bind hR (along_await hR (fun _ _ => hh _ trivial) fun _ _ => rfl) fun outcome => ?_
    refine along_bind hR (along_read hR _) fun response => ?_
    exact along_bind hR (sessionChange_along hR .clearReceived (hh _ trivial)) fun _ => along_pure hR _
  · exact along_bind hR (hwaits _) fun _ => along_pure hR _

lemma readNdef_along : Along R env (Tag.readNdef : Op σ (Option Bytes)) := by
  have hclear : Along R env (Tag.clearMessage : Op σ Unit) := sessionChange_along hR .clearMessage (hh _ trivial)
  refine onTag_along hR (fun _ => hh _ trivial) _ _ ?_
  refine along_bind hR hclear fun _ => along_bind hR (along_elapse hR) fun _ => ?_
  refine along_bind hR (along_read hR _) fun lastCheck => ?_
  split
  · refine along_bind hR (along_call hR (fun _ _ => hh _ trivial) (fun _ _ => rfl) (hh _ trivial) nofun) ?_
    intro outcome
    split
    · refine along_bind hR (along_elapse hR) fun _ => ?_
      refine along_bind hR (along_read hR _) fun message => ?_
      exact along_bind hR hclear fun _ => along_pure hR _
    · exact along_bind hR hclear fun _ => along_pure hR _
  · exact along_pure hR _

lemma makeReadOnly_along : Along R env (Tag.makeReadOnly : Op σ Bool) := by
  refine onTag_along hR (fun _ => hh _ trivial) _ _ ?_
  refine along_bind hR (along_call hR (fun _ _ => hh _ trivial) (fun _ _ => rfl) (hh _ trivial) nofun) ?_
  intro outcome
  split
  · exact confirmed_along hR (fun _ _ => hh _ trivial) (fun _ _ => rfl) (hh _ trivial) nofun
  · exact along_pure hR _
  · exact along_pure hR _

end Content

section EndpointCalls

lemma mapEndpoint_congr {number : Nat} {host : Host} {endpoint : Endpoint}
    (h : host.endpoint? number = some endpoint) {f g : Endpoint → Endpoint}
    (hfg : f endpoint = g endpoint) : host.mapEndpoint number f = host.mapEndpoint number g := by
  have hmodify : host.endpoints.modify number f = host.endpoints.modify number g := by
    refine List.ext_getElem? fun index => ?_
    rw [List.getElem?_modify, List.getElem?_modify]
    by_cases hindex : number = index
    · subst hindex
      change host.endpoints[number]? = some endpoint at h
      simp [h, hfg]
    · simp [hindex]
  unfold Host.mapEndpoint
  rw [hmodify]

variable (hn : ∀ act, Handling act → ¬Particular act → P act)
  (he : ∀ number f, KeepsDetails f → P (.change (.endpoint number f)))

include hR he in
lemma endpointUpdate_along (number : Nat) {f : Endpoint → Endpoint} (hf : KeepsDetails f) :
    Along R env (Endpoint.update number f : Op σ Unit) :=
  along_change hR (.endpoint number f) (he number f hf)

lemma leaveLoop_keepsDetails (loop : Nat) :
    KeepsDetails fun endpoint => (endpoint.leaveLoop loop).2 := by
  intro endpoint
  dsimp only
  unfold Endpoint.leaveLoop
  split
  · exact ⟨rfl, rfl, rfl⟩
  · exact ⟨rfl, rfl, rfl⟩

lemma claimLoop_keepsDetails (loop : Nat) :
    KeepsDetails fun endpoint => (endpoint.claimLoop loop).2 := by
  intro endpoint
  dsimp only
  unfold Endpoint.claimLoop
  split
  · exact ⟨rfl, rfl, rfl⟩
  · exact ⟨rfl, rfl, rfl⟩

include hR he in
/-- An endpoint that was just read may be written back changed. -/
lemma writeBack_along {s : System σ} {number : Nat} {endpoint : Endpoint}
    (h : s.host.endpoint? number = some endpoint) {f : Endpoint → Endpoint} (hf : KeepsDetails f) :
    R s (s.mapHost (Host.mapEndpoint number fun _ => f endpoint)) := by
  have hchange : R s (s.mapHost (Host.mapEndpoint number f)) := endpointUpdate_along hR he number hf s
  have hsame : s.host.mapEndpoint number (fun _ => f endpoint) = s.host.mapEndpoint number f :=
    mapEndpoint_congr h rfl
  unfold System.mapHost at hchange ⊢
  rw [hsame]
  exact hchange

include hR in
lemma look_along (number : Nat) (f : Endpoint → Answer) :
    Along R env (EndpointCall.look number f : Op σ Answer) := by
  refine along_bind hR (along_read hR _) fun endpoint => ?_
  split
  · exact along_pure hR _
  · exact along_pure hR _

include hR he in
lemma atOnce_along {α : Type} (number : Nat) {f : Endpoint → α × Endpoint}
    (hf : KeepsDetails fun endpoint => (f endpoint).2) :
    Along R env (Endpoint.atOnce number f : Op σ (Option α)) := by
  intro s
  unfold Endpoint.atOnce
  rw [Op.run_bind, Op.run_read]
  cases hfound : s.host.endpoint? number with
  | none => exact along_pure hR none s
  | some endpoint => exact writeBack_along hR he hfound hf

include hR he in
lemma startWatch_along (number : Nat) (spawned : Bool) :
    Along R env (Endpoint.startWatch number spawned : Op σ (Option Nat)) := by
  unfold Endpoint.startWatch
  refine along_bind hR (atOnce_along hR he number fun _ => ⟨rfl, rfl, rfl⟩) fun taken => ?_
  split
  · exact along_pure hR _
  · refine along_bind hR (atOnce_along hR he number (claimLoop_keepsDetails _)) fun claimed => ?_
    split
    · refine along_bind hR (endpointUpdate_along hR he number fun _ => ⟨rfl, rfl, rfl⟩) fun _ => ?_
      split
      · exact along_bind hR (endpointUpdate_along hR he number fun _ => ⟨rfl, rfl, rfl⟩) fun _ =>
          along_pure hR _
      · exact along_bind hR (endpointUpdate_along hR he number fun _ => ⟨rfl, rfl, rfl⟩) fun _ =>
          along_pure hR _
    · exact along_pure hR _

include hR hn he

lemma endpoint_disconnect_along (hg : P (.change (.session .letGo))) (number : Nat) :
    Along R env (Endpoint.disconnect number : Op σ Bool) := by
  refine along_reserving hR _ ?_
  refine along_bind hR (endpointUpdate_along hR he _ ?_) fun _ => ?_
  · exact fun _ => ⟨rfl, rfl, rfl⟩
  refine along_bind hR (tag_disconnect_along hR hn hg) fun done => ?_
  refine along_bind hR (endpointUpdate_along hR he _ ?_) fun _ => along_pure hR _
  exact fun _ => ⟨rfl, rfl, rfl⟩

lemma endpoint_checkPresence_along (number : Nat) :
    Along R env (Endpoint.checkPresence number : Op σ Bool) := by
  refine along_reserving hR _ ?_
  refine along_bind hR (checkPresence_along hR hn) fun present => ?_
  refine along_bind hR (endpointUpdate_along hR he _ ?_) fun _ => along_pure hR _
  exact fun _ => ⟨rfl, rfl, rfl⟩

lemma retire_along (hg : P (.change (.session .letGo))) (number loop : Nat) :
    Along R env (Endpoint.retire number loop : Op σ Endpoint.WatchEnd) := by
  refine along_bind hR (endpointUpdate_along hR he _ ?_) fun _ => ?_
  · exact fun _ => ⟨rfl, rfl, rfl⟩
  refine along_bind hR (tag_disconnect_along hR hn hg) fun _ => ?_
  refine along_bind hR (atOnce_along hR he number (leaveLoop_keepsDetails loop)) fun left => ?_
  split
  · exact along_bind hR (along_read hR _) fun endpoint => along_pure hR _
  · exact along_pure hR _

lemma watch_along (hg : P (.change (.session .letGo))) (number loop turns : Nat) :
    Along R env (Endpoint.watch number loop turns : Op σ Endpoint.WatchEnd) := by
  induction turns with
  | zero => exact along_pure hR _
  | succ turns ih =>
    refine along_bind hR (along_read hR _) fun endpoint => ?_
    split
    · exact along_pure hR _
    · refine along_bind hR (endpointUpdate_along hR he _ ?_) fun _ => ?_
      · exact fun _ => ⟨rfl, rfl, rfl⟩
      split
      · exact retire_along hR hn he hg number loop
      · refine along_bind hR (checkPresence_along hR hn) fun present => ?_
        split
        · refine along_bind hR (endpointUpdate_along hR he _ ?_) fun _ => ih
          exact fun _ => ⟨rfl, rfl, rfl⟩
        · exact retire_along hR hn he hg number loop

end EndpointCalls

section Restart

/-- The move of a caller who makes one call on the host. -/
def hostMove (call : HostCall) : Op σ Answer := (Move.call (.host call)).perform

/-- Takes the stack down and brings it up again, in two moves. -/
def restart : Op σ (Answer × Answer) := do
  let down ← hostMove .takeDown
  let up ← hostMove .bringUp
  return (down, up)

include hR in
lemma restart_along (hs : ∀ act, SparesTag act → ¬Particular act → P act)
    (hf : FollowsRouting R env) : Along R env (restart : Op σ (Answer × Answer)) := by
  have hr (act : Act) (h : Routine act) : ¬Particular act → P act := hs act (routine_sparesTag act h)
  have hmove (call : HostCall) (h : Along R env (call.run : Op σ Answer)) :
      Along R env (hostMove call : Op σ Answer) :=
    along_bind hR h fun _ => along_bind hR (along_attend hR) fun _ => along_pure hR _
  have hdown := hmove .takeDown (along_map _ (takeDown_along hR hs))
  have hup := hmove .bringUp
    (along_map _ (bringUp_along hR hr hf (hs _ trivial id) (hs _ trivial id)))
  exact along_bind hR hdown fun _ => along_bind hR hup fun _ => along_pure hR _

end Restart

section Acts

omit hR
variable (ho : Orderly P env)

include ho

section Routine

variable (hm : ∀ act, SparesMode act → P act)

include hm

lemma startDiscovery_keepsTo : KeepsTo P env (Radio.startDiscovery : Op σ Bool) :=
  startDiscovery_along ho.composes fun act h _ => hm act h

lemma stopDiscovery_keepsTo : KeepsTo P env (Radio.stopDiscovery : Op σ Bool) :=
  stopDiscovery_along ho.composes fun act h _ => hm act h

lemma startPolling_keepsTo (mask : TechMask) :
    KeepsTo P env (Radio.startPolling mask : Op σ Bool) :=
  startPolling_along ho.composes (fun act h _ => hm act h) mask

lemma stopPolling_keepsTo : KeepsTo P env (Radio.stopPolling : Op σ Bool) :=
  stopPolling_along ho.composes fun act h _ => hm act h

lemma deactivateRunning_keepsTo : KeepsTo P env (CardEmulation.deactivateRunning : Op σ Unit) :=
  deactivateRunning_along ho.composes fun act h _ => hm act h

lemma commit_keepsTo : KeepsTo P env (CardEmulation.commit : Op σ Bool) :=
  commit_along ho.composes fun act h _ => hm act h

lemma cards_takeDown_keepsTo : KeepsTo P env (CardEmulation.takeDown : Op σ Unit) :=
  cards_takeDown_along ho.composes fun act h _ => hm act h

lemma setHostRouting_keepsTo (enable : Bool) :
    KeepsTo P env (CardEmulation.setHostRouting enable : Op σ Unit) :=
  (sparesMode_followsRouting ho.composes hm).host enable

lemma cards_bringUp_keepsTo : KeepsTo P env (CardEmulation.bringUp : Op σ Bool) :=
  (sparesMode_followsRouting ho.composes hm).bringUp

end Routine

section Establishing

variable (hr : ∀ act, Routine act → P act)

include hr

lemma lifecycle_establish_keepsTo : KeepsTo P env (Lifecycle.establish : Op σ Unit) :=
  lifecycle_establish_along ho.composes (fun act h _ => hr act h)
    (sparesMode_followsRouting ho.composes fun act h => hr act (sparesMode_routine act h))

lemma answered_keepsTo (hd : P (.request (.disable false))) (outcome : Outcome Status) :
    KeepsTo P env (do
      let enabled ← Op.read (·.flags.enabled)
      if outcome.status.isOk && enabled then do
        Lifecycle.establish
        return true
      else do
        if enabled then do
          let _ ← Op.send (.disable false)
        let _ ← Op.send .adaptationClose
        return false : Op σ Bool) :=
  answered_along ho.composes (fun act h _ => hr act h)
    (sparesMode_followsRouting ho.composes fun act h => hr act (sparesMode_routine act h)) hd outcome

lemma bringUp_keepsTo (he : P (.request .enable)) (hd : P (.request (.disable false))) :
    KeepsTo P env (Lifecycle.bringUp : Op σ Bool) :=
  bringUp_along ho.composes (fun act h _ => hr act h)
    (sparesMode_followsRouting ho.composes fun act h => hr act (sparesMode_routine act h)) he hd

end Establishing

section HostCalls

variable (hs : ∀ act, SparesTag act → P act)

include hs

lemma hostCall_keepsTo (call : HostCall) : KeepsTo P env (call.run : Op σ Answer) :=
  hostCall_along ho.composes (fun act h _ => hs act h)
    (sparesMode_followsRouting ho.composes fun act h => hs act (sparesMode_sparesTag act h)) call
    (hostAct_within (fun _ => hs _ trivial) (fun _ => hs _ trivial) call)

lemma restart_keepsTo : KeepsTo P env (restart : Op σ (Answer × Answer)) :=
  restart_along ho.composes (fun act h _ => hs act h)
    (sparesMode_followsRouting ho.composes fun act h => hs act (sparesMode_sparesTag act h))

end HostCalls

lemma reselect_keepsTo (hl : ∀ act, Selecting act → P act) (target : Connection) :
    KeepsTo P env (Tag.reselect target : Op σ Bool) :=
  reselect_along ho.composes hl target

lemma tag_reconnect_keepsTo (hl : ∀ act, Selecting act → P act) (target : Connection)
    (restart : Bool) : KeepsTo P env (Tag.reconnect target restart : Op σ Bool) :=
  tag_reconnect_along ho.composes hl target restart

lemma readNdef_keepsTo (hh : ∀ act, Handling act → P act) :
    KeepsTo P env (Tag.readNdef : Op σ (Option Bytes)) :=
  readNdef_along ho.composes hh

lemma watch_keepsTo (ht : ∀ act, TagWork act → P act)
    (he : ∀ number f, KeepsSlots f → P (.change (.endpoint number f))) (number loop turns : Nat) :
    KeepsTo P env (Endpoint.watch number loop turns : Op σ Endpoint.WatchEnd) :=
  watch_along ho.composes (fun act h _ => ht act (handling_tagWork act h))
    (fun number f hf => he number f hf.keepsSlots) (ht _ trivial) number loop turns

omit ho in
lemma look_keepsTo (number : Nat) (f : Endpoint → Answer) :
    KeepsTo P env (EndpointCall.look number f : Op σ Answer) := by
  refine keepsTo_bind (keepsTo_read _) fun endpoint => ?_
  split
  · exact keepsTo_pure _
  · exact keepsTo_pure _

end Acts

end NfcStack.Proofs
