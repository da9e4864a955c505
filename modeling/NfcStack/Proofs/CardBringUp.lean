import NfcStack.Bench.Script
import NfcStack.Proofs.Company
import NfcStack.Proofs.Exchange

/-!
# Bringing card emulation up

What bringing card emulation up asks for is settled once the host is registered for the execution
environments: by the routing configuration, secure mode, the environments that announced themselves, and
what the controller answers to queries. Which of the requests the controller refuses, leaves unconfirmed
or completes with a failure makes no difference to those that follow.
-/

namespace NfcStack.Proofs

variable {σ α β : Type} {c : Controller σ} {s t u : System σ}

section Orders

/-- Requests and waits, and nothing that a caller changes by itself. -/
def Ordering : Act → Prop
  | .request .enable => False
  | .request .commitRouting => False
  | .request _ => True
  | .change (.waits _ _) => True
  | _ => False

/-- Callers made these requests in order, and did nothing else. -/
structure Posed (c : Controller σ) (s t : System σ) (requests : List Request) : Prop where
  evolves : Evolves c Ordering s t
  asks : Asks s t requests

/-- While nobody else acts an operation makes these requests, whatever becomes of them. -/
def Poses (c : Controller σ) (op : Op σ α) (requests : List Request) : Prop :=
  ∀ s, Posed c s (op.run c.alone s).2 requests

lemma posed_of_eq (s : System σ) : Posed c s s [] := ⟨.refl s, asks_of_trace_eq rfl⟩

lemma Posed.trans {first rest : List Request} (h₁ : Posed c s t first) (h₂ : Posed c t u rest) :
    Posed c s u (first ++ rest) :=
  ⟨h₁.evolves.trans h₂.evolves, h₁.asks.trans h₂.asks⟩

lemma poses_pure (a : α) : Poses c (pure a : Op σ α) [] := posed_of_eq

/-- One request, and then others. -/
lemma Posed.cons {request : Request} {rest : List Request} (h₁ : Posed c s t [request])
    (h₂ : Posed c t u rest) : Posed c s u (request :: rest) := h₁.trans h₂

lemma Poses.cons {op : Op σ α} {next : α → Op σ β} {request : Request} {rest : List Request}
    (h : Poses c op [request]) (hn : ∀ a, Poses c (next a) rest) :
    Poses c (op >>= next) (request :: rest) := by
  intro s
  rw [Op.run_bind]
  exact (h s).cons (hn _ _)

/-- What an operation gives is passed on, and nothing more is asked for. -/
lemma Poses.ending {op : Op σ α} {next : α → Op σ β} {requests : List Request}
    (h : Poses c op requests) (hn : ∀ a, Poses c (next a) []) : Poses c (op >>= next) requests := by
  intro s
  have hwhole := (h s).trans (hn (op.run c.alone s).1 _)
  rw [List.append_nil] at hwhole
  exact hwhole

lemma query_posed (s : System σ) : Posed c s (c.queryNfcees .caller s).2 [.queryNfcees] :=
  ⟨.query, [_], rfl, rfl⟩

/-- One request for each item. -/
lemma poses_forEach {items : List α} {op : α → Op σ Unit} {request : α → Request}
    (h : ∀ item, Poses c (op item) [request item]) :
    Poses c (CardEmulation.forEach items op) (items.map request) := by
  induction items with
  | nil => exact poses_pure ()
  | cons item rest ih => exact (h item).cons fun _ => ih

variable (request : Request) (hp : Ordering (.request request))

include hp

lemma Ordering.notCommit : request ≠ .commitRouting := by
  rintro rfl
  exact hp

lemma poses_call {venue : Venue α} (hv : OnlyHolds venue) :
    Poses c (Op.call venue request) [request] := by
  refine fun s => ⟨?_, call_asks c venue request s⟩
  exact keepsTo_call (orderly_alone _ c) (fun _ _ => trivial) hv hp (Ordering.notCommit request hp) s

lemma poses_send : Poses c (Op.send request) [request] := by
  intro s
  have hasked : Asks s (c.issue .caller request s).2 [request] := ⟨[_], rfl, rfl⟩
  exact ⟨keepsTo_send (orderly_alone _ c) hp (Ordering.notCommit request hp) s,
    hasked.trans ((follows_adds c).attend _).asks⟩

lemma poses_routingCall : Poses c (CardEmulation.routingCall request) [request] := by
  have hcall : Poses c (Op.call Venue.routing request) [request] := poses_call request hp fun _ _ => rfl
  refine hcall.ending fun outcome => ?_
  split
  · exact poses_pure _
  · exact poses_pure _

/-- An edit of default routing of which nobody asks how it ends. -/
lemma poses_routingEdit : Poses c (do
    let _ ← CardEmulation.routingCall request
    return ()) [request] :=
  (poses_routingCall request hp).ending fun _ => poses_pure _

lemma poses_aidCall : Poses c (CardEmulation.aidCall request) [request] := by
  have hcall : Poses c (Op.call Venue.aid request) [request] := poses_call request hp fun _ _ => rfl
  refine hcall.ending fun outcome => ?_
  split
  · exact poses_pure _
  · exact poses_pure _

omit hp in
lemma poses_setMode (handle : NfceeHandle) (mode : UInt8) :
    Poses c (CardEmulation.setMode handle mode) [.setNfceeMode handle mode] := by
  have hcall : Poses c (Op.call Venue.mode (.setNfceeMode handle mode)) [.setNfceeMode handle mode] :=
    poses_call (.setNfceeMode handle mode) trivial fun _ _ => rfl
  exact hcall.ending fun _ => poses_pure _

end Orders

section Plan

/-- The requests that put the environments to work that are not. -/
def activations (infos : Except Status (List NfceeInfo)) : List Request :=
  match infos with
  | .ok infos =>
    (infos.filter fun info => info.status == NfceeInfo.inactiveStatus).map fun info =>
      .setNfceeMode info.handle CardEmulation.activateMode
  | .error _ => []

/-- The id that a selector stands for, going by the answer to a query. -/
def connectedBy (infos : Except Status (List NfceeInfo)) (selector : UInt8) : UInt8 :=
  match infos with
  | .ok infos => NfceeInfo.connectedId infos selector
  | .error _ => hostRoute

/-- What the host goes by when it sets its default routes. -/
structure CardSetting where
  routing : RoutingConfig
  secure : Bool
  announced : List NfceeAnnouncement

namespace CardSetting

def ofHost (host : Host) : CardSetting := ⟨host.config.routing, host.router.secure, host.router.announced⟩

variable (setting : CardSetting)

/-- The announcements of the environment to which technologies are routed. -/
def targets : List NfceeAnnouncement :=
  if setting.routing.offHostRoute = hostRoute then []
  else setting.announced.filter fun announced =>
    announced.handle = NfceeHandle.ofId setting.routing.offHostRoute

/-- What is routed off the host. -/
def offHostTech : TechMask :=
  setting.targets.foldl (fun routed announced => routed ∪ CardEmulation.offeredTech announced) ∅

/-- Routing what an environment offers to it. -/
def offer (announced : NfceeAnnouncement) : List Request :=
  let offered := CardEmulation.offeredTech announced
  if offered.isEmpty then []
  else [.clearTechRouting announced.handle offered,
    .setTechRouting announced.handle (PowerRouting.offHost offered setting.secure)]

/-- The technologies that are withdrawn from the host. -/
def withdrawn : List TechMask :=
  CardEmulation.hostTechs.filter fun tech =>
    setting.routing.hostListenTech.contains tech && setting.offHostTech.contains tech

def techRequests : List Request :=
  setting.targets.flatMap setting.offer ++ setting.withdrawn.map (.clearTechRouting NfceeHandle.host)

def listenRequests : List Request :=
  [.setIsoDepListenTech (setting.routing.hostListenTech ∩ (TechMask.a ∪ TechMask.b)),
    .registerAidOnHost Aid.empty]

def powerState (route : UInt8) : UInt8 :=
  if setting.secure then CardEmulation.securePowerState
  else if route ≠ hostRoute then setting.routing.offHostPowerState
  else CardEmulation.hostPowerState

/-- Routing the empty identifier, which only the second version of the controller interface knows. -/
def defaultRequests (infos : Except Status (List NfceeInfo)) (version : UInt8) : List Request :=
  if version = Controller.version2 then
    let route := connectedBy infos setting.routing.defaultRoute
    [.queryNfcees, .addAid
      { aid := Aid.empty
        route := routeHandle route
        powerState := setting.powerState route
        info := AidInfo.leading }]
  else []

def isoDepRequests (infos : Except Status (List NfceeInfo)) : List Request :=
  let route := connectedBy infos setting.routing.offHostRoute
  [.queryNfcees, .clearProtocolRouting (routeHandle route) ProtocolMask.isoDep,
    .setProtocolRouting (routeHandle route)
      (if route ≠ hostRoute then PowerRouting.offHost ProtocolMask.isoDep setting.secure
        else PowerRouting.host ProtocolMask.isoDep setting.secure)]

/-- All that is asked for after the registration. -/
def requests (infos : Except Status (List NfceeInfo)) (version : UInt8) : List Request :=
  (.queryNfcees :: activations infos) ++ setting.techRequests ++ setting.listenRequests ++
    setting.defaultRequests infos version ++ setting.isoDepRequests infos

variable {setting}

lemma offHostTech_none (h : setting.targets = []) : setting.offHostTech = ∅ := by
  unfold offHostTech
  rw [h]
  rfl

/-- Where no environment is a target, nothing is asked for. -/
lemma techRequests_none (h : setting.targets = []) : setting.techRequests = [] := by
  have hnone : ∀ tech ∈ CardEmulation.hostTechs, ¬((setting.routing.hostListenTech.contains tech &&
      (∅ : TechMask).contains tech) = true) := by
    intro tech htech
    have hempty : (∅ : TechMask).contains tech = false := by
      revert tech
      decide
    rw [hempty, Bool.and_false]
    nofun
  unfold techRequests withdrawn
  rw [h, offHostTech_none h, List.filter_eq_nil_iff.mpr hnone]
  rfl

end CardSetting

lemma activateInactive_posed (s : System σ) :
    Posed c s ((CardEmulation.activateInactive : Op σ Unit).run c.alone s).2
      (.queryNfcees :: activations (c.nfcees s.controller)) := by
  unfold CardEmulation.activateInactive
  rw [Op.run_bind, Op.run_queryNfcees]
  refine (query_posed s).trans ?_
  change Posed c _ ((match c.nfcees s.controller with
    | .ok infos => _
    | .error _ => _ : Op σ Unit).run c.alone _).2 (activations (c.nfcees s.controller))
  cases c.nfcees s.controller with
  | error status => exact posed_of_eq _
  | ok infos => exact poses_forEach (fun info => poses_setMode _ _) _

lemma routeOffered_poses (setting : CardSetting) (announced : List NfceeAnnouncement)
    (routed : TechMask) :
    Poses c (CardEmulation.routeOffered setting.secure announced routed)
      (announced.flatMap setting.offer) := by
  induction announced generalizing routed with
  | nil => exact poses_pure routed
  | cons first rest ih =>
    rw [List.flatMap_cons]
    unfold CardEmulation.routeOffered CardSetting.offer
    dsimp only
    split
    · exact ih routed
    · refine (poses_routingCall (.clearTechRouting _ _) trivial).cons fun _ => ?_
      exact (poses_routingCall (.setTechRouting _ _) trivial).cons fun _ => ih _

lemma union_of_isEmpty {part : TechMask} (h : part.isEmpty = true) (mask : TechMask) :
    mask ∪ part = mask := by
  have hbits : part.bits = 0 := eq_of_beq h
  change TechMask.mk (mask.bits ||| part.bits) = mask
  rw [hbits, UInt8.or_zero]

lemma routeOffered_result (env : Environment σ) (secure : Bool) (announced : List NfceeAnnouncement)
    (routed : TechMask) (s : System σ) :
    ((CardEmulation.routeOffered secure announced routed).run env s).1 =
      announced.foldl (fun routed announced => routed ∪ CardEmulation.offeredTech announced) routed := by
  induction announced generalizing routed s with
  | nil => rfl
  | cons first rest ih =>
    unfold CardEmulation.routeOffered
    dsimp only
    rw [List.foldl_cons]
    split
    · next hempty =>
      rw [union_of_isEmpty hempty]
      exact ih _ _
    · exact ih _ _

/-- Routing technologies off the host gives what is routed there, whatever becomes of the requests. -/
lemma routeTechOffHost_posed (s : System σ) :
    ((CardEmulation.routeTechOffHost : Op σ TechMask).run c.alone s).1 =
        (CardSetting.ofHost s.host).offHostTech ∧
      Posed c s ((CardEmulation.routeTechOffHost : Op σ TechMask).run c.alone s).2
        (CardSetting.ofHost s.host).techRequests := by
  let setting := CardSetting.ofHost s.host
  by_cases hroute : setting.routing.offHostRoute = hostRoute
  · have hrun : (CardEmulation.routeTechOffHost : Op σ TechMask).run c.alone s = (∅, s) := by
      unfold CardEmulation.routeTechOffHost
      rw [Op.run_bind, Op.run_host]
      exact congrArg (fun op => Op.run op c.alone s) (if_pos hroute)
    have htargets : setting.targets = [] := if_pos hroute
    have hrequests : setting.techRequests = [] := CardSetting.techRequests_none htargets
    rw [hrun]
    exact ⟨(CardSetting.offHostTech_none htargets).symm, hrequests ▸ posed_of_eq s⟩
  · have htargets : setting.targets = setting.announced.filter fun announced =>
        announced.handle = NfceeHandle.ofId setting.routing.offHostRoute := if_neg hroute
    have hrun : (CardEmulation.routeTechOffHost : Op σ TechMask).run c.alone s =
        (do
          let routed ← CardEmulation.routeOffered setting.secure setting.targets ∅
          CardEmulation.forEach
            (CardEmulation.hostTechs.filter fun tech =>
              setting.routing.hostListenTech.contains tech && routed.contains tech)
            fun tech => do
              let _ ← CardEmulation.routingCall (.clearTechRouting NfceeHandle.host tech)
              return ()
          return routed : Op σ TechMask).run c.alone s := by
      unfold CardEmulation.routeTechOffHost
      rw [Op.run_bind, Op.run_host, htargets]
      exact congrArg (fun op => Op.run op c.alone s) (if_neg hroute)
    have hoffered := routeOffered_poses (c := c) setting setting.targets ∅ s
    have hrouted : ((CardEmulation.routeOffered setting.secure setting.targets ∅).run c.alone s).1 =
      setting.offHostTech := routeOffered_result _ _ _ _ s
    rw [hrun, Op.run_bind, hrouted]
    refine ⟨rfl, hoffered.trans ?_⟩
    have hclears : Poses c (CardEmulation.forEach setting.withdrawn fun tech => do
        let _ ← CardEmulation.routingCall (.clearTechRouting NfceeHandle.host tech)
        return () : Op σ Unit) (setting.withdrawn.map (.clearTechRouting NfceeHandle.host)) :=
      poses_forEach fun tech => poses_routingEdit _ trivial
    exact hclears.ending (fun _ => poses_pure _) _

lemma connectedId_posed (selector : UInt8) (s : System σ) :
    ((CardEmulation.connectedId selector : Op σ UInt8).run c.alone s) =
      (connectedBy (c.nfcees s.controller) selector, (c.queryNfcees .caller s).2) := by
  unfold CardEmulation.connectedId connectedBy
  rw [Op.run_bind, Op.run_queryNfcees]
  change (match c.nfcees s.controller with
    | .ok infos => _
    | .error _ => _ : Op σ UInt8).run c.alone _ = _
  cases c.nfcees s.controller with
  | error status => rfl
  | ok infos => rfl

lemma routeDefault_posed (s : System σ) :
    Posed c s ((CardEmulation.routeDefault : Op σ Unit).run c.alone s).2
      ((CardSetting.ofHost s.host).defaultRequests (c.nfcees s.controller) (c.version s.controller)) := by
  unfold CardEmulation.routeDefault CardSetting.defaultRequests
  rw [Op.run_bind, Op.run_version]
  change Posed c s ((if c.version s.controller = Controller.version2 then _ else _ : Op σ Unit).run
    c.alone s).2 _
  split
  · rw [Op.run_bind, Op.run_read, Op.run_bind, connectedId_posed]
    refine (query_posed s).cons ?_
    rw [Op.run_bind, Op.run_host]
    exact (poses_aidCall (.addAid _) trivial).ending (fun _ => poses_pure _) _
  · exact posed_of_eq s

lemma routeIsoDep_posed (s : System σ) :
    Posed c s ((CardEmulation.routeIsoDep : Op σ Unit).run c.alone s).2
      ((CardSetting.ofHost s.host).isoDepRequests (c.nfcees s.controller)) := by
  unfold CardEmulation.routeIsoDep CardSetting.isoDepRequests
  rw [Op.run_bind, Op.run_read, Op.run_bind, Op.run_read, Op.run_bind, connectedId_posed]
  refine (query_posed s).cons ?_
  refine (poses_routingCall (.clearProtocolRouting _ _) trivial).cons (fun _ => ?_) _
  exact poses_routingEdit (.setProtocolRouting _ _) trivial

end Plan

section Setting

/-- What an event announces. -/
def announcement : Event → Option (List NfceeAnnouncement)
  | .nfceesAnnounced _ announced => some announced
  | _ => none

lemma hear_announced (event : Event) (host : Host) :
    (hear event host).router.announced = (announcement event).getD host.router.announced := by
  cases event with
  | activated act =>
    obtain ⟨flags, session, endpoints, h⟩ := hear_tag (show concernsTag (.activated act) = true from rfl) host
    rw [h]
    rfl
  | discovered status notice =>
    obtain ⟨flags, session, endpoints, h⟩ :=
      hear_tag (show concernsTag (.discovered status notice) = true from rfl) host
    rw [h]
    rfl
  | deactivated sleep => cases sleep <;> rfl
  | _ => rfl

/-- The host knows what was announced last. -/
def Learns (s t : System σ) : Prop :=
  s.receiver ≠ .session → t.receiver = s.receiver ∧ ∃ new, t.trace = s.trace ++ new ∧
    t.host.router.announced =
      ((eventsOf new).filterMap announcement).getLast?.getD s.host.router.announced

lemma learns_of_eq (hr : t.receiver = s.receiver) {new : List Entry} (ht : t.trace = s.trace ++ new)
    (hnew : eventsOf new = []) (ha : t.host.router.announced = s.host.router.announced) :
    Learns s t :=
  fun _ => ⟨hr, new, ht, by rw [hnew]; exact ha⟩

lemma Learns.trans (h₁ : Learns s t) (h₂ : Learns t u) : Learns s u := by
  intro hs
  obtain ⟨hr₁, first, htrace₁, hfirst⟩ := h₁ hs
  obtain ⟨hr₂, rest, htrace₂, hrest⟩ := h₂ (by rw [hr₁]; exact hs)
  refine ⟨hr₂.trans hr₁, first ++ rest, by rw [htrace₂, htrace₁, List.append_assoc], ?_⟩
  rw [hrest, hfirst, eventsOf_append, List.filterMap_append, List.getLast?_append]
  cases ((eventsOf rest).filterMap announcement).getLast? with
  | none => rfl
  | some announced => rfl

lemma learns_deliver (happening : Happening) (s : System σ) : Learns s (c.deliver happening s) := by
  have hsame (t : System σ) (hr : t.receiver = s.receiver) (ht : t.trace = s.trace)
      (ha : t.host.router.announced = s.host.router.announced) : Learns s t :=
    learns_of_eq hr (by rw [ht, List.append_nil]) rfl ha
  cases happening with
  | abortAll => exact hsame _ rfl rfl rfl
  | abortSession => exact hsame _ rfl rfl rfl
  | event event =>
    intro hs
    cases hr : s.receiver with
    | session => exact absurd hr hs
    | nobody =>
      rw [deliver_nobody c hr]
      exact ⟨hr, [], (List.append_nil _).symm, rfl⟩
    | host =>
      obtain ⟨new, htrace, hevents⟩ := deliver_events c (receives_of_host hr) event
      refine ⟨(deliver_receiver c _ s).trans hr, new, htrace, ?_⟩
      rw [hevents, (deliver_host c hr event).host, hear_announced, List.filterMap_cons]
      cases announcement event with
      | none => rfl
      | some announced => rfl

/-- What only callers change of what default routes go by. -/
def routeGround (host : Host) : RoutingConfig × Bool := (host.config.routing, host.router.secure)

lemma routeGround_of_steady {host other : Host} (h : steady other = steady host) :
    routeGround other = routeGround host := by
  change routeGround (steady other) = routeGround (steady host)
  rw [h]

/-- Nothing changed of what default routes go by but the announcements, and the controller is in a state of
the same kind. -/
structure Bears (known : σ → Prop) (s t : System σ) : Prop where
  ground : routeGround t.host = routeGround s.host
  known : known s.controller → known t.controller
  learns : Learns s t

variable {known : σ → Prop}

lemma Bears.trans (h₁ : Bears known s t) (h₂ : Bears known t u) : Bears known s u :=
  ⟨h₂.ground.trans h₁.ground, fun h => h₂.known (h₁.known h), h₁.learns.trans h₂.learns⟩

/-- A system that differs in nothing that matters here. -/
lemma bears_of_eq (hg : routeGround t.host = routeGround s.host) (hc : t.controller = s.controller)
    (hr : t.receiver = s.receiver) (ht : t.trace = s.trace)
    (ha : t.host.router.announced = s.host.router.announced) : Bears known s t :=
  ⟨hg, fun h => hc ▸ h, learns_of_eq hr (by rw [ht, List.append_nil]) rfl ha⟩

variable (hstays : ∀ request x, known x → known (c.respond request x).2)

include hstays

lemma bears_deliver (happening : Happening) (s : System σ) :
    Bears known s (c.deliver happening s) := by
  refine ⟨routeGround_of_steady (deliver_steady c happening s), fun h => ?_, learns_deliver happening s⟩
  cases happening with
  | abortAll => exact h
  | abortSession => exact h
  | event event =>
    by_cases hn : s.receiver = .nobody
    · rw [deliver_nobody c hn]
      exact h
    · generalize hafter : hearAs s.receiver event s.host = after
      have hreacts := deliver_reacts c hn event
      rw [hafter] at hreacts
      generalize c.deliver (.event event) s = t at hreacts ⊢
      cases hreacts with
      | tells htells =>
        obtain ⟨new, -, rfl⟩ := htells
        exact h
      | holds notice hd hu => exact h
      | asks host hasks => exact hstays _ _ h

lemma Evolves.bears (h : Evolves c Ordering s t) : Bears known s t := by
  have hissue (origin : Origin) (request : Request) (s : System σ) (hr : request ≠ .enable) :
      Bears known s (c.issue origin request s).2 :=
    ⟨rfl, hstays request s.controller, learns_of_eq (issue_receiver c origin request s hr) rfl rfl rfl⟩
  have hsteps : FollowsSteps c Ordering (Bears known) :=
    { refl := fun _ => bears_of_eq rfl rfl rfl rfl rfl
      trans := Bears.trans
      queue := fun _ _ => bears_of_eq rfl rfl rfl rfl rfl
      deliver := fun s happening _ => bears_deliver hstays happening s
      request := fun request s hp _ => hissue .caller request s (by rintro rfl; exact hp)
      query := fun _ => ⟨rfl, id, learns_of_eq rfl rfl rfl rfl⟩
      change := fun change s hp => by
        cases change with
        | waits f hf =>
          have hsame : unarmed (f s.host) = unarmed s.host := hf s.host
          have hground : routeGround (unarmed (f s.host)) = routeGround (unarmed s.host) := by rw [hsame]
          have hannounced : (unarmed (f s.host)).router.announced = (unarmed s.host).router.announced := by
            rw [hsame]
          exact bears_of_eq hground rfl rfl rfl hannounced
        | _ => exact hp.elim
      inUse := fun _ _ => bears_of_eq rfl rfl rfl rfl rfl
      heldUp := fun _ => bears_of_eq rfl rfl rfl rfl rfl
      late := fun _ _ _ => bears_of_eq rfl rfl rfl rfl rfl
      selects := fun notice s _ => by
        have hfree : Bears known s { s with late := none } := bears_of_eq rfl rfl rfl rfl rfl
        have hasked := hissue .reaction (.select notice.target.target notice.target.protocol
          (RadioInterface.forProtocol notice.target.protocol)) { s with late := none } nofun
        exact (hfree.trans hasked).trans (bears_of_eq rfl rfl rfl rfl rfl) }
  exact hsteps.evolves h

omit hstays

lemma offHostTech_of_steady {host other : Host} (h : steady other = steady host) :
    other.router.offHostTech = host.router.offHostTech := by
  change (steady other).router.offHostTech = (steady host).router.offHostTech
  rw [h]

lemma change_offHostTech {change : Change} (h : ∀ routed, change ≠ .offHostTech routed) (host : Host) :
    (change.apply host).router.offHostTech = host.router.offHostTech := by
  cases change with
  | offHostTech routed => exact absurd rfl (h routed)
  | waits f hf =>
    change (unarmed (f host)).router.offHostTech = (unarmed host).router.offHostTech
    rw [hf]
  | welcome act =>
    change (welcomed act host).router.offHostTech = host.router.offHostTech
    unfold welcomed
    split
    · rfl
    · rfl
  | _ => rfl

/-- What is routed off the host changes by a caller only. -/
lemma Evolves.offHostTech {P : Act → Prop} (hP : ∀ routed, ¬P (.change (.offHostTech routed)))
    (h : Evolves c P s t) : t.host.router.offHostTech = s.host.router.offHostTech := by
  have hsteps : FollowsSteps c P fun s t => t.host.router.offHostTech = s.host.router.offHostTech :=
    { refl := fun _ => rfl
      trans := fun h₁ h₂ => h₂.trans h₁
      queue := fun _ _ => rfl
      deliver := fun s happening _ => offHostTech_of_steady (deliver_steady c happening s)
      request := fun _ _ _ _ => rfl
      query := fun _ => rfl
      change := fun change s hp => change_offHostTech (fun routed hsame => hP routed (hsame ▸ hp)) s.host
      inUse := fun _ _ => rfl
      heldUp := fun _ => rfl
      late := fun _ _ _ => rfl
      selects := fun _ _ _ => rfl }
  exact hsteps.evolves h

lemma Posed.offHostTech {requests : List Request} (h : Posed c s t requests) :
    t.host.router.offHostTech = s.host.router.offHostTech :=
  h.evolves.offHostTech fun _ => id

end Setting

section Establishing

/-- The system in which it is settled what is routed off the host. -/
def settled (routed : System σ) (tech : TechMask) : System σ :=
  routed.mapHost (Host.mapRouter fun router => { router with offHostTech := tech })

/-- The stages of establishing the default routes, each with what is asked for in it. -/
structure Stages (c : Controller σ) (s active routed listening ready t : System σ) : Prop where
  activates : Posed c s active (.queryNfcees :: activations (c.nfcees s.controller))
  routes : Posed c active routed (CardSetting.ofHost active.host).techRequests
  listens : Posed c (settled routed (CardSetting.ofHost active.host).offHostTech) listening
    (CardSetting.ofHost routed.host).listenRequests
  defaults : Posed c listening ready ((CardSetting.ofHost listening.host).defaultRequests
    (c.nfcees listening.controller) (c.version listening.controller))
  isoDep : Posed c ready t
    ((CardSetting.ofHost ready.host).isoDepRequests (c.nfcees ready.controller))

lemma establish_stages (c : Controller σ) (s : System σ) : ∃ active routed listening ready,
    Stages c s active routed listening ready ((CardEmulation.establish : Op σ Unit).run c.alone s).2 := by
  have hlisten (setting : CardSetting) : Poses c (do
      let _ ← Op.send (.setIsoDepListenTech (setting.routing.hostListenTech ∩ (TechMask.a ∪ TechMask.b)))
      Op.send (.registerAidOnHost Aid.empty) : Op σ Status) setting.listenRequests :=
    (poses_send (.setIsoDepListenTech _) trivial).cons fun _ => poses_send (.registerAidOnHost _) trivial
  obtain ⟨hrouted, hroutes⟩ := routeTechOffHost_posed (c := c)
    ((CardEmulation.activateInactive : Op σ Unit).run c.alone s).2
  exact ⟨_, _, _, _, activateInactive_posed s, hroutes,
    hrouted ▸ hlisten (CardSetting.ofHost _) _, routeDefault_posed _, routeIsoDep_posed _⟩

/-- The announcements among the events that were delivered. -/
def announcementsIn (trace : List Entry) : List (List NfceeAnnouncement) :=
  (eventsOf trace).filterMap announcement

/-- What had no announcement to its end had none before. -/
lemma quiet_before (h : t.trace <+: u.trace) (n : Nat)
    (hquiet : announcementsIn (u.trace.drop n) = []) : announcementsIn (t.trace.drop n) = [] := by
  obtain ⟨rest, hrest⟩ := h
  rw [← hrest, List.drop_append] at hquiet
  unfold announcementsIn at hquiet ⊢
  rw [eventsOf_append, List.filterMap_append] at hquiet
  exact (List.append_eq_nil_iff.mp hquiet).1

variable {known : σ → Prop}

lemma Bears.setting (h : Bears known s t) (hs : s.receiver ≠ .session)
    (hquiet : announcementsIn (t.trace.drop s.trace.length) = []) :
    CardSetting.ofHost t.host = CardSetting.ofHost s.host := by
  obtain ⟨hrouting, hsecure⟩ := Prod.mk.inj h.ground
  obtain ⟨-, new, htrace, hannounced⟩ := h.learns hs
  rw [trace_since htrace] at hquiet
  unfold announcementsIn at hquiet
  rw [hquiet] at hannounced
  unfold CardSetting.ofHost
  rw [hrouting, hsecure, hannounced]
  rfl

/-- In states of a kind the controller gives the same answers to queries, whatever it makes of requests. -/
structure Informs (c : Controller σ) (known : σ → Prop) (infos : Except Status (List NfceeInfo))
    (version : UInt8) : Prop where
  stays : ∀ request x, known x → known (c.respond request x).2
  nfcees : ∀ x, known x → c.nfcees x = infos
  version : ∀ x, known x → c.version x = version

variable {infos : Except Status (List NfceeInfo)} {version : UInt8}

/-- Where no more announcements come, all requests are settled when the routes begin to be established. -/
lemma establish_asks (hc : Informs c known infos version) (hknown : known s.controller)
    (hs : s.receiver ≠ .session) :
    let t := ((CardEmulation.establish : Op σ Unit).run c.alone s).2
    announcementsIn (t.trace.drop s.trace.length) = [] →
      Asks s t ((CardSetting.ofHost s.host).requests infos version) ∧
        t.host.router.offHostTech = (CardSetting.ofHost s.host).offHostTech := by
  intro t hquiet
  obtain ⟨active, routed, listening, ready, h⟩ := establish_stages c s
  have hactive : Bears known s active := h.activates.evolves.bears hc.stays
  have hrouted : Bears known s routed := hactive.trans (h.routes.evolves.bears hc.stays)
  have hlistening : Bears known s listening := by
    have hsettled : Bears known routed (settled routed (CardSetting.ofHost active.host).offHostTech) :=
      bears_of_eq rfl rfl rfl rfl rfl
    exact (hrouted.trans hsettled).trans (h.listens.evolves.bears hc.stays)
  have hready : Bears known s ready := hlistening.trans (h.defaults.evolves.bears hc.stays)
  have hlast : ready.trace <+: t.trace := h.isoDep.asks.covers
  have hthird : listening.trace <+: t.trace := h.defaults.asks.covers.trans hlast
  have hsecond : routed.trace <+: t.trace := h.listens.asks.covers.trans hthird
  have hfirst : active.trace <+: t.trace := h.routes.asks.covers.trans hsecond
  have hsetting {u : System σ} (hu : Bears known s u) (htrace : u.trace <+: t.trace) :
      CardSetting.ofHost u.host = CardSetting.ofHost s.host := hu.setting hs (quiet_before htrace _ hquiet)
  have hroutes := h.routes.asks
  have hlistens := h.listens.asks
  have hdefaults := h.defaults.asks
  have hisoDep := h.isoDep.asks
  rw [hsetting hactive hfirst] at hroutes
  rw [hsetting hrouted hsecond] at hlistens
  rw [hsetting hlistening hthird, hc.nfcees _ (hlistening.known hknown),
    hc.version _ (hlistening.known hknown)] at hdefaults
  rw [hsetting hready hlast, hc.nfcees _ (hready.known hknown)] at hisoDep
  have hactivates := h.activates.asks
  rw [hc.nfcees _ hknown] at hactivates
  refine ⟨(((hactivates.trans hroutes).trans hlistens).trans hdefaults).trans hisoDep, ?_⟩
  rw [h.isoDep.offHostTech, h.defaults.offHostTech, h.listens.offHostTech,
    ← hsetting hactive hfirst]
  rfl

end Establishing

section Registering

/-- The registration for the environments' events. -/
def registering (c : Controller σ) (s : System σ) : Exchange σ :=
  exchange c Venue.register .registerNfcees s

/-- The system in which the host is registered. -/
def registered (c : Controller σ) (s : System σ) : System σ :=
  (registering c s).ended.mapHost (Venue.register.map .disarm)

lemma bringUp_refused (h : ¬(registering c s).accepted) :
    (CardEmulation.bringUp : Op σ Bool).run c.alone s = (false, registered c s) := by
  unfold CardEmulation.bringUp
  rw [Op.run_bind, call_alone]
  have hverdict : ¬(exchange c Venue.register .registerNfcees s).verdict.isOk = true := h
  rw [if_neg hverdict]
  rfl

lemma bringUp_accepted (h : (registering c s).accepted) :
    (CardEmulation.bringUp : Op σ Bool).run c.alone s =
      (true, ((CardEmulation.establish : Op σ Unit).run c.alone (registered c s)).2) := by
  unfold CardEmulation.bringUp
  rw [Op.run_bind, call_alone]
  have hverdict : (exchange c Venue.register .registerNfcees s).verdict.isOk = true := h
  rw [if_pos hverdict]
  -- Only a refusal is told from the other endings of the wait.
  unfold Rendezvous.outcome
  cases (Venue.register.view (exchange c Venue.register .registerNfcees s).ended.host).value with
  | some status => rfl
  | none =>
    dsimp only
    cases (Venue.register.view (exchange c Venue.register .registerNfcees s).ended.host).aborted with
    | true => rfl
    | false => rfl

lemma registered_asks (c : Controller σ) (s : System σ) :
    Asks s (registered c s) [.registerNfcees] :=
  exchange_asks c Venue.register .registerNfcees s

/-- While the host waits to be registered nobody asks for anything. -/
lemma registered_posed (h : (registering c s).accepted) :
    Posed c (registering c s).asked (registered c s) [] := by
  have hwait : KeepsTo Ordering c.alone (Op.await Venue.register : Op σ (Outcome Status)) :=
    keepsTo_await (orderly_alone _ c) (fun _ _ => trivial) fun _ _ => rfl
  have hevolves := hwait (registering c s).asked
  have hasks := ((follows_adds c).pass (fun _ _ => adds_of_trace_eq rfl) (registering c s).asked).asks
  have hended : (registering c s).ended = ((Op.pass : Op σ Unit).run c.alone (registering c s).asked).2 :=
    if_pos h
  unfold registered
  rw [hended]
  exact ⟨hevolves, hasks⟩

/-- What matters of a controller's conduct while card emulation is brought up. -/
structure Conducts (c : Controller σ) (s : System σ) (known : σ → Prop)
    (infos : Except Status (List NfceeInfo)) (version : UInt8)
    (announced : Option (List NfceeAnnouncement)) : Prop where
  informs : Informs c known infos version
  begins : known (registering c s).asked.controller
  receiver : s.receiver ≠ .session
  /-- What was announced last while the host waited to be registered. -/
  announces : (registering c s).answer? announcement = announced
  /-- Nothing is announced after that. -/
  quiet : announcementsIn (((CardEmulation.bringUp : Op σ Bool).run c.alone s).2.trace.drop
    (registering c s).ended.trace.length) = []

variable {known : σ → Prop} {infos : Except Status (List NfceeInfo)} {version : UInt8}
  {announced : Option (List NfceeAnnouncement)}

/-- What bringing card emulation up asks for, and what it takes to be routed off the host. -/
lemma bringUp_asks (h : Conducts c s known infos version announced) (ha : (registering c s).accepted) :
    let setting := { CardSetting.ofHost s.host with
      announced := announced.getD s.host.router.announced }
    let t := ((CardEmulation.bringUp : Op σ Bool).run c.alone s).2
    Asks s t (.registerNfcees :: setting.requests infos version) ∧
      t.host.router.offHostTech = setting.offHostTech := by
  intro setting t
  have hreceiver : (registering c s).asked.receiver ≠ .session := by
    have hsame := issue_receiver c .caller .registerNfcees (s.mapHost (Venue.register.map .arm)) nofun
    change ¬_ = _
    exact fun hsession => h.receiver (hsame.symm.trans hsession)
  have hborne : Bears known (registering c s).asked (registered c s) :=
    (registered_posed ha).evolves.bears h.informs.stays
  have hsetting : CardSetting.ofHost (registered c s).host = setting := by
    obtain ⟨hrouting, hsecure⟩ := Prod.mk.inj hborne.ground
    obtain ⟨-, new, htrace, hannounced⟩ := hborne.learns hreceiver
    have hlast : ((eventsOf new).filterMap announcement).getLast? = announced := by
      rw [← h.announces, ← trace_since htrace]
      rfl
    unfold CardSetting.ofHost
    rw [hrouting, hsecure, hannounced, hlast]
    rfl
  have hrest := establish_asks h.informs (hborne.known h.begins) (fun hsession => hreceiver
    ((hborne.learns hreceiver).1.symm.trans hsession))
  have hrun := bringUp_accepted ha
  have ht : t = ((CardEmulation.establish : Op σ Unit).run c.alone (registered c s)).2 := by
    change ((CardEmulation.bringUp : Op σ Bool).run c.alone s).2 = _
    rw [hrun]
  have hquiet := h.quiet
  rw [hrun] at hquiet
  obtain ⟨hasks, hrouted⟩ := hrest hquiet
  rw [ht]
  rw [hsetting] at hasks hrouted
  exact ⟨(registered_asks c s).trans hasks, hrouted⟩

end Registering

/-- A refused registration is all that bringing card emulation up asks for, and it fails; after an accepted
one it succeeds. What it asks for then, and what it takes to be routed off the host, is the same for any two
controllers that announce the same environments while the host waits to be registered, and none after that,
and that give the same answers to queries, if the hosts have the same routing configuration, secure mode and
known environments. So it is whatever else the controllers refuse, leave unconfirmed or fail to do. -/
theorem bringUp_best_effort {σ₁ σ₂ : Type} (c₁ : Controller σ₁) (c₂ : Controller σ₂) (s₁ : System σ₁)
    (s₂ : System σ₂) :
    let first := (CardEmulation.bringUp : Op σ₁ Bool).run c₁.alone s₁
    let second := (CardEmulation.bringUp : Op σ₂ Bool).run c₂.alone s₂
    let asked := callerRequests (first.2.trace.drop s₁.trace.length)
    (¬(registering c₁ s₁).accepted → first.1 = false ∧ asked = [.registerNfcees]) ∧
    ((registering c₁ s₁).accepted → first.1 = true) ∧
    ∀ (known₁ : σ₁ → Prop) (known₂ : σ₂ → Prop) infos version announced,
      Conducts c₁ s₁ known₁ infos version announced → Conducts c₂ s₂ known₂ infos version announced →
      CardSetting.ofHost s₁.host = CardSetting.ofHost s₂.host →
      (registering c₁ s₁).accepted → (registering c₂ s₂).accepted →
        asked = callerRequests (second.2.trace.drop s₂.trace.length) ∧
          first.2.host.router.offHostTech = second.2.host.router.offHostTech := by
  intro first second asked
  refine ⟨fun hrefused => ?_, fun haccepted => ?_, ?_⟩
  · have hfirst : first = (false, registered c₁ s₁) := bringUp_refused hrefused
    refine ⟨congrArg Prod.fst hfirst, ?_⟩
    have hasks := (registered_asks c₁ s₁).made
    rw [← hasks]
    exact congrArg (fun t => callerRequests (t.trace.drop s₁.trace.length)) (congrArg Prod.snd hfirst)
  · exact congrArg Prod.fst (bringUp_accepted haccepted)
  · intro known₁ known₂ infos version announced h₁ h₂ hsame ha₁ ha₂
    obtain ⟨hasks₁, hrouted₁⟩ := bringUp_asks h₁ ha₁
    obtain ⟨hasks₂, hrouted₂⟩ := bringUp_asks h₂ ha₂
    have hannounced : s₁.host.router.announced = s₂.host.router.announced :=
      congrArg CardSetting.announced hsame
    rw [hsame, hannounced] at hasks₁ hrouted₁
    exact ⟨hasks₁.made.trans hasks₂.made.symm, hrouted₁.trans hrouted₂.symm⟩

section Scripted

/-- What a script answers to queries. -/
def scriptTells (script : Script) : Except Status (List NfceeInfo) × UInt8 := (script.nfcees, script.version)

/-- A part of a script that no response uses up. -/
structure Untouched (f : Script → β) : Prop where
  refusals : ∀ script refusals, f { script with refusals } = f script
  answers : ∀ script answers, f { script with answers } = f script
  detections : ∀ script detections, f { script with detections } = f script
  message : ∀ script message, f { script with message } = f script

lemma Untouched.verdict {f : Script → β} (h : Untouched f) (script : Script) (kind : RequestKind) :
    f (script.verdict kind).2 = f script := by
  unfold Script.verdict
  split
  · exact h.refusals script _
  · rfl

lemma Untouched.complete {f : Script → β} (h : Untouched f) (script : Script) (request : Request) :
    f (script.complete request).2 = f script := by
  cases request with
  | sendFrame frame =>
    unfold Script.complete
    dsimp only
    split
    · exact h.answers script _
    · rfl
  | detectNdef =>
    unfold Script.complete Script.nextDetection
    dsimp only
    split
    · exact h.detections script _
    · rfl
  | writeNdef message =>
    unfold Script.complete
    dsimp only
    split
    · exact h.message script message
    · rfl
  | _ => rfl

lemma Untouched.respond {f : Script → β} (h : Untouched f) (request : Request) (script : Script) :
    f (script.respond request).2 = f script := by
  unfold Script.respond
  split
  · rfl
  · dsimp only
    split
    · exact (h.complete _ request).trans (h.verdict script request.kind)
    · exact h.verdict script request.kind

lemma scriptTells_respond (request : Request) (script : Script) :
    scriptTells (script.respond request).2 = scriptTells script :=
  Untouched.respond ⟨fun _ _ => rfl, fun _ _ => rfl, fun _ _ => rfl, fun _ _ => rfl⟩ request script

/-- A script gives the same answers to queries from first to last. -/
lemma script_informs (infos : Except Status (List NfceeInfo)) (version : UInt8) :
    Informs Script.controller (fun script => scriptTells script = (infos, version)) infos version where
  stays request script h := (scriptTells_respond request script).trans h
  nfcees _ h := congrArg Prod.fst h
  version _ h := congrArg Prod.snd h

/-- A secure element that is active and offers both technologies, and one that has to be put to work. -/
def elements : List NfceeInfo :=
  [{ handle := .ofId 0x81, status := NfceeInfo.activeStatus, interfaces := [] },
    { handle := .ofId 0x82, status := NfceeInfo.inactiveStatus, interfaces := [] }]

/-- A controller with two elements that does as it is asked. -/
def willing : Script :=
  { nfcees := .ok elements
    announced := [{ handle := .ofId 0x81, protocolA := 0x01, protocolB := 0x01 }] }

/-- A controller with the same elements that refuses, leaves unconfirmed or fails to do what it is asked. -/
def unwilling : Script :=
  { willing with
    standing := [(.setNfceeMode, .rejected), (.setIsoDepListenTech, .failed)]
    silenced := [.clearTechRouting, .setProtocolRouting]
    completions := [(.registerNfcees, .failed), (.setTechRouting, .failed), (.addAid, .failed)] }

/-- A stack that is up and routes to the active element, over a controller that goes on by a script. -/
def emulating (script : Script) : System Script :=
  { ran Script.controller [] { routing := { offHostRoute := 0x81, defaultRoute := 0x81 } } {}
      [.move (.call (.host .bringUp))] with controller := script }

lemma emulating_conducts (script : Script) (htells : scriptTells script = scriptTells willing)
    (hannounces : (registering Script.controller (emulating script)).answer? announcement =
      some willing.announced)
    (hquiet : announcementsIn (((CardEmulation.bringUp : Op Script Bool).run Script.controller.alone
      (emulating script)).2.trace.drop
        (registering Script.controller (emulating script)).ended.trace.length) = []) :
    Conducts Script.controller (emulating script) (fun script => scriptTells script = scriptTells willing)
      (.ok elements) Controller.version2 (some willing.announced) where
  informs := script_informs _ _
  begins := (scriptTells_respond .registerNfcees script).trans htells
  receiver := by
    have hreceiver : (emulating script).receiver = .host := rfl
    rw [hreceiver]
    nofun
  announces := hannounces
  quiet := hquiet

/-- Both controllers are asked for the same thirteen things. One does them, and the other puts no element to
work, withdraws no route and sets none. -/
theorem unwilling_asked_alike :
    let first := (CardEmulation.bringUp : Op Script Bool).run Script.controller.alone (emulating willing)
    let second := (CardEmulation.bringUp : Op Script Bool).run Script.controller.alone (emulating unwilling)
    let asked := callerRequests (first.2.trace.drop (emulating willing).trace.length)
    first.1 = true ∧ second.1 = true ∧ asked.length = 13 ∧
      asked = callerRequests (second.2.trace.drop (emulating unwilling).trace.length) ∧
      first.2.host.router.offHostTech = second.2.host.router.offHostTech ∧
      first.2.host.router.offHostTech = TechMask.a ∪ TechMask.b := by
  intro first second asked
  obtain ⟨-, hfirst, halike⟩ :=
    bringUp_best_effort Script.controller Script.controller (emulating willing) (emulating unwilling)
  obtain ⟨hasked, hrouted⟩ := halike _ _ _ _ _ (emulating_conducts willing rfl rfl rfl)
    (emulating_conducts unwilling rfl rfl rfl) rfl rfl rfl
  exact ⟨hfirst rfl, rfl, rfl, hasked, hrouted, rfl⟩

end Scripted

end NfcStack.Proofs
