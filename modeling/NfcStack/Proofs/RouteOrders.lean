import NfcStack.Proofs.TechRoutes

/-!
# Orders to route technologies

What counts as routed off the host are the technologies that were ordered there, also where the controller
refused the order, left it unanswered or completed it with a failure. Until the next registration the host
then keeps away from such a technology, so that nobody is routed to.
-/

namespace NfcStack.Proofs

variable {σ : Type} {c : Controller σ} {s t u : System σ}

section Orders

/-- What completes an edit of default routing. All edits have their waits at one venue. -/
def routingAnswer : Event → Option Status
  | .techRouted status => some status
  | .techCleared status => some status
  | .protocolRouted status => some status
  | .protocolCleared status => some status
  | _ => none

lemma hears_routing : Hears Venue.routing routingAnswer where
  view _ _ := rfl
  abort host := keeps_abort host.router.routing
  abortSession _ := keeps_nil _
  hear event host := by
    cases event with
    | techRouted status => exact keeps_notify routingAnswer rfl _
    | techCleared status => exact keeps_notify routingAnswer rfl _
    | protocolRouted status => exact keeps_notify routingAnswer rfl _
    | protocolCleared status => exact keeps_notify routingAnswer rfl _
    | activated act => exact keeps_tag (fun _ _ _ _ => rfl) rfl rfl host
    | discovered status notice => exact keeps_tag (fun _ _ _ _ => rfl) rfl rfl host
    | deactivated sleep => exact keeps_tag (fun _ _ _ _ => rfl) rfl rfl host
    | _ => exact keeps_deaf rfl (keeps_nil _)

/-- An order to route technologies, with the last completion that came before callers went on. -/
structure TechOrder where
  handle : NfceeHandle
  powers : PowerRouting TechMask
  verdict : Status
  completion : Option Status

namespace TechOrder

def request (order : TechOrder) : Request := .setTechRouting order.handle order.powers

def acknowledged (order : TechOrder) : Bool := order.verdict.isOk && order.completion.any Status.isOk

/-- The technology is among those ordered. -/
def Carries (order : TechOrder) (tech : TechMask) : Prop := Routes order.powers tech

end TechOrder

def byCaller (entry : Entry) : Bool :=
  match entry.passage with
  | .request .caller _ _ => true
  | _ => false

/-- The order that an entry of the trace is, given what follows it. -/
def order? (entry : Entry) (rest : List Entry) : Option TechOrder :=
  match entry.passage with
  | .request .caller (.setTechRouting handle powers) verdict =>
    some { handle, powers, verdict
           completion := ((eventsOf (beforeNext byCaller rest)).filterMap routingAnswer).getLast? }
  | _ => none

/-- The orders in a trace. -/
def techOrders : List Entry → List TechOrder
  | [] => []
  | entry :: rest => (order? entry rest).toList ++ techOrders rest

lemma order_request (entry : Entry) (rest : List Entry) :
    (order? entry rest).toList.map TechOrder.request = (callerRequests [entry]).filter setsTech := by
  obtain ⟨passage, flags⟩ := entry
  cases passage with
  | delivered event => rfl
  | notified notification => rfl
  | request origin request verdict =>
    cases origin with
    | reaction => rfl
    | caller => cases request <;> rfl

lemma techOrders_requests (trace : List Entry) :
    (techOrders trace).map TechOrder.request = (callerRequests trace).filter setsTech := by
  induction trace with
  | nil => rfl
  | cons entry rest ih =>
    change _ = (callerRequests ([entry] ++ rest)).filter setsTech
    rw [callerRequests_append, List.filter_append, ← ih, ← order_request entry rest, ← List.map_append]
    rfl

lemma mem_techOrders {trace : List Entry} {tech : TechMask} :
    (∃ order ∈ techOrders trace, order.Carries tech) ↔
      ∃ handle powers, .setTechRouting handle powers ∈ callerRequests trace ∧ Routes powers tech := by
  have hrequests := techOrders_requests trace
  constructor
  · rintro ⟨order, hmem, hcarries⟩
    have hasked : order.request ∈ (callerRequests trace).filter setsTech :=
      hrequests ▸ List.mem_map_of_mem hmem
    exact ⟨order.handle, order.powers, (List.mem_filter.mp hasked).1, hcarries⟩
  · rintro ⟨handle, powers, hmem, hcarries⟩
    have hasked : .setTechRouting handle powers ∈ (techOrders trace).map TechOrder.request := by
      rw [hrequests]
      exact List.mem_filter.mpr ⟨hmem, rfl⟩
    obtain ⟨order, horder, hsame⟩ := List.mem_map.mp hasked
    obtain ⟨-, rfl⟩ := Request.setTechRouting.inj hsame
    exact ⟨order, horder, hcarries⟩

lemma no_techOrders {trace : List Entry} (h : callerRequests trace = []) : techOrders trace = [] := by
  have hrequests := techOrders_requests trace
  rw [h] at hrequests
  exact List.map_eq_nil_iff.mp hrequests

lemma not_byCaller {entry : Entry} (h : OfDelivery entry) : byCaller entry = false := by
  have hnone := callerRequests_delivery (List.forall_mem_singleton.mpr h)
  cases hpassage : byCaller entry with
  | false => rfl
  | true =>
    unfold byCaller at hpassage
    split at hpassage
    · next request verdict hrequest =>
      have hmem := mem_callerRequests (List.mem_singleton_self entry) hrequest
      rw [hnone] at hmem
      exact absurd hmem List.not_mem_nil
    · exact absurd hpassage nofun

lemma routingCall_result (request : Request) (hreq : request ≠ .enable) (hs : s.receiver ≠ .session) :
    ((CardEmulation.routingCall request : Op σ Bool).run c.alone s).1 =
      ((exchange c Venue.routing request s).verdict.isOk &&
        ((exchange c Venue.routing request s).answer? routingAnswer).any Status.isOk) := by
  have hvalue := (exchange_listens c hears_routing hreq hs).2
  unfold CardEmulation.routingCall
  rw [Op.run_bind, call_alone]
  generalize exchange c Venue.routing request s = x at hvalue ⊢
  cases x.verdict.isOk with
  | false => rfl
  | true =>
    unfold Rendezvous.outcome
    rw [if_pos rfl, hvalue]
    cases x.answer? routingAnswer with
    | some status => rfl
    | none => cases (Venue.routing.view x.ended.host).aborted <;> rfl

/-- An order of a caller is the only one in what it adds to the trace, and it is acknowledged exactly if the
call comes back with success. -/
lemma routingCall_order (handle : NfceeHandle) (powers : PowerRouting TechMask)
    (hs : s.receiver ≠ .session) :
    let made := (CardEmulation.routingCall (.setTechRouting handle powers) : Op σ Bool).run c.alone s
    ∃ order, techOrders (made.2.trace.drop s.trace.length) = [order] ∧
      order.request = .setTechRouting handle powers ∧ order.acknowledged = made.1 := by
  intro made
  let x := exchange c Venue.routing (.setTechRouting handle powers) s
  have hresult : made.1 = (x.verdict.isOk && (x.answer? routingAnswer).any Status.isOk) :=
    routingCall_result (.setTechRouting handle powers) nofun hs
  obtain ⟨new, htrace, hnew⟩ : Adds OfDelivery x.asked x.ended :=
    (follows_adds c).duringCall (fun _ _ => adds_of_trace_eq rfl) Venue.routing _ s
  have hmade : made.2.trace = x.ended.trace := by
    change ((CardEmulation.routingCall (.setTechRouting handle powers) : Op σ Bool).run c.alone s).2.trace = _
    unfold CardEmulation.routingCall
    rw [Op.run_bind, call_alone]
    dsimp only
    split <;> rfl
  have hsince : made.2.trace.drop s.trace.length =
      ⟨.request .caller (.setTechRouting handle powers) x.verdict, s.host.flags⟩ :: new := by
    refine trace_since ?_
    rw [hmade, htrace]
    exact List.append_assoc s.trace [_] new
  have hevents : x.events = eventsOf new := by
    unfold Exchange.events
    rw [trace_since htrace]
  have hbefore : beforeNext byCaller new = new := by
    refine List.takeWhile_eq_self_iff.mpr fun entry hentry => ?_
    rw [not_byCaller (hnew entry hentry)]
    rfl
  refine ⟨⟨handle, powers, x.verdict, x.answer? routingAnswer⟩, ?_, rfl, hresult.symm⟩
  rw [hsince]
  unfold techOrders order? Exchange.answer?
  rw [no_techOrders (callerRequests_delivery hnew), hbefore, hevents]
  rfl

end Orders

section Routes

/-- The host asks to be routed to in a technology exactly if it listens to it and it does not count as routed
off the host. -/
lemma setHostRouting_routes {tech : TechMask} (htech : tech ∈ CardEmulation.hostTechs) (s : System σ) :
    let t := ((CardEmulation.setHostRouting true : Op σ Unit).run c.alone s).2
    (∃ powers, .setTechRouting .host powers ∈ callerRequests (t.trace.drop s.trace.length) ∧
        Routes powers tech) ↔
      s.host.config.routing.hostListenTech.contains tech = true ∧
        s.host.router.offHostTech.contains tech = false := by
  intro t
  rw [(setHostRouting_posed true s).asks.made]
  constructor
  · rintro ⟨powers, hmem, hroutes⟩
    obtain ⟨other, hother, hlistens, hfree, hrequest⟩ := mem_hostRequests hmem rfl
    obtain ⟨-, rfl⟩ := Request.setTechRouting.inj hrequest
    obtain ⟨-, -, hleast⟩ := hostTech_bit hother
    have hsome := hostTech_some htech
    obtain rfl := hleast tech ((host_allOrNone _ _).contains hroutes hsome) hsome
    exact ⟨hlistens, hfree⟩
  · rintro ⟨hlistens, hfree⟩
    refine ⟨PowerRouting.host tech s.host.router.secure, ?_, routes_switchOn ?_⟩
    · refine List.mem_append_right _ (List.mem_map.mpr ⟨tech, List.mem_filter.mpr ⟨htech, ?_⟩, rfl⟩)
      rw [hlistens, hfree]
      rfl
    · cases s.host.router.secure with
      | true => exact (contains_iff tech tech).mpr fun _ => id
      | false => exact (contains_iff tech tech).mpr fun _ => id

/-- Every call that orders technologies leaves one order in the trace, which is acknowledged exactly if the call
comes back with success. After an accepted registration a technology counts as routed off the host exactly if
it was ordered there, whatever became of the orders. It counts without having been acknowledged exactly if it
was ordered and no order for it was acknowledged. Until the next accepted registration, whoever acts, the host
asks to be routed to in it only if it was not ordered off the host, so where the orders failed it is routed
nowhere. -/
theorem off_host_goes_by_orders (c : Controller σ) (s : System σ) (ha : (registering c s).accepted)
    (others : List (Companion σ)) (taken : List Resource) (deeds : List Deed) :
    let t := ((CardEmulation.bringUp : Op σ Bool).run c.alone s).2
    let orders := techOrders (t.trace.drop s.trace.length)
    let u := ((Deed.runAll deeds).run { company c others with taken } t).2
    let enabled := ((CardEmulation.setHostRouting true : Op σ Unit).run c.alone u).2
    (∀ handle powers (v : System σ), v.receiver ≠ .session →
      let made := (CardEmulation.routingCall (.setTechRouting handle powers) : Op σ Bool).run c.alone v
      ∃ order, techOrders (made.2.trace.drop v.trace.length) = [order] ∧
        order.request = .setTechRouting handle powers ∧ order.acknowledged = made.1) ∧
    ∀ tech ∈ CardEmulation.hostTechs,
      (t.host.router.offHostTech.contains tech = true ↔ ∃ order ∈ orders, order.Carries tech) ∧
      ((t.host.router.offHostTech.contains tech = true ∧
          ¬∃ order ∈ orders, order.Carries tech ∧ order.acknowledged = true) ↔
        (∃ order ∈ orders, order.Carries tech) ∧
          ∀ order ∈ orders, order.Carries tech → order.acknowledged = false) ∧
      ((u.trace.drop t.trace.length).any registers = false →
        ((∃ powers, .setTechRouting .host powers ∈ callerRequests (enabled.trace.drop u.trace.length) ∧
            Routes powers tech) ↔
          u.host.config.routing.hostListenTech.contains tech = true ∧
            ∀ order ∈ orders, ¬order.Carries tech)) := by
  intro t orders u enabled
  refine ⟨fun handle powers v hv => routingCall_order handle powers hv, fun tech htech => ?_⟩
  have hcounts : t.host.router.offHostTech.contains tech = true ↔ ∃ order ∈ orders, order.Carries tech :=
    (((bringUp_parts ha).2 tech htech).1).trans mem_techOrders.symm
  refine ⟨hcounts, and_congr hcounts ?_, fun hsince => ?_⟩
  · simp
  · have hstays : u.host.router.offHostTech = t.host.router.offHostTech := by
      obtain ⟨new, htrace, hkeeps⟩ := company_keepsOff c others taken deeds t
      rw [trace_since htrace] at hsince
      exact (hkeeps rfl).2 hsince
    refine (setHostRouting_routes htech u).trans ?_
    rw [hstays, ← Bool.not_eq_true, hcounts]
    simp

/-- A controller whose element offers its technologies, and that refuses to route them to it. -/
def refusing : Script := { willing with standing := [(.setTechRouting, .rejected)] }

/-- The order for NFC-A is refused. It counts as routed off the host all the same, and when host routing is
enabled the host does not ask for it, although it listens to it. -/
theorem refused_order_counts :
    let s := emulating refusing
    let t := ((CardEmulation.bringUp : Op Script Bool).run Script.controller.alone s).2
    let enabled := ((CardEmulation.setHostRouting true : Op Script Unit).run Script.controller.alone t).2
    (registering Script.controller s).accepted ∧
      t.host.config.routing.hostListenTech.contains TechMask.a = true ∧
      t.host.router.offHostTech.contains TechMask.a = true ∧
      (∀ order ∈ techOrders (t.trace.drop s.trace.length), order.acknowledged = false) ∧
      ¬∃ powers, .setTechRouting .host powers ∈ callerRequests (enabled.trace.drop t.trace.length) ∧
        Routes powers TechMask.a := by
  intro s t enabled
  have hsince (t : System Script) : (t.trace.drop t.trace.length).any registers = false := by
    rw [List.drop_length]
    rfl
  have hkeeps (s t enabled : System Script) (hs : (registering Script.controller s).accepted)
      (ht : ((CardEmulation.bringUp : Op Script Bool).run Script.controller.alone s).2 = t)
      (he : ((CardEmulation.setHostRouting true : Op Script Unit).run Script.controller.alone t).2 = enabled)
      (hrouted : t.host.router.offHostTech.contains TechMask.a = true) :
      ¬∃ powers, .setTechRouting .host powers ∈ callerRequests (enabled.trace.drop t.trace.length) ∧
        Routes powers TechMask.a := by
    subst ht he
    obtain ⟨-, hroutes⟩ := off_host_goes_by_orders Script.controller s hs [] [] []
    obtain ⟨hcounts, -, hhost⟩ := hroutes TechMask.a List.mem_cons_self
    intro hhosted
    obtain ⟨-, hnone⟩ := (hhost (hsince _)).mp hhosted
    obtain ⟨order, hmem, hcarries⟩ := hcounts.mp hrouted
    exact hnone order hmem hcarries
  have haccepted : (registering Script.controller s).verdict.isOk = true := by decide +kernel
  have hlistens : t.host.config.routing.hostListenTech.contains TechMask.a = true := by decide +kernel
  have hrouted : t.host.router.offHostTech.contains TechMask.a = true := by decide +kernel
  have hfailed : ∀ order ∈ techOrders (t.trace.drop s.trace.length), order.acknowledged = false := by
    decide +kernel
  exact ⟨haccepted, hlistens, hrouted, hfailed, hkeeps s t enabled haccepted rfl rfl hrouted⟩

/-- Not every technology that counts as routed off the host was acknowledged to be. -/
theorem counted_without_acknowledgement :
    ¬∀ (c : Controller Script) (s : System Script), (registering c s).accepted →
      let t := ((CardEmulation.bringUp : Op Script Bool).run c.alone s).2
      ∀ tech ∈ CardEmulation.hostTechs, t.host.router.offHostTech.contains tech = true →
        ∃ order ∈ techOrders (t.trace.drop s.trace.length),
          order.Carries tech ∧ order.acknowledged = true := by
  intro hall
  have haccepted : (registering Script.controller (emulating refusing)).verdict.isOk = true := by
    decide +kernel
  obtain ⟨order, hmem, -, hacknowledged⟩ :=
    hall Script.controller (emulating refusing) haccepted TechMask.a List.mem_cons_self (by decide +kernel)
  have hnone : ∀ order ∈ techOrders ((((CardEmulation.bringUp : Op Script Bool).run Script.controller.alone
      (emulating refusing)).2.trace.drop (emulating refusing).trace.length)),
        order.acknowledged = false := by decide +kernel
  rw [hnone order hmem] at hacknowledged
  exact absurd hacknowledged nofun

end Routes

end NfcStack.Proofs
