import NfcStack.Bench.Script
import NfcStack.Proofs.Company

/-!
# Routes in secure mode

Once secure mode is on, and until somebody switches it off, every route that is asked for is restricted:
an identifier is routed for the device that is switched on and unlocked, and a technology or a protocol is
routed in no other power state than switch-on. It makes no difference which operation sets the route, to
whom it leads, and who acts.
-/

namespace NfcStack.Proofs

variable {σ : Type}

section Routes

/-- Nothing is routed but in the state of a device that is switched on. -/
structure OnlySwitchedOn {Mask : Type} [EmptyCollection Mask] (powers : PowerRouting Mask) : Prop where
  switchOff : powers.switchOff = ∅
  batteryOff : powers.batteryOff = ∅
  screenLock : powers.screenLock = ∅
  screenOff : powers.screenOff = ∅
  screenOffLock : powers.screenOffLock = ∅

lemma offHost_secure {Mask : Type} [EmptyCollection Mask] (mask : Mask) :
    OnlySwitchedOn (PowerRouting.offHost mask true) := ⟨rfl, rfl, rfl, rfl, rfl⟩

lemma host_secure {Mask : Type} [EmptyCollection Mask] (mask : Mask) :
    OnlySwitchedOn (PowerRouting.host mask true) := ⟨rfl, rfl, rfl, rfl, rfl⟩

/-- Requests that set no route, or a restricted one. -/
def RestrictsRoute : Request → Prop
  | .addAid route => route.powerState = 0x01
  | .setTechRouting _ powers => OnlySwitchedOn powers
  | .setProtocolRouting _ powers => OnlySwitchedOn powers
  | _ => True

/-- An entry that sets no route, or a restricted one. -/
def Restricted (entry : Entry) : Prop :=
  ∀ origin request verdict, entry.passage = .request origin request verdict → RestrictsRoute request

/-- Acts that set no other routes and do not switch secure mode off. -/
def KeepsSecure : Act → Prop
  | .request request => RestrictsRoute request
  | .change (.secure on) => on = true
  | _ => True

lemma keepsSecure_plain : ∀ act, ¬Particular act → KeepsSecure act := by
  intro act hplain
  cases act with
  | request request =>
    cases request with
    | addAid route => exact absurd trivial hplain
    | setTechRouting handle powers => exact absurd trivial hplain
    | setProtocolRouting handle powers => exact absurd trivial hplain
    | _ => trivial
  | report event => trivial
  | change change =>
    cases change with
    | secure on => exact absurd trivial hplain
    | _ => trivial

lemma keepsSecure_tagWork : ∀ act, TagWork act → KeepsSecure act := by
  intro act hwork
  cases act with
  | request request =>
    cases request with
    | addAid route => exact hwork.elim
    | setTechRouting handle powers => exact hwork.elim
    | setProtocolRouting handle powers => exact hwork.elim
    | _ => trivial
  | report event => trivial
  | change change =>
    cases change with
    | secure on => exact hwork.elim
    | _ => trivial

lemma restricted_delivery {entry : Entry} (h : OfDelivery entry) : Restricted entry := by
  rintro origin request verdict hpassage
  rcases h with ⟨event, hevent⟩ | hreaction
  · rw [hevent] at hpassage
    exact absurd hpassage nofun
  · unfold OfReaction at hreaction
    rw [hpassage] at hreaction
    cases origin with
    | caller => exact hreaction.elim
    | reaction =>
      cases request with
      | addAid route => exact hreaction.elim
      | setTechRouting handle powers => exact hreaction.elim
      | setProtocolRouting handle powers => exact hreaction.elim
      | _ => trivial

lemma restricted_request {origin : Origin} {request : Request} (h : RestrictsRoute request)
    (verdict : Status) (flags : Flags) : Restricted ⟨.request origin request verdict, flags⟩ := by
  rintro _ _ _ ⟨⟩
  exact h

end Routes

section Runs

variable {c : Controller σ} {s t u : System σ}

lemma secure_of_steady {host other : Host} (h : steady other = steady host) :
    other.router.secure = host.router.secure := by
  change (steady other).router.secure = (steady host).router.secure
  rw [h]

lemma change_secure {change : Change} (h : KeepsSecure (.change change)) {host : Host}
    (hsecure : host.router.secure = true) : (change.apply host).router.secure = true := by
  cases change with
  | secure on => exact h
  | waits f hf =>
    have hsame : (unarmed (f host)).router.secure = (unarmed host).router.secure := by rw [hf]
    exact hsame.trans hsecure
  | welcome act =>
    change (welcomed act host).router.secure = true
    unfold welcomed
    split
    · exact hsecure
    · exact hsecure
  | _ => exact hsecure

/-- Secure mode stays on, and all routes that are set are restricted. -/
def StaysSecure (s t : System σ) : Prop :=
  s.host.router.secure = true → t.host.router.secure = true ∧ Adds Restricted s t

lemma StaysSecure.trans (h₁ : StaysSecure s t) (h₂ : StaysSecure t u) : StaysSecure s u := by
  intro hs
  obtain ⟨ht, hfirst⟩ := h₁ hs
  obtain ⟨hu, hrest⟩ := h₂ ht
  exact ⟨hu, hfirst.trans hrest⟩

lemma Evolves.staysSecure (h : Evolves c KeepsSecure s t) : StaysSecure s t := by
  have hsteps : FollowsSteps c KeepsSecure fun s t =>
      s.host.router.secure = true → t.host.router.secure = true :=
    { refl := fun _ => id
      trans := fun h₁ h₂ hs => h₂ (h₁ hs)
      queue := fun _ _ => id
      deliver := fun s happening _ hs => (secure_of_steady (deliver_steady c happening s)).trans hs
      request := fun _ _ _ _ => id
      query := fun _ => id
      change := fun _ _ hp => change_secure hp
      inUse := fun _ _ => id
      heldUp := fun _ => id
      late := fun _ _ _ => id
      selects := fun _ _ _ => id }
  have hquery : RestrictsRoute .queryNfcees := trivial
  intro hs
  refine ⟨hsteps.evolves h hs, ?_⟩
  exact h.adds (fun _ => restricted_delivery) (fun _ _ _ hp _ => restricted_request hp _ _)
    fun _ _ => restricted_request hquery _ _

lemma staysSecure_occupy (resource : Resource)
    (h : StaysSecure (s.mapHost (takeResource resource)) t) :
    StaysSecure s (c.release (t.mapHost (giveBack s.host.inUse))) := by
  intro hs
  obtain ⟨ht, hadds⟩ := h hs
  refine ⟨(secure_of_steady (release_steady c _)).trans ht, ?_⟩
  have hback : Adds Restricted s (t.mapHost (giveBack s.host.inUse)) := hadds
  exact hback.trans ((release_adds c _).mono fun _ => restricted_delivery)

/-- What holds of routes where secure mode is on holds in any mode along what stays secure. -/
lemma staysSecure_routing {env : Environment σ} (hR : Composes KeepsSecure env StaysSecure) :
    FollowsRouting StaysSecure env := by
  have hm (act : Act) (_ : SparesMode act) : ¬Particular act → KeepsSecure act := keepsSecure_plain act
  -- Without secure mode nothing is said of the routes.
  have honly {α : Type} {op : Op σ α}
      (h : ∀ s : System σ, s.host.router.secure = true → StaysSecure s (op.run env s).2) :
      Along StaysSecure env op := fun s hs => h s hs hs
  have hadd (aid : Aid) (route : UInt8) (info : AidInfo) :
      Along StaysSecure env (CardEmulation.addAid aid route info : Op σ Bool) := by
    refine honly fun s hs => addAid_along hR hm aid route info s ?_
    change CardEmulation.powerState s.host route = 0x01
    unfold CardEmulation.powerState
    rw [if_pos hs]
    rfl
  have htech : Along StaysSecure env (CardEmulation.routeTechOffHost : Op σ TechMask) := by
    refine honly fun s hs => routeTechOffHost_along hR hm s fun handle offered => ?_
    rw [hs]
    exact offHost_secure offered
  have hiso : Along StaysSecure env (CardEmulation.routeIsoDep : Op σ Unit) := by
    refine honly fun s hs => routeIsoDep_along hR hm s (fun handle => ?_) fun handle => ?_
    · rw [hs]
      exact offHost_secure ProtocolMask.isoDep
    · rw [hs]
      exact host_secure ProtocolMask.isoDep
  refine ⟨hadd, cards_bringUp_along hR hm hadd htech hiso fun _ => trivial, fun enable => ?_⟩
  refine honly fun s hs => setHostRouting_along hR hm enable s (fun tech _ _ => ?_) ?_
  · rw [hs]
    exact host_secure tech
  · rw [hs]
    exact host_secure ProtocolMask.isoDep

/-- However a run goes, secure mode stays on and all routes that are set are restricted. -/
lemma follows_secure (c : Controller σ) : FollowsRuns c KeepsSecure StaysSecure where
  plain := keepsSecure_plain
  evolves h := h.staysSecure
  trans := .trans
  occupy resource h := staysSecure_occupy resource h
  selection _ hR := (tagWork_follows keepsSecure_tagWork hR).1
  content _ hR := (tagWork_follows keepsSecure_tagWork hR).2
  routing _ hR := staysSecure_routing hR
  endpoints _ hR :=
    have ⟨hs, hc⟩ := tagWork_follows keepsSecure_tagWork hR
    followsEndpoints hR hs hc (fun act _ => keepsSecure_plain act) fun _ _ => trivial

/-- The call that switches secure mode on or off. -/
def switches (secure : Bool) : Deed := .move (.call (.host (.setSecure secure)))

/-- A deed that is not the call to switch secure mode off does nothing of that kind. -/
lemma deed_keepsSecure {deed : Deed} (h : deed ≠ switches false) : deed.Within KeepsSecure := by
  intro act hact
  cases deed with
  | watch number loop turns => exact absurd hact nofun
  | move next =>
    cases next with
    | event event => exact Option.some.inj hact ▸ trivial
    | call call =>
      cases call with
      | session call => exact absurd hact nofun
      | endpoint number call => exact absurd hact nofun
      | host call =>
        cases call with
        | sendFrame frame => exact Option.some.inj hact ▸ trivial
        | setSecure secure =>
          obtain rfl := Option.some.inj hact
          cases secure with
          | true => rfl
          | false => exact absurd rfl h
        | _ => exact absurd hact nofun

/-- A caller that does not switch secure mode off. -/
structure Companion.LeavesSecure (companion : Companion σ) : Prop where
  meanwhile : ∀ request s, switches false ∉ companion.meanwhile request s
  afterwards : ∀ s, switches false ∉ companion.afterwards s

lemma Companion.LeavesSecure.within {companion : Companion σ} (h : companion.LeavesSecure) :
    companion.Within KeepsSecure where
  meanwhile request s _ hdeed := deed_keepsSecure fun heq => h.meanwhile request s (heq ▸ hdeed)
  afterwards s _ hdeed := deed_keepsSecure fun heq => h.afterwards s (heq ▸ hdeed)
  meantime s _ hdeed := by
    obtain ⟨event, -, rfl⟩ := List.mem_map.mp hdeed
    exact deed_keepsSecure nofun

lemma switched_secure (env : Environment σ) (s : System σ) :
    ((switches true).run.run env s).2.host.router.secure = true := by
  let on := s.mapHost (Change.secure true).apply
  have hattended : steady (env.controller.attend on).host = steady on.host :=
    (follows_steady env.controller).attend on
  exact secure_of_steady hattended

/-- The call that switches secure mode on leaves it on. From any system in which it is on, and as long as
nobody switches it off, every route that is set is restricted: every identifier is routed for the device that
is switched on and unlocked, and every technology and every protocol in no other power state than switch-on.
So it is whatever is done, whatever the controller answers, and whoever else acts or holds anything. -/
theorem secure_routes_restricted (c : Controller σ) (others : List (Companion σ)) (taken : List Resource)
    (after : List Deed) (hothers : ∀ companion ∈ others, companion.LeavesSecure)
    (hafter : switches false ∉ after) :
    (∀ (env : Environment σ) (s : System σ),
      ((switches true).run.run env s).2.host.router.secure = true) ∧
    ∀ s : System σ, s.host.router.secure = true →
      let t := ((Deed.runAll after).run { company c others with taken } s).2
      t.host.router.secure = true ∧ s.trace <+: t.trace ∧
        ∀ entry ∈ t.trace.drop s.trace.length, ∀ origin request verdict,
          entry.passage = .request origin request verdict →
            (∀ route, request = .addAid route → route.powerState = 0x01) ∧
            (∀ handle powers, request = .setTechRouting handle powers → OnlySwitchedOn powers) ∧
            (∀ handle powers, request = .setProtocolRouting handle powers → OnlySwitchedOn powers) := by
  refine ⟨switched_secure, fun s hsecure => ?_⟩
  have hfollows : FollowsRuns c KeepsSecure StaysSecure := follows_secure c
  have hR : Composes KeepsSecure (company c others) StaysSecure :=
    hfollows.company others fun companion hmem => (hothers companion hmem).within
  have hc : ({ company c others with taken } : Environment σ).controller = c := company_controller c others
  have hdeeds : ∀ deed ∈ after, deed.Within KeepsSecure :=
    fun _ hdeed => deed_keepsSecure fun heq => hafter (heq ▸ hdeed)
  have hheld : Composes KeepsSecure { company c others with taken } StaysSecure :=
    hfollows.composes hc hR.meantime hR.radio hR.interlude hR.goOn
  obtain ⟨hstays, new, htrace, hnew⟩ := hfollows.runAll hc hheld after hdeeds s hsecure
  refine ⟨hstays, ⟨new, htrace.symm⟩, fun entry hentry origin request verdict hpassage => ?_⟩
  rw [trace_since htrace] at hentry
  have hrestricts : RestrictsRoute request := hnew entry hentry origin request verdict hpassage
  refine ⟨fun route heq => ?_, fun handle powers heq => ?_, fun handle powers heq => ?_⟩
  · rw [heq] at hrestricts
    exact hrestricts
  · rw [heq] at hrestricts
    exact hrestricts
  · rw [heq] at hrestricts
    exact hrestricts

/-- A stack in secure mode, with a secure element that offers NFC-B and is the default route. -/
def securedStack : System Script :=
  ran Script.controller []
    { routing := { offHostRoute := 0x81, isoDepRoute := 0x00, defaultRoute := 0x81 } }
    { nfcees := .ok [{ handle := .ofId 0x81, status := 0x00, interfaces := [] }]
      announced := [{ handle := .ofId 0x81, protocolA := 0x00, protocolB := 0x01 }] }
    [switches true]

/-- Routes are set by hand, in bringing the stack up twice, and in enabling discovery. -/
def settingRoutes : List Deed :=
  [.move (.call (.host .bringUp)), .move (.call (.host (.enableDiscovery none false true false))),
    .move (.call (.host (.addAid [0xa0, 0x00, 0x00, 0x00, 0x01] 0x81 AidInfo.leading))),
    .move (.call (.host .takeDown)), .move (.call (.host .bringUp))]

/-- Three identifiers, three technologies and three protocols are routed, all of them restricted. -/
theorem secured_stack_restricts :
    let t := ((Deed.runAll settingRoutes).run Script.controller.alone securedStack).2
    let since := t.trace.drop securedStack.trace.length
    securedStack.host.router.secure = true ∧
      (System.requestsOf since).filterMap (fun request => match request with
        | .addAid route => some route.powerState
        | _ => none) = [0x01, 0x01, 0x01] ∧
      (System.requestsOf since).filterMap (fun request => match request with
        | .setTechRouting handle _ => some handle
        | .setProtocolRouting handle _ => some handle
        | _ => none) = [.ofId 0x81, .ofId 0x81, .host, .host, .ofId 0x81, .ofId 0x81] ∧
      ∀ entry ∈ since, ∀ origin handle powers verdict,
        entry.passage = .request origin (.setTechRouting handle powers) verdict → OnlySwitchedOn powers := by
  intro t since
  have hafter : switches false ∉ settingRoutes := by simp [settingRoutes, switches]
  have hrestricted := (secure_routes_restricted Script.controller [] [] settingRoutes (fun _ => nofun) hafter).2
    securedStack rfl
  refine ⟨rfl, by decide +kernel, by decide +kernel,
    fun entry hentry origin handle powers verdict hpassage => ?_⟩
  exact (hrestricted.2.2 entry hentry origin _ verdict hpassage).2.1 handle powers rfl

end Runs

end NfcStack.Proofs
