import NfcStack.Proofs.Company
import NfcStack.Proofs.Exchange

/-!
# What becomes of endpoints

An endpoint keeps its number: deliveries and callers only add endpoints behind the others. What becomes
of the endpoint of a number is up to the changes that acts make of it, so a relation that holds along
every such change holds along everything a system does.
-/

namespace NfcStack.Proofs

variable {σ : Type} {c : Controller σ} {P : Act → Prop} {s t u : System σ}

/-- Every endpoint is there afterwards, and what it is then is related to what it was before. -/
def EndpointsBy (R : Nat → Endpoint → Endpoint → Prop) (s t : System σ) : Prop :=
  ∀ number endpoint, s.host.endpoint? number = some endpoint →
    ∃ after, t.host.endpoint? number = some after ∧ R number endpoint after

section Deliveries

/-- Endpoints are only added, and nothing is kept of their slots yet. -/
def Gains (host after : Host) : Prop :=
  ∃ new, after.endpoints = host.endpoints ++ new ∧ ∀ endpoint ∈ new, endpoint.extras = []

variable {host after last : Host}

lemma gains_of_eq (h : after.endpoints = host.endpoints) : Gains host after :=
  ⟨[], by rw [h, List.append_nil], fun _ hmem => absurd hmem List.not_mem_nil⟩

lemma gains_one {endpoint : Endpoint} (h : after.endpoints = host.endpoints ++ [endpoint])
    (hnew : endpoint.extras = []) : Gains host after :=
  ⟨[endpoint], h, List.forall_mem_singleton.mpr hnew⟩

lemma Gains.trans (h₁ : Gains host after) (h₂ : Gains after last) : Gains host last := by
  obtain ⟨first, hfirst, hnone⟩ := h₁
  obtain ⟨rest, hrest, hnone'⟩ := h₂
  refine ⟨first ++ rest, by rw [hrest, hfirst, List.append_assoc], ?_⟩
  exact List.forall_mem_append.mpr ⟨hnone, hnone'⟩

lemma Gains.covers (h : Gains host after) : host.endpoints <+: after.endpoints := by
  obtain ⟨new, hnew, -⟩ := h
  exact ⟨new, hnew.symm⟩

lemma hearActivation_gains (act : Activation) (host : Host) :
    Gains host (hearActivation act host) := by
  unfold hearActivation
  split
  · exact gains_of_eq rfl
  · dsimp only
    split
    · exact gains_of_eq rfl
    · split
      · exact gains_of_eq rfl
      · unfold keepEndpoint
        split
        · exact gains_one rfl rfl
        · exact gains_of_eq rfl

lemma hear_gains (event : Event) (host : Host) : Gains host (hear event host) := by
  cases event with
  | activated act => exact hearActivation_gains act host
  | discovered status notice =>
    obtain ⟨session, hshape⟩ := discovered_shape status notice host
    exact gains_of_eq (by rw [hshape])
  | deactivated sleep => cases sleep <;> exact gains_of_eq rfl
  | _ => exact gains_of_eq rfl

lemma hearAs_gains (receiver : Receiver) (event : Event) (host : Host) :
    Gains host (hearAs receiver event host) := by
  cases receiver with
  | nobody => exact gains_of_eq rfl
  | host => exact hear_gains event host
  | session =>
    cases event with
    | discovered status notice => exact hear_gains (.discovered status notice) host
    | _ => exact gains_of_eq rfl

lemma deliver_gains (c : Controller σ) (happening : Happening) (s : System σ) :
    Gains s.host (c.deliver happening s).host := by
  cases happening with
  | abortAll => exact gains_of_eq rfl
  | abortSession => exact gains_of_eq rfl
  | event event =>
    by_cases hn : s.receiver = .nobody
    · exact gains_of_eq (by rw [deliver_nobody c hn])
    · rw [(deliver_reacts c hn event).host]
      exact hearAs_gains s.receiver event s.host

lemma follows_gains (c : Controller σ) : FollowsDeliveries c fun s t => Gains s.host t.host where
  refl _ := gains_of_eq rfl
  trans := Gains.trans
  queue _ _ := gains_of_eq rfl
  deliver s happening _ := deliver_gains c happening s

lemma release_gains (c : Controller σ) (s : System σ) : Gains s.host (c.release s).host :=
  (follows_gains c).release (fun _ _ _ => gains_of_eq rfl) s

end Deliveries

section Acts

variable {R : Nat → Endpoint → Endpoint → Prop}

lemma endpointsBy_of_prefix (hrefl : ∀ number endpoint, R number endpoint endpoint)
    (h : s.host.endpoints <+: t.host.endpoints) : EndpointsBy R s t := by
  intro number endpoint hfound
  refine ⟨endpoint, ?_, hrefl number endpoint⟩
  obtain ⟨more, hmore⟩ := h
  change t.host.endpoints[number]? = some endpoint
  obtain ⟨hlt, -⟩ := List.getElem?_eq_some_iff.mp hfound
  rw [← hmore, List.getElem?_append_left hlt]
  exact hfound

lemma EndpointsBy.trans
    (htrans : ∀ {number first next last}, R number first next → R number next last →
      R number first last)
    (h₁ : EndpointsBy R s t) (h₂ : EndpointsBy R t u) : EndpointsBy R s u := by
  intro number endpoint hfound
  obtain ⟨next, hnext, hfirst⟩ := h₁ number endpoint hfound
  obtain ⟨last, hlast, hthen⟩ := h₂ number next hnext
  exact ⟨last, hlast, htrans hfirst hthen⟩

lemma mapEndpoint_endpoint (number other : Nat) (f : Endpoint → Endpoint) (host : Host) :
    (host.mapEndpoint number f).endpoint? other =
      (host.endpoint? other).map fun endpoint => if number = other then f endpoint else endpoint :=
  List.getElem?_modify f number host.endpoints other

lemma OnlyWaits.endpoints {f : Host → Host} (h : OnlyWaits f) (host : Host) :
    (f host).endpoints = host.endpoints := by
  change (unarmed (f host)).endpoints = (unarmed host).endpoints
  rw [h]

lemma welcomed_gains (act : Activation) (host : Host) : Gains host (welcomed act host) := by
  unfold welcomed
  split
  · exact gains_of_eq rfl
  · exact gains_one rfl rfl

/-- A relation that holds along the changes that acts make of endpoints holds along all they do. -/
theorem Evolves.endpoints (hrefl : ∀ number endpoint, R number endpoint endpoint)
    (htrans : ∀ {number first next last}, R number first next → R number next last →
      R number first last)
    (hchange : ∀ number f, P (.change (.endpoint number f)) →
      ∀ endpoint, R number endpoint (f endpoint))
    (h : Evolves c P s t) : EndpointsBy R s t := by
  have hkept {s t : System σ} (h : Gains s.host t.host) : EndpointsBy R s t :=
    endpointsBy_of_prefix hrefl h.covers
  have hsame {s t : System σ} (h : t.host.endpoints = s.host.endpoints) : EndpointsBy R s t :=
    hkept (gains_of_eq h)
  have hsteps : FollowsSteps c P (EndpointsBy R) :=
    { refl := fun _ => hsame rfl
      trans := fun h₁ h₂ => h₁.trans htrans h₂
      queue := fun _ _ => hsame rfl
      deliver := fun s happening _ => hkept (deliver_gains c happening s)
      request := fun _ _ _ _ => hsame rfl
      query := fun _ => hsame rfl
      inUse := fun _ _ => hsame rfl
      heldUp := fun _ => hsame rfl
      late := fun _ _ _ => hsame rfl
      selects := fun _ _ _ => hsame rfl
      change := fun change s hp => by
        cases change with
        | endpoint number f =>
          intro other endpoint hfound
          have hafter := mapEndpoint_endpoint number other f s.host
          rw [hfound, Option.map_some] at hafter
          refine ⟨_, hafter, ?_⟩
          by_cases hsame : number = other
          · rw [if_pos hsame, ← hsame]
            exact hchange number f hp endpoint
          · rw [if_neg hsame]
            exact hrefl other endpoint
        | waits f hf => exact hsame (hf.endpoints s.host)
        | welcome act => exact hkept (welcomed_gains act s.host)
        | _ => exact hsame rfl }
  exact hsteps.evolves h

/-- Taking a resource and giving it back leaves endpoints alone. -/
lemma reserving_endpoints {α : Type} {resource : Resource} {op : Op σ α}
    (h : ∀ s, EndpointsBy R s (op.run c.alone s).2) (s : System σ) :
    EndpointsBy R s ((Op.reserving resource op).run c.alone s).2 := by
  rw [reserving_alone]
  split
  · exact h s
  · intro number endpoint hfound
    obtain ⟨after, hafter, hrelated⟩ := h (s.mapHost (takeResource resource)) number endpoint hfound
    have hreleased := release_gains c
      ((op.run c.alone (s.mapHost (takeResource resource))).2.mapHost (giveBack s.host.inUse))
    have hkept : EndpointsBy (fun _ before after => after = before) _ _ :=
      endpointsBy_of_prefix (fun _ _ => rfl) hreleased.covers
    obtain ⟨last, hlast, rfl⟩ := hkept number after hafter
    exact ⟨last, hlast, hrelated⟩

/-- Acts that leave every endpoint as it is. -/
def SparesEndpoints : Act → Prop
  | .change (.endpoint _ _) => False
  | _ => True

lemma tagWork_sparesEndpoints : ∀ act, TagWork act → SparesEndpoints act := by
  rintro (request | event | change) h
  · trivial
  · trivial
  · cases change with
    | endpoint number f => exact h
    | _ => trivial

lemma sparesTag_sparesEndpoints : ∀ act, SparesTag act → SparesEndpoints act := by
  rintro (request | event | change) h
  · trivial
  · trivial
  · cases change with
    | endpoint number f => exact h
    | _ => trivial

/-- Where no act concerns endpoints, each is what it was. -/
theorem Evolves.same_endpoint (h : Evolves c SparesEndpoints s t) {number : Nat}
    {endpoint : Endpoint} (hfound : s.host.endpoint? number = some endpoint) :
    t.host.endpoint? number = some endpoint := by
  have hall : EndpointsBy (fun _ before after => after = before) s t :=
    h.endpoints (fun _ _ => rfl) (fun h₁ h₂ => h₂.trans h₁) fun _ _ hp => hp.elim
  obtain ⟨after, hafter, rfl⟩ := hall number endpoint hfound
  exact hafter

end Acts

end NfcStack.Proofs
