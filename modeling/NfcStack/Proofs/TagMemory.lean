import NfcStack.Proofs.Exchange
import NfcStack.Proofs.LateNotices

/-!
# What the session remembers of a tag

Events of the controller tell of tags in two ways: a tag left the field, or one was announced. What the
session remembers is forgotten by the first and grows by the second. Whatever spares the tag otherwise
leaves it alone, and taking the stack down and up again does.
-/

namespace NfcStack.Proofs

variable {σ : Type}

/-- What a session remembers of the tag in the field. -/
structure TagMemory where
  connection : Option Connection := none
  slots : List Slot := []
  notices : List DiscoveryNotice := []
  protocol : UInt8 := Protocol.unknown
  signatures : Signatures := {}
  topazCapacity : UInt32 := 0
  lastCheck : Option NdefCheck := none
  deriving DecidableEq

def memoryOf (session : Session) : TagMemory :=
  { connection := session.connection
    slots := session.slots
    notices := session.notices
    protocol := session.protocol
    signatures := session.signatures
    topazCapacity := session.topazCapacity
    lastCheck := session.lastCheck }

lemma memoryOf_fresh (timeouts : TagTimeouts) : memoryOf (Session.fresh timeouts) = {} := rfl

section News

/-- What an event tells of tags. -/
inductive TagNews where
  /-- The tag left the field. -/
  | gone
  /-- A tag was announced. -/
  | seen
  deriving DecidableEq

def tagNews : Event → Option TagNews
  | .deactivated false => some .gone
  | .activated act => if isForeign act then none else some .seen
  | .discovered status _ => if status.isOk then some .seen else none
  | _ => none

def newsOf (events : List Event) : List TagNews := events.filterMap tagNews

lemma receive_memory (session : Session) (event : Event) :
    memoryOf (session.receive event) = memoryOf session := by
  cases event with
  | data status bytes => cases status <;> rfl
  | _ => rfl

/-- An event that tells nothing of tags leaves the memory alone. -/
lemma hear_memory {event : Event} (h : tagNews event = none) (host : Host) :
    memoryOf (hear event host).session = memoryOf host.session := by
  cases event with
  | discovered status notice =>
    have hstatus : ¬status.isOk = true := by
      intro hok
      simp [tagNews, hok] at h
    have hsame : hear (.discovered status notice) host = host := if_neg hstatus
    rw [hsame]
  | activated act =>
    have hforeign : isForeign act = true := by
      by_cases hforeign : isForeign act = true
      · exact hforeign
      · simp [tagNews, hforeign] at h
    have hsame : hearActivation act host = host := by
      unfold hearActivation
      rw [hforeign, Bool.or_true, if_pos rfl]
    change memoryOf (hearActivation act host).session = _
    rw [hsame]
  | deactivated sleep =>
    cases sleep with
    | false => exact absurd h nofun
    | true => rfl
  | data status bytes => exact receive_memory host.session (.data status bytes)
  | _ => rfl

/-- Slots are added behind those that are there, and the last check stays. -/
def Extends (session session' : Session) : Prop :=
  session.slots <+: session'.slots ∧ session'.lastCheck = session.lastCheck

lemma extends_of_eq {session session' : Session} (h : memoryOf session' = memoryOf session) :
    Extends session session' := by
  have hslots : session'.slots = session.slots := congrArg TagMemory.slots h
  have hcheck : session'.lastCheck = session.lastCheck := congrArg TagMemory.lastCheck h
  exact ⟨hslots.symm ▸ List.prefix_refl session.slots, hcheck⟩

lemma Extends.trans {session session' session'' : Session} (h₁ : Extends session session')
    (h₂ : Extends session' session'') : Extends session session'' :=
  ⟨h₁.1.trans h₂.1, h₂.2.trans h₁.2⟩

lemma admit_extends {session session' : Session} {act : Activation}
    (h : session.admit? act = some session') : Extends session session' := by
  unfold Session.admit? at h
  split at h
  · exact absurd h nofun
  · obtain rfl := Option.some.inj h
    exact ⟨List.prefix_append _ _, rfl⟩

lemma hearActivation_extends (act : Activation) (host : Host) :
    Extends host.session (hearActivation act host).session :=
  hearActivation_session act host (extends_of_eq rfl) (extends_of_eq rfl) fun _ h => admit_extends h

lemma hearNotice_extends (notice : DiscoveryNotice) (host : Host) :
    Extends host.session (hearNotice notice host).session := by
  have hcollect : Extends host.session (host.session.collect notice).2 := by
    obtain ⟨notices, hcollected⟩ := collect_shape host.session notice
    rw [hcollected]
    exact ⟨List.prefix_refl _, rfl⟩
  unfold hearNotice
  dsimp only
  split
  · exact hcollect
  · split
    · exact hcollect
    · exact hcollect.trans ⟨List.prefix_refl _, rfl⟩

/-- Only a tag that left the field takes slots and the last check away. -/
lemma hear_extends {event : Event} (h : tagNews event ≠ some .gone) (host : Host) :
    Extends host.session (hear event host).session := by
  cases hnews : tagNews event with
  | none => exact extends_of_eq (hear_memory hnews host)
  | some news =>
    cases event with
    | activated act => exact hearActivation_extends act host
    | discovered status notice =>
      change Extends _ (Host.session (if status.isOk then _ else _))
      split
      · exact hearNotice_extends notice host
      · exact extends_of_eq rfl
    | deactivated sleep =>
      cases sleep with
      | false => exact absurd rfl h
      | true => exact absurd hnews nofun
    | _ => exact absurd hnews nofun

lemma hear_gone {event : Event} (h : tagNews event = some .gone) (host : Host) :
    memoryOf (hear event host).session = {} := by
  cases event with
  | deactivated sleep =>
    cases sleep with
    | false => rfl
    | true => exact absurd h nofun
  | activated act => simp [tagNews] at h
  | discovered status notice => simp [tagNews] at h
  | _ => exact absurd h nofun

lemma isDiscovery_of_news {event : Event} (h : tagNews event ≠ some .seen) :
    isDiscovery event = false := by
  cases event with
  | discovered status notice =>
    refine Bool.eq_false_iff.mpr fun hok => h ?_
    exact if_pos hok
  | _ => rfl

end News

section Told

/-- What became of the memory from one system to another, going by the events delivered. -/
structure Told (events : List Event) (s t : System σ) : Prop where
  kept : .gone ∉ newsOf events → Extends s.host.session t.host.session
  same : newsOf events = [] → s.late = none →
    t.late = none ∧ memoryOf t.host.session = memoryOf s.host.session
  gone : (newsOf events).getLast? = some .gone →
    t.late = none ∧ memoryOf t.host.session = {}

variable {c : Controller σ} {P : Act → Prop} {s t u : System σ}

lemma newsOf_append (first rest : List Event) :
    newsOf (first ++ rest) = newsOf first ++ newsOf rest :=
  List.filterMap_append

lemma told_nothing (hkept : Extends s.host.session t.host.session)
    (hsame : s.late = none → t.late = none ∧ memoryOf t.host.session = memoryOf s.host.session) :
    Told [] s t where
  kept _ := hkept
  same _ := hsame
  gone h := absurd h nofun

lemma Told.trans {first rest : List Event} (h₁ : Told first s t) (h₂ : Told rest t u) :
    Told (first ++ rest) s u where
  kept h := by
    rw [newsOf_append, List.mem_append, not_or] at h
    exact (h₁.kept h.1).trans (h₂.kept h.2)
  same h hlate := by
    rw [newsOf_append, List.append_eq_nil_iff] at h
    obtain ⟨hlate₁, hmemory₁⟩ := h₁.same h.1 hlate
    obtain ⟨hlate₂, hmemory₂⟩ := h₂.same h.2 hlate₁
    exact ⟨hlate₂, hmemory₂.trans hmemory₁⟩
  gone h := by
    rw [newsOf_append, List.getLast?_append] at h
    cases hlast : (newsOf rest).getLast? with
    | some news =>
      rw [hlast] at h
      exact h₂.gone (hlast.trans h)
    | none =>
      rw [hlast] at h
      obtain ⟨hlate₁, hmemory₁⟩ := h₁.gone h
      obtain ⟨hlate₂, hmemory₂⟩ := h₂.same (List.getLast?_eq_none_iff.mp hlast) hlate₁
      exact ⟨hlate₂, hmemory₂.trans hmemory₁⟩

lemma told_event {event : Event} (h : Reacts c event s (hear event s.host) t)
    (hlate : s.late = none) : Told [event] s t where
  kept hnews := by
    rw [h.host]
    refine hear_extends (fun hgone => hnews ?_) s.host
    exact List.mem_filterMap.mpr ⟨event, List.mem_singleton_self event, hgone⟩
  same hnews _ := by
    have hnone : tagNews event = none :=
      List.filterMap_eq_nil_iff.mp hnews event (List.mem_singleton_self event)
    have hkept : t.late = s.late := h.late (isDiscovery_of_news (by rw [hnone]; nofun))
    rw [hkept, h.host]
    exact ⟨hlate, hear_memory hnone s.host⟩
  gone hnews := by
    have hgone : tagNews event = some .gone := by
      obtain ⟨found, hfound, hnews⟩ := List.mem_filterMap.mp (List.mem_of_getLast? hnews)
      rw [List.mem_singleton.mp hfound] at hnews
      exact hnews
    have hkept : t.late = s.late := h.late (isDiscovery_of_news (by rw [hgone]; nofun))
    rw [hkept, h.host]
    exact ⟨hlate, hear_gone hgone s.host⟩

/-- The memory of a session in a host goes by the news of tags and by nothing else. -/
def Remembers (s t : System σ) : Prop :=
  s.receiver ≠ .session →
    t.receiver ≠ .session ∧ ∃ new, t.trace = s.trace ++ new ∧ Told (eventsOf new) s t

lemma remembers_quiet (hreceiver : s.receiver ≠ .session → t.receiver ≠ .session)
    (htrace : Adds OfReaction s t) (hkept : Extends s.host.session t.host.session)
    (hsame : s.late = none → t.late = none ∧ memoryOf t.host.session = memoryOf s.host.session) :
    Remembers s t := by
  intro hs
  obtain ⟨new, hnew, hreaction⟩ := htrace
  refine ⟨hreceiver hs, new, hnew, ?_⟩
  rw [eventsOf_reaction hreaction]
  exact told_nothing hkept hsame

lemma remembers_mapHost {f : Host → Host}
    (hf : ∀ host, memoryOf (f host).session = memoryOf host.session) :
    Remembers s (s.mapHost f) :=
  remembers_quiet id (adds_of_trace_eq rfl) (extends_of_eq (hf s.host)) fun h => ⟨h, hf s.host⟩

lemma remembers_refl (s : System σ) : Remembers s s :=
  remembers_quiet id (Adds.refl s) (extends_of_eq rfl) fun hlate => ⟨hlate, rfl⟩

lemma Remembers.trans (h₁ : Remembers s t) (h₂ : Remembers t u) : Remembers s u := by
  intro hs
  obtain ⟨ht, new₁, htrace₁, htold₁⟩ := h₁ hs
  obtain ⟨hu, new₂, htrace₂, htold₂⟩ := h₂ ht
  refine ⟨hu, new₁ ++ new₂, by rw [htrace₂, htrace₁, List.append_assoc], ?_⟩
  rw [eventsOf_append]
  exact htold₁.trans htold₂

lemma deliver_remembers (happening : Happening) (s : System σ) (hlate : s.late = none) :
    Remembers s (c.deliver happening s) := by
  cases happening with
  | abortAll => exact remembers_mapHost fun _ => rfl
  | abortSession => exact remembers_mapHost fun _ => rfl
  | event event =>
    intro hs
    cases hr : s.receiver with
    | session => exact absurd hr hs
    | nobody =>
      rw [deliver_nobody c hr]
      exact remembers_refl s hs
    | host =>
      have hn : s.receiver ≠ .nobody := receives_of_host hr
      obtain ⟨new, htrace, hevents⟩ := deliver_events c hn event
      have htold : Told [event] (s.record (.delivered event)) (c.deliver (.event event) s) :=
        told_event (deliver_host c hr event) hlate
      rw [deliver_receiver]
      refine ⟨hs, new, htrace, ?_⟩
      rw [hevents]
      exact ⟨htold.kept, htold.same, htold.gone⟩

lemma follows_remembers (c : Controller σ) : FollowsDeliveries c Remembers where
  refl := remembers_refl
  trans := Remembers.trans
  queue _ _ := remembers_quiet id (adds_of_trace_eq rfl) (extends_of_eq rfl) fun h => ⟨h, rfl⟩
  deliver s happening hlate := deliver_remembers happening s hlate

lemma OnlyWaits.memory {f : Host → Host} (h : OnlyWaits f) (host : Host) :
    memoryOf (f host).session = memoryOf host.session := by
  change memoryOf (unarmed (f host)).session = memoryOf (unarmed host).session
  rw [h]

lemma change_memory {change : Change} (h : SparesTag (.change change)) (host : Host) :
    memoryOf (change.apply host).session = memoryOf host.session := by
  cases change with
  | waits f hf => exact hf.memory host
  | session change => exact h.elim
  | welcome act => exact h.elim
  | _ => rfl

lemma steps_remembers (c : Controller σ) : FollowsSteps c SparesTag Remembers where
  toFollowsDeliveries := follows_remembers c
  request request s _ _ := fun hs =>
    ⟨issue_not_session .caller request s hs, [_], rfl, told_nothing (extends_of_eq rfl) fun h => ⟨h, rfl⟩⟩
  query s := fun hs => ⟨hs, [_], rfl, told_nothing (extends_of_eq rfl) fun h => ⟨h, rfl⟩⟩
  change _ _ hp := remembers_mapHost (change_memory hp)
  inUse _ _ := remembers_mapHost fun _ => rfl
  heldUp _ := remembers_quiet id (adds_of_trace_eq rfl) (extends_of_eq rfl) fun h => ⟨h, rfl⟩
  late _ s hsome := by
    refine remembers_quiet id (adds_of_trace_eq rfl) (extends_of_eq rfl) fun hnone => ?_
    rw [hnone] at hsome
    exact absurd hsome nofun
  selects notice s hl := by
    have hadds := selectDiscovered_adds c notice.target { s with late := none }
    refine remembers_quiet id hadds ⟨List.prefix_refl _, rfl⟩ fun hnone => ?_
    rw [hl] at hnone
    exact absurd hnone nofun

/-- Whatever spares the tag leaves the memory to the news of tags. -/
theorem Evolves.remembers (h : Evolves c SparesTag s t) : Remembers s t := (steps_remembers c).evolves h

end Told

end NfcStack.Proofs
