import Mathlib.Data.List.Induction
import NfcStack.Bench.Sample
import NfcStack.Bench.Script
import NfcStack.Proofs.LoopOperations

/-!
# Presence loops exclude each other

However the steps of callers and loops follow each other, at most one loop is current, and only a loop that was
the current one to its end reports the tag as lost.
-/

namespace NfcStack.Proofs

section Currency

/-- What takes the place of the current one away from the loop of a number. A stop does, whoever is meant by
it, and so does the end of the endpoint. -/
def Displaces (number : Nat) : LoopEvent → Prop
  | .stopped => True
  | .destroyed => True
  | .unspawned _ => True
  | .retired other => other = number
  | _ => False

/-- The loop of a number was made the current one, and nothing took that away from it since. -/
def IsCurrent (events : List LoopEvent) (number : Nat) : Prop :=
  ∃ before since, events = before ++ .claimed number :: since ∧
    ∀ event ∈ since, ¬Displaces number event

variable {events : List LoopEvent} {event : LoopEvent} {number : Nat}

lemma isCurrent_snoc : IsCurrent (events ++ [event]) number ↔
    event = .claimed number ∨ (IsCurrent events number ∧ ¬Displaces number event) := by
  constructor
  · rintro ⟨before, since, heq, hkept⟩
    rcases List.eq_nil_or_concat since with rfl | ⟨earlier, last, rfl⟩
    · exact .inl (List.cons.inj (List.append_inj' heq rfl).2).1
    · rw [List.concat_eq_append] at heq hkept
      rw [← List.cons_append, ← List.append_assoc] at heq
      obtain ⟨hevents, hlast⟩ := List.append_inj' heq rfl
      obtain ⟨hearlier, hend⟩ := List.forall_mem_append.mp hkept
      rw [(List.cons.inj hlast).1]
      exact .inr ⟨⟨before, earlier, hevents, hearlier⟩, hend last List.mem_cons_self⟩
  · rintro (rfl | ⟨⟨before, since, rfl, hkept⟩, hevent⟩)
    · exact ⟨events, [], rfl, fun _ hmem => absurd hmem List.not_mem_nil⟩
    · refine ⟨before, since ++ [event], by rw [List.append_assoc, List.cons_append], ?_⟩
      exact List.forall_mem_append.mpr ⟨hkept, List.forall_mem_singleton.mpr hevent⟩

/-- What an event makes of the number of the current loop. -/
def currentAfter (current : Nat) : LoopEvent → Nat
  | .claimed number => number
  | .stopped => 0
  | .destroyed => 0
  | .unspawned _ => 0
  | .retired number => if current = number then 0 else current
  | _ => current

/-- The endpoint knows which loop is current. -/
def KnowsCurrent (events : List LoopEvent) (current : Nat) : Prop :=
  ∀ number, IsCurrent events number ↔ number ≠ 0 ∧ current = number

variable {current : Nat}

lemma KnowsCurrent.none (h : KnowsCurrent events 0) : ¬IsCurrent events number := by
  intro hcurrent
  obtain ⟨hne, heq⟩ := (h number).mp hcurrent
  exact hne heq.symm

lemma knowsCurrent_zero (h : ∀ number, ¬IsCurrent events number) : KnowsCurrent events 0 :=
  fun number => iff_of_false (h number) fun ⟨hne, hzero⟩ => hne hzero.symm

/-- A loop becomes the current one only where there is none. -/
lemma KnowsCurrent.snoc (h : KnowsCurrent events current)
    (hclaim : ∀ number, event = .claimed number → number ≠ 0 ∧ current = 0) :
    KnowsCurrent (events ++ [event]) (currentAfter current event) := by
  have hdisplaced (hany : ∀ number, Displaces number event) (hnot : ∀ number, event ≠ .claimed number) :
      KnowsCurrent (events ++ [event]) 0 := by
    refine knowsCurrent_zero fun number hcurrent => ?_
    rcases isCurrent_snoc.mp hcurrent with heq | ⟨-, hkept⟩
    · exact hnot number heq
    · exact hkept (hany number)
  cases event with
  | claimed number =>
    obtain ⟨hpositive, rfl⟩ := hclaim number rfl
    intro other
    rw [isCurrent_snoc, or_iff_left fun hbefore => h.none hbefore.1]
    constructor
    · rintro heq
      obtain rfl := LoopEvent.claimed.inj heq
      exact ⟨hpositive, rfl⟩
    · rintro ⟨-, rfl⟩
      rfl
  | retired number =>
    intro other
    rw [isCurrent_snoc, or_iff_right nofun, h other]
    change (_ ∧ ¬number = other) ↔ other ≠ 0 ∧ (if current = number then 0 else current) = other
    split
    · next heq =>
      exact iff_of_false (fun hboth => hboth.2 (heq.symm.trans hboth.1.2)) fun hzero => hzero.1 hzero.2.symm
    · next hne => exact and_iff_left_of_imp fun hother heq => hne (hother.2.trans heq.symm)
  | stopped => exact hdisplaced (fun _ => trivial) (fun _ => nofun)
  | destroyed => exact hdisplaced (fun _ => trivial) (fun _ => nofun)
  | unspawned number => exact hdisplaced (fun _ => trivial) (fun _ => nofun)
  | _ =>
    intro other
    rw [isCurrent_snoc, or_iff_right nofun, h other]
    exact and_iff_left id

end Currency

section Soundness

variable {events : List LoopEvent} {event : LoopEvent} {number : Nat} {request : LoopRequest} {kept : Bool}
  {chance : LoopChance} {endpoint after : Endpoint} {scene next : LoopScene}

/-- Stages of a request that became the current one and whose caller was not told yet. -/
def IsStarting (stage : LoopStage) : Prop := stage = .starting ∨ stage = .spawning

/-- What the events so far tell of a request. -/
structure RequestSound (events : List LoopEvent) (request : LoopRequest) : Prop where
  claimed : IsStarting request.stage → .claimed request.number ∈ events
  unreported : request.stage ≠ .ended → ∀ handle, .reported request.number handle ∉ events
  retired : request.stage = .reporting →
    ∃ before since, events = before ++ .retired request.number :: since ∧ IsCurrent before request.number

/-- Only its own report concerns a request that takes no step itself. -/
lemma RequestSound.snoc (h : RequestSound events request)
    (hother : ∀ handle, event ≠ .reported request.number handle) :
    RequestSound (events ++ [event]) request where
  claimed hstage := List.mem_append_left [event] (h.claimed hstage)
  unreported hstage handle hmem := by
    rcases List.mem_append.mp hmem with hbefore | hlast
    · exact h.unreported hstage handle hbefore
    · exact hother handle (List.mem_singleton.mp hlast).symm
  retired hstage := by
    obtain ⟨before, since, rfl, hcurrent⟩ := h.retired hstage
    exact ⟨before, since ++ [event], by rw [List.append_assoc, List.cons_append], hcurrent⟩

/-- What a request or its loop found when it took its step. -/
def Found (request : LoopRequest) (endpoint : Endpoint) : LoopEvent → Prop
  | .claimed other => other = request.number ∧ endpoint.currentLoop = 0
  | .denied other => other = request.number ∧ endpoint.currentLoop ≠ 0
  | .spawned other => other = request.number ∧ IsStarting request.stage
  | .reported other handle =>
    other = request.number ∧ request.stage = .reporting ∧ endpoint.slots.head?.map (·.handle) = some handle
  | _ => True

lemma first_handle {handle : UInt8} (h : endpoint.lostHandle? = some handle) :
    endpoint.slots.head?.map (·.handle) = some handle := by
  unfold Endpoint.lostHandle? Endpoint.handle at h
  cases hslots : endpoint.slots with
  | nil =>
    rw [hslots] at h
    exact absurd h nofun
  | cons slot rest =>
    rw [hslots] at h
    exact h

/-- What a step of a request leaves, told from the event: only the number of the current loop is other than
before. -/
structure TurnLed (request : LoopRequest) (endpoint : Endpoint) (turn : LoopTurn) : Prop where
  found : Found request endpoint turn.event
  current : turn.endpoint.currentLoop = currentAfter endpoint.currentLoop turn.event
  last : turn.endpoint.lastLoop = endpoint.lastLoop
  slots : turn.endpoint.slots = endpoint.slots

lemma turn_led (request : LoopRequest) (kept : Bool) (chance : LoopChance) (endpoint : Endpoint) :
    TurnLed request endpoint (request.turn kept chance endpoint) := by
  obtain ⟨number, stage⟩ := request
  cases stage with
  | asking =>
    by_cases hfree : endpoint.currentLoop = 0
    · rw [turn_claims hfree]
      exact ⟨⟨rfl, hfree⟩, rfl, rfl, rfl⟩
    · rw [turn_denied hfree]
      exact ⟨⟨rfl, hfree⟩, rfl, rfl, rfl⟩
  | spawning =>
    cases hspawned : chance.spawned <;> simp only [LoopRequest.turn, hspawned]
    · exact ⟨trivial, rfl, rfl, rfl⟩
    · exact ⟨⟨rfl, .inr rfl⟩, rfl, rfl, rfl⟩
  | waiting => cases kept <;> exact ⟨trivial, rfl, rfl, rfl⟩
  | retiring =>
    by_cases hcurrent : endpoint.currentLoop = number
    · rw [turn_retires hcurrent]
      exact ⟨trivial, (if_pos hcurrent).symm, rfl, rfl⟩
    · rw [turn_displaced hcurrent]
      exact ⟨trivial, (if_neg hcurrent).symm, rfl, rfl⟩
  | reporting =>
    cases hlost : endpoint.lostHandle? with
    | some handle =>
      rw [turn_reports hlost]
      exact ⟨⟨rfl, rfl, first_handle hlost⟩, rfl, rfl, rfl⟩
    | none =>
      rw [turn_silent hlost]
      exact ⟨trivial, rfl, rfl, rfl⟩
  | _ => exact ⟨trivial, rfl, rfl, rfl⟩

/-- A step that neither begins a loop nor leads to its report. -/
lemma RequestSound.moves {stage : LoopStage} (h : RequestSound events request)
    (hgoing : request.stage = .ended → stage = .ended) (hstart : ¬IsStarting stage) (hreport : stage ≠ .reporting)
    (hquiet : stage ≠ .ended → ∀ handle, event ≠ .reported request.number handle) :
    RequestSound (events ++ [event]) ⟨request.number, stage⟩ where
  claimed hstage := absurd hstage hstart
  unreported hstage handle hmem := by
    rcases List.mem_append.mp hmem with hbefore | hlast
    · exact h.unreported (fun hover => hstage (hgoing hover)) handle hbefore
    · exact hquiet hstage handle (List.mem_singleton.mp hlast).symm
  retired hstage := absurd hstage hreport

lemma turn_sound (kept : Bool) (chance : LoopChance) (hcurrent : KnowsCurrent events endpoint.currentLoop)
    (hpositive : request.number ≠ 0) (h : RequestSound events request) :
    RequestSound (events ++ [(request.turn kept chance endpoint).event])
      ⟨request.number, (request.turn kept chance endpoint).stage⟩ := by
  obtain ⟨number, stage⟩ := request
  have hstart {stage : LoopStage} (h₁ : stage ≠ .starting) (h₂ : stage ≠ .spawning) : ¬IsStarting stage :=
    fun hstage => hstage.elim h₁ h₂
  cases stage with
  | asking =>
    by_cases hfree : endpoint.currentLoop = 0
    · rw [turn_claims hfree]
      have hkept : RequestSound (events ++ [.claimed number]) ⟨number, .asking⟩ := h.snoc nofun
      exact ⟨fun _ => List.mem_append_right _ List.mem_cons_self, fun _ => hkept.unreported nofun, nofun⟩
    · rw [turn_denied hfree]
      exact h.moves nofun (hstart nofun nofun) nofun nofun
  | starting =>
    have hkept : RequestSound (events ++ [.moved number]) ⟨number, .starting⟩ := h.snoc nofun
    exact ⟨fun _ => hkept.claimed (.inl rfl), fun _ => hkept.unreported nofun, nofun⟩
  | spawning =>
    cases hspawned : chance.spawned <;> simp only [LoopRequest.turn, hspawned]
    · exact h.moves nofun (hstart nofun nofun) nofun nofun
    · exact h.moves nofun (hstart nofun nofun) nofun nofun
  | waiting => cases kept <;> exact h.moves nofun (hstart nofun nofun) nofun nofun
  | awake =>
    cases hmisses : endpoint.missesPlace number chance.woken with
    | true =>
      rw [turn_misses hmisses]
      exact h.moves nofun (hstart nofun nofun) nofun nofun
    | false =>
      rw [turn_doubts hmisses]
      exact h.moves nofun (hstart nofun nofun) nofun nofun
  | doubting =>
    cases hpresent : endpoint.present <;> cases hpaused : chance.paused <;>
      simp only [LoopRequest.turn, hpresent, hpaused] <;>
      exact h.moves nofun (hstart nofun nofun) nofun nofun
  | probing =>
    cases hthere : chance.there <;> simp only [LoopRequest.turn, hthere] <;>
      exact h.moves nofun (hstart nofun nofun) nofun nofun
  | retiring =>
    by_cases hplace : endpoint.currentLoop = number
    · rw [turn_retires hplace]
      have hnow : IsCurrent events number := (hcurrent number).mpr ⟨hpositive, hplace⟩
      have hkept : RequestSound (events ++ [.retired number]) ⟨number, .retiring⟩ := h.snoc nofun
      exact ⟨fun hstage => absurd hstage (hstart nofun nofun), fun _ => hkept.unreported nofun,
        fun _ => ⟨events, [], rfl, hnow⟩⟩
    · rw [turn_displaced hplace]
      exact h.moves nofun (hstart nofun nofun) nofun nofun
  | reporting =>
    cases hlost : endpoint.lostHandle? with
    | some handle =>
      rw [turn_reports hlost]
      exact h.moves nofun (hstart nofun nofun) nofun fun hover => absurd rfl hover
    | none =>
      rw [turn_silent hlost]
      exact h.moves nofun (hstart nofun nofun) nofun nofun
  | ended => exact h.moves (fun _ => rfl) (hstart nofun nofun) nofun nofun
  | _ => exact h.moves nofun (hstart nofun nofun) nofun nofun

/-- What holds in the midst of a run. Numbers are given out in order. -/
structure LoopsSound (slots : List Slot) (events : List LoopEvent) (scene : LoopScene) : Prop where
  current : KnowsCurrent events scene.endpoint.currentLoop
  first : scene.endpoint.slots.head? = slots.head?
  numbers : scene.requests.map (·.number) = List.range' 1 scene.endpoint.lastLoop
  given : ∀ number handle, .reported number handle ∈ events → number ≤ scene.endpoint.lastLoop
  each : ∀ request ∈ scene.requests, RequestSound events request

variable {slots : List Slot} {place : Nat}

lemma LoopsSound.numbered (h : LoopsSound slots events scene) (hat : scene.requests[place]? = some request) :
    request.number = place + 1 ∧ request.number ≤ scene.endpoint.lastLoop := by
  have hnumber : (scene.requests.map (·.number))[place]? = some request.number := by
    rw [List.getElem?_map, hat, Option.map_some]
  rw [h.numbers, List.getElem?_eq_some_iff] at hnumber
  obtain ⟨hlt, heq⟩ := hnumber
  rw [List.length_range'] at hlt
  rw [List.getElem_range'] at heq
  omega

lemma loopsSound_start (session : Session) (act : Activation) :
    LoopsSound session.slots [] ⟨Endpoint.ofSession session act, []⟩ where
  current := knowsCurrent_zero fun _ ⟨before, _, hnil, _⟩ =>
    absurd hnil.symm (List.append_ne_nil_of_right_ne_nil before nofun)
  first := rfl
  numbers := rfl
  given _ _ hmem := absurd hmem List.not_mem_nil
  each _ hmem := absurd hmem List.not_mem_nil

/-- A step that no request takes, and that changes nothing about the numbers. -/
lemma LoopsSound.outside (h : LoopsSound slots events scene)
    (hfirst : after.slots.head? = scene.endpoint.slots.head?) (hlast : after.lastLoop = scene.endpoint.lastLoop)
    (hcurrent : after.currentLoop = currentAfter scene.endpoint.currentLoop event)
    (hclaim : ∀ number, event ≠ .claimed number) (hreport : ∀ number handle, event ≠ .reported number handle) :
    LoopsSound slots (events ++ [event]) { scene with endpoint := after } where
  current := hcurrent ▸ h.current.snoc fun number heq => absurd heq (hclaim number)
  first := hfirst.trans h.first
  numbers := hlast ▸ h.numbers
  given number handle hmem := by
    rcases List.mem_append.mp hmem with hbefore | hnow
    · exact hlast ▸ h.given number handle hbefore
    · exact absurd (List.mem_singleton.mp hnow).symm (hreport number handle)
  each request hmem := (h.each request hmem).snoc (hreport request.number)

lemma LoopsSound.asked (h : LoopsSound slots events scene) :
    LoopsSound slots (events ++ [.asked scene.endpoint.takeNumber.1]) scene.ask where
  current := h.current.snoc nofun
  first := h.first
  numbers := by
    unfold LoopScene.ask
    rw [List.map_append, h.numbers]
    change _ = List.range' 1 (scene.endpoint.lastLoop + 1)
    rw [List.range'_concat, Nat.one_mul, Nat.add_comm]
    rfl
  given number handle hmem := by
    rcases List.mem_append.mp hmem with hbefore | hnow
    · exact Nat.le_succ_of_le (h.given number handle hbefore)
    · exact nomatch List.mem_singleton.mp hnow
  each := by
    refine List.forall_mem_append.mpr ⟨fun request hmem => (h.each request hmem).snoc nofun, ?_⟩
    refine List.forall_mem_singleton.mpr ⟨nofun, fun _ handle hmem => ?_, nofun⟩
    -- The number is higher than any that was given out before.
    rcases List.mem_append.mp hmem with hbefore | hnow
    · exact absurd (h.given _ handle hbefore) (Nat.not_succ_le_self _)
    · exact nomatch List.mem_singleton.mp hnow

lemma numbers_set {requests : List LoopRequest} {stage : LoopStage} (hat : requests[place]? = some request) :
    (requests.set place ⟨request.number, stage⟩).map (·.number) = requests.map (·.number) := by
  obtain ⟨hlt, rfl⟩ := List.getElem?_eq_some_iff.mp hat
  refine List.ext_getElem (by simp only [List.length_map, List.length_set]) fun other _ _ => ?_
  rw [List.getElem_map, List.getElem_map, List.getElem_set]
  split
  · next heq =>
    subst heq
    rfl
  · rfl

lemma LoopsSound.advanced (h : LoopsSound slots events scene) (chance : LoopChance)
    (hat : scene.requests[place]? = some request) :
    LoopsSound slots (events ++ [(request.turn scene.isKept chance scene.endpoint).event])
      (scene.advance place request chance) := by
  obtain ⟨hplace, hgiven⟩ := h.numbered hat
  have hpositive : request.number ≠ 0 := hplace ▸ Nat.succ_ne_zero place
  have hself : RequestSound events request := h.each request (List.mem_of_getElem? hat)
  have hsound := turn_sound scene.isKept chance h.current hpositive hself
  obtain ⟨hfound, hcurrent, hlast, hslots⟩ := turn_led request scene.isKept chance scene.endpoint
  unfold LoopScene.advance
  generalize request.turn scene.isKept chance scene.endpoint = turn at hsound hfound hcurrent hlast hslots ⊢
  obtain ⟨event, stage, after⟩ := turn
  refine ⟨?_, hslots ▸ h.first, ?_, ?_, ?_⟩
  · change KnowsCurrent _ after.currentLoop
    rw [hcurrent]
    refine h.current.snoc fun number heq => ?_
    subst heq
    obtain ⟨rfl, hfree⟩ := hfound
    exact ⟨hpositive, hfree⟩
  · exact (numbers_set hat).trans (hlast ▸ h.numbers)
  · intro number handle hmem
    change number ≤ after.lastLoop
    rw [hlast]
    rcases List.mem_append.mp hmem with hbefore | hnow
    · exact h.given number handle hbefore
    · obtain rfl := List.mem_singleton.mp hnow
      rw [hfound.1]
      exact hgiven
  · intro other hmem
    obtain ⟨elsewhere, hother⟩ := List.mem_iff_getElem?.mp hmem
    change (scene.requests.set place ⟨request.number, stage⟩)[elsewhere]? = some other at hother
    rw [List.getElem?_set] at hother
    split at hother
    · split at hother
      · rw [← Option.some.inj hother]
        exact hsound
      · exact nomatch hother
    · next hne =>
      refine (h.each other (List.mem_of_getElem? hother)).snoc fun handle hreport => hne ?_
      subst hreport
      have hsame : other.number = request.number := hfound.1
      rw [(h.numbered hother).1, hplace] at hsame
      exact (Nat.succ.inj hsame).symm

lemma LoopsSound.step (h : LoopsSound slots events scene) (hstep : LoopStep scene event next) :
    LoopsSound slots (events ++ [event]) next := by
  cases hstep with
  | asks _ => exact h.asked
  | advances chance hat => exact h.advanced chance hat
  | stops => exact h.outside rfl rfl rfl nofun nofun
  | releases => exact h.outside rfl rfl rfl nofun nofun
  | goesAway _ => exact h.outside rfl rfl rfl nofun nofun
  | alters halters => exact h.outside halters.first halters.lastLoop halters.currentLoop nofun nofun

lemma loopRun_sound {session : Session} {act : Activation}
    (h : LoopRun ⟨Endpoint.ofSession session act, []⟩ events scene) :
    LoopsSound session.slots events scene := by
  induction h with
  | nil => exact loopsSound_start session act
  | snoc _ hstep ih => exact ih.step hstep

/-- The events of requests from which more can be told than that they happened. -/
def TellsMore : LoopEvent → Prop
  | .claimed _ | .denied _ | .spawned _ | .reported _ _ => True
  | _ => False

lemma step_found (hstep : LoopStep scene event next) (htells : TellsMore event) :
    ∃ request ∈ scene.requests, Found request scene.endpoint event := by
  cases hstep with
  | advances chance hat => exact ⟨_, List.mem_of_getElem? hat, (turn_led _ _ chance _).found⟩
  | _ => exact htells.elim

end Soundness

section Exclusion

/-- What the presence loops of one endpoint keep to, whatever the order of their steps. -/
structure LoopsExclusive (slots : List Slot) (events : List LoopEvent) : Prop where
  one : ∀ number other, IsCurrent events number → IsCurrent events other → number = other
  denied : ∀ before number after, events = before ++ .denied number :: after →
    ∃ other, IsCurrent before other
  /-- A caller is told that there is a loop only if none was current when it asked. -/
  spawned : ∀ before number after, events = before ++ .spawned number :: after →
    ∃ earlier since, before = earlier ++ .claimed number :: since ∧ ∀ other, ¬IsCurrent earlier other
  /-- A loop reports once, and only if it was the current one until it retired. -/
  reported : ∀ before number handle after, events = before ++ .reported number handle :: after →
    (∀ other, .reported number other ∉ before) ∧
    slots.head?.map (·.handle) = some handle ∧
    ∃ earlier since, before = earlier ++ .retired number :: since ∧ IsCurrent earlier number

variable {events : List LoopEvent} {scene : LoopScene}

lemma exclusive_of_run {session : Session} {act : Activation}
    (h : LoopRun ⟨Endpoint.ofSession session act, []⟩ events scene) : LoopsExclusive session.slots events := by
  have hfinds {before after : List LoopEvent} {event : LoopEvent} (heq : events = before ++ event :: after)
      (htells : TellsMore event) : ∃ found, LoopsSound session.slots before found ∧
        ∃ request ∈ found.requests, Found request found.endpoint event := by
    obtain ⟨found, next, hrun, hstep⟩ := loopRun_append (heq ▸ h)
    exact ⟨found, loopRun_sound hrun, step_found hstep htells⟩
  have hcurrent := (loopRun_sound h).current
  refine ⟨?_, ?_, ?_, ?_⟩
  · intro number other hnumber hother
    exact ((hcurrent number).mp hnumber).2.symm.trans ((hcurrent other).mp hother).2
  · intro before number after heq
    obtain ⟨found, hsound, request, -, -, htaken⟩ := hfinds heq trivial
    exact ⟨_, (hsound.current _).mpr ⟨htaken, rfl⟩⟩
  · intro before number after heq
    obtain ⟨found, hsound, request, hmem, rfl, hstage⟩ := hfinds heq trivial
    obtain ⟨earlier, since, rfl⟩ := List.append_of_mem ((hsound.each request hmem).claimed hstage)
    rw [List.append_assoc, List.cons_append] at heq
    obtain ⟨asked, hasked, -, -, -, hfree⟩ := hfinds heq trivial
    exact ⟨earlier, since, rfl, fun other => (hfree ▸ hasked.current).none⟩
  · intro before number handle after heq
    obtain ⟨found, hsound, request, hmem, rfl, hstage, hhandle⟩ := hfinds heq trivial
    have hself := hsound.each request hmem
    exact ⟨hself.unreported (hstage ▸ nofun), hsound.first ▸ hhandle, hself.retired hstage⟩

/-- However the steps of callers and loops of one endpoint follow each other, at most one loop is current, and the
endpoint knows which. What the operations of an endpoint do is made of these steps, wherever its loops have got
to. -/
theorem loops_exclusive (session : Session) (act : Activation) :
    (∀ events scene, LoopRun ⟨Endpoint.ofSession session act, []⟩ events scene →
      LoopsExclusive session.slots events ∧ KnowsCurrent events scene.endpoint.currentLoop) ∧
    ∀ (σ : Type) (c : Controller σ) (number : Nat) (s : System σ) (found : LoopScene),
      s.host.endpoint? number = some found.endpoint → MadeOfSteps c number s found :=
  ⟨fun _ _ h => ⟨exclusive_of_run h, (loopRun_sound h).current⟩,
    fun _ c _ _ found hfound => made_of_steps c found hfound⟩

def sampleSession (act : Activation) : Session := { (default : Session) with slots := Slot.ofActivation act }

/-- The endpoint of an Ultralight that nobody asked for a loop. -/
def sampleScene : LoopScene :=
  ⟨Endpoint.ofSession (sampleSession (Sample.ultralight 7)) (Sample.ultralight 7), []⟩

/-- Whose turn it is. -/
inductive LoopMove where
  | ask
  | stop
  | go (place : Nat) (chance : LoopChance)

/-- Steps in an order, as long as each can be taken. -/
def play : List LoopMove → LoopScene → List LoopEvent × LoopScene
  | [], scene => ([], scene)
  | .ask :: rest, scene =>
    if scene.endpoint.owned then
      let played := play rest scene.ask
      (.asked scene.endpoint.takeNumber.1 :: played.1, played.2)
    else ([], scene)
  | .stop :: rest, scene =>
    let played := play rest { scene with endpoint := scene.endpoint.stopLoop }
    (.stopped :: played.1, played.2)
  | .go place chance :: rest, scene =>
    match scene.requests[place]? with
    | none => ([], scene)
    | some request =>
      let played := play rest (scene.advance place request chance)
      ((request.turn scene.isKept chance scene.endpoint).event :: played.1, played.2)

lemma play_run (moves : List LoopMove) (scene : LoopScene) :
    LoopRun scene (play moves scene).1 (play moves scene).2 := by
  induction moves generalizing scene with
  | nil => exact .nil
  | cons move rest ih =>
    cases move with
    | ask =>
      unfold play
      split
      · next howned => exact loopRun_cons (.asks scene howned) (ih _)
      · exact .nil
    | stop => exact loopRun_cons (.stops scene) (ih _)
    | go place chance =>
      unfold play
      split
      · exact .nil
      · next request hat => exact loopRun_cons (.advances scene chance hat) (ih _)

/-- The first loop loses the tag and is stopped on its way out. The second one skips a turn while an operation is
under way, and loses the tag at the next; a start in between finds no place. -/
def restarting : List LoopMove :=
  let steps (place count : Nat) : List LoopMove := List.replicate count (.go place {})
  let loses (place : Nat) : LoopMove := .go place { there := false }
  .ask :: steps 0 7 ++ loses 0 :: steps 0 1 ++ .stop :: .ask :: steps 1 3 ++ .ask :: steps 2 1 ++
    steps 1 3 ++ .go 1 { paused := true } :: steps 1 4 ++ loses 1 :: steps 1 2 ++ steps 0 1 ++ steps 1 1

/-- Only the loop that was the current one to its end reports. -/
theorem restarted_loop_reports :
    let events : List LoopEvent := [.asked 1, .claimed 1, .moved 1, .spawned 1, .moved 1, .moved 1, .moved 1,
      .moved 1, .moved 1, .left 1, .stopped, .asked 2, .claimed 2, .moved 2, .spawned 2, .asked 3, .denied 3,
      .moved 2, .moved 2, .moved 2, .moved 2, .moved 2, .moved 2, .moved 2, .moved 2, .moved 2, .left 2,
      .retired 2, .retired 1, .reported 2 7]
    (∃ scene, LoopRun sampleScene events scene) ∧
      LoopsExclusive (Slot.ofActivation (Sample.ultralight 7)) events ∧
      let s : System Script :=
        { host := { Host.fresh {} with endpoints := [sampleScene.endpoint] }, controller := {} }
      let started := (Endpoint.startWatch 0 true : Op Script (Option Nat)).run Script.controller.alone s
      ∃ events stage, Went 0 sampleScene events [⟨1, stage⟩] started.2 ∧ .spawned 1 ∈ events := by
  intro events
  have hplayed : (play restarting sampleScene).1 = events := by decide +kernel
  have hrun : LoopRun sampleScene events (play restarting sampleScene).2 := hplayed ▸ play_run ..
  obtain ⟨hruns, hmade⟩ := loops_exclusive (sampleSession (Sample.ultralight 7)) (Sample.ultralight 7)
  refine ⟨⟨_, hrun⟩, (hruns _ _ hrun).1, ?_⟩
  intro s started
  obtain ⟨events, stage, hwent, htold⟩ :=
    (hmade Script Script.controller 0 s sampleScene rfl).startWatch Script.controller.alone true rfl
  exact ⟨events, stage, hwent, (htold 1).mp rfl⟩

end Exclusion

end NfcStack.Proofs
