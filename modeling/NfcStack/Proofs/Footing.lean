import NfcStack.Proofs.Completion

/-!
# What a controller was told of its mode

In reader mode the stack does not listen, and a round of discovery takes its own time. What the controller
was last told of both is read off the requests in the trace. Most operations tell it nothing of either.
-/

namespace NfcStack.Proofs

variable {σ α : Type}

section Footing

def isEnabling : Request → Bool
  | .enable => true
  | _ => false

def isListening : Request → Bool
  | .enableListening => true
  | .disableListening => true
  | _ => false

def durationOf : Request → Option UInt16
  | .setDiscoveryDuration duration => some duration
  | _ => none

/-- What a controller was last told about its mode. -/
structure Footing where
  /-- The last request about listening since the controller was enabled. -/
  listening : Option Request
  /-- The last duration of a round of discovery. -/
  duration : Option UInt16

def footingOf (requests : List Request) : Footing where
  listening := ((sinceLast isEnabling requests).filter isListening).getLast?
  duration := (requests.filterMap durationOf).getLast?

/-- What one more request makes of that. -/
def Footing.after (footing : Footing) : Request → Footing
  | .enable => { footing with listening := none }
  | .enableListening => { footing with listening := some .enableListening }
  | .disableListening => { footing with listening := some .disableListening }
  | .setDiscoveryDuration duration => { footing with duration := some duration }
  | _ => footing

lemma footingOf_snoc (requests : List Request) (request : Request) :
    footingOf (requests ++ [request]) = (footingOf requests).after request := by
  unfold footingOf
  cases request with
  | enable =>
    rw [sinceLast_self rfl]
    simp [durationOf, Footing.after]
  | _ =>
    rw [sinceLast_other rfl]
    simp [durationOf, isListening, Footing.after]

lemma footingOf_append {new : List Request}
    (h : ∀ request ∈ new, ∀ footing : Footing, footing.after request = footing)
    (requests : List Request) : footingOf (requests ++ new) = footingOf requests := by
  -- From the front, so that each of the new requests is the last one when its turn comes.
  induction new generalizing requests with
  | nil => rw [List.append_nil]
  | cons first rest ih =>
    obtain ⟨hfirst, hrest⟩ := List.forall_mem_cons.mp h
    rw [List.append_cons, ih hrest, footingOf_snoc, hfirst]

def modeDuration (config : Config) (readerMode : Bool) : UInt16 :=
  if readerMode then config.readerModeDuration else config.discoveryDuration

/-- A controller was told of listening and of the duration what goes with a mode. -/
structure InStep (config : Config) (readerMode : Bool) (footing : Footing) : Prop where
  silent : readerMode = true → footing.listening = some .disableListening
  listens : readerMode = false →
    footing.listening = none ∨ footing.listening = some .enableListening
  duration : footing.duration = some (modeDuration config readerMode)

lemma InStep.unique {config : Config} {readerMode other : Bool} {footing : Footing}
    (h : InStep config readerMode footing) (h' : InStep config other footing) :
    readerMode = other := by
  have hclash (hon : InStep config true footing) (hoff : InStep config false footing) : False := by
    have hsilent := hon.silent rfl
    rcases hoff.listens rfl with hnone | hsome
    · simp [hnone] at hsilent
    · simp [hsome] at hsilent
  cases readerMode with
  | true =>
    cases other with
    | true => rfl
    | false => exact (hclash h h').elim
  | false =>
    cases other with
    | true => exact (hclash h' h).elim
    | false => rfl

def listeningRequest (readerMode : Bool) : Request :=
  if readerMode then .disableListening else .enableListening

lemma inStep_switched (config : Config) (readerMode : Bool) (footing : Footing) :
    InStep config readerMode ((footing.after (listeningRequest readerMode)).after
      (.setDiscoveryDuration (modeDuration config readerMode))) := by
  cases readerMode with
  | true => exact ⟨fun _ => rfl, nofun, rfl⟩
  | false => exact ⟨nofun, fun _ => .inr rfl, rfl⟩

lemma inStep_begun (config : Config) (footing : Footing) :
    InStep config false ((footing.after .enable).after
      (.setDiscoveryDuration config.discoveryDuration)) :=
  ⟨nofun, fun _ => .inl rfl, rfl⟩

end Footing

section Stances

variable {c : Controller σ} {P : σ → Prop} {s t : System σ} {bearing : Bearing} {footing : Footing}

/-- An entry that tells a controller nothing about its mode. -/
def Modeless (entry : Entry) : Prop :=
  ∀ origin request verdict, entry.passage = .request origin request verdict →
    ∀ footing : Footing, footing.after request = footing

lemma modeless_delivery {entry : Entry} (h : OfDelivery entry) : Modeless entry := by
  intro origin request verdict hpassage
  rcases h with ⟨event, hevent⟩ | hreaction
  · rw [hevent] at hpassage
    exact absurd hpassage nofun
  · unfold OfReaction at hreaction
    rw [hpassage] at hreaction
    cases origin with
    | caller => exact hreaction.elim
    | reaction =>
      cases request with
      | enable => exact hreaction.elim
      | enableListening => exact hreaction.elim
      | disableListening => exact hreaction.elim
      | setDiscoveryDuration duration => exact hreaction.elim
      | _ => exact fun _ => rfl

lemma modeless_spares {request : Request} (h : SparesMode (.request request)) (verdict : Status)
    (flags : Flags) : Modeless ⟨.request .caller request verdict, flags⟩ := by
  rintro origin other verdict' ⟨⟩ footing
  cases request with
  | enable => exact h.elim
  | enableListening => exact h.elim
  | disableListening => exact h.elim
  | setDiscoveryDuration duration => exact h.elim
  | _ => rfl

lemma adds_footing (h : Adds Modeless s t) :
    footingOf (System.requestsOf t.trace) = footingOf (System.requestsOf s.trace) := by
  obtain ⟨new, htrace, hnew⟩ := h
  have hrequests : System.requestsOf t.trace =
      System.requestsOf s.trace ++ System.requestsOf new := by
    rw [htrace]
    exact List.filterMap_append
  rw [hrequests]
  refine footingOf_append (fun request hmem => ?_) _
  obtain ⟨entry, hentry, hfound⟩ := List.mem_filterMap.mp hmem
  cases hpassage : entry.passage with
  | request origin found verdict =>
    simp only [hpassage, Option.some.injEq] at hfound
    rw [← hfound]
    exact hnew entry hentry origin found verdict hpassage
  | delivered event => simp [hpassage] at hfound
  | notified notification => simp [hpassage] at hfound

lemma attend_footing (s : System σ) :
    footingOf (System.requestsOf (c.attend s).trace) = footingOf (System.requestsOf s.trace) := by
  have hadds : Adds OfDelivery s (c.attend s) := (follows_adds c).attend s
  exact adds_footing (hadds.mono fun _ => modeless_delivery)

lemma issue_footing (origin : Origin) (request : Request) (s : System σ) :
    footingOf (System.requestsOf (c.issue origin request s).2.trace) =
      (footingOf (System.requestsOf s.trace)).after request := by
  have hrequests : System.requestsOf (c.issue origin request s).2.trace =
      System.requestsOf s.trace ++ [request] := List.filterMap_append
  rw [hrequests, footingOf_snoc]

/-- A composed system whose host has a bearing and whose controller has a footing. An enabled stack
receives the events of its controller. -/
structure Stance (P : σ → Prop) (bearing : Bearing) (footing : Footing) (s : System σ) : Prop
    extends Composed P s where
  stands : bearingOf s.host = bearing
  told : footingOf (System.requestsOf s.trace) = footing
  hears : bearing.enabled = true → s.receiver = .host

/-- What leaves the mode alone leaves a stance as it is. -/
theorem Completing.spares_leads (hc : Completing c P) {op : Op σ α} (h : KeepsTo SparesMode c.alone op) :
    Leads c (Stance P bearing footing) op fun _ => Stance P bearing footing := by
  intro s hs
  have hevolves : Evolves c SparesMode s (op.run c.alone s).2 := h s
  obtain ⟨hcomposed, hsame⟩ := hc.evolves (hevolves.mono sparesMode_routine) hs.toComposed
  have hquery : SparesMode (.request .queryNfcees) := trivial
  have hadds : Adds Modeless s (op.run c.alone s).2 :=
    hevolves.adds (fun _ => modeless_delivery) (fun _ verdict flags hp _ => modeless_spares hp verdict flags)
      (modeless_spares hquery)
  exact ⟨hcomposed, hsame.trans hs.stands, (adds_footing hadds).trans hs.told,
    fun henabled => hevolves.stays_host (hs.hears henabled)⟩

lemma Completing.send_leads (hc : Completing c P) {request : Request}
    (hreq : Routine (.request request)) :
    Leads c (Stance P bearing footing) (Op.send request) fun _ =>
      Stance P bearing (footing.after request) := by
  have hissue : Leads c (Stance P bearing footing) (Op.issue request) fun _ =>
      Stance P bearing (footing.after request) := by
    intro s hs
    have hother : request ≠ .enable := by
      rintro rfl
      exact hreq.elim
    refine ⟨hc.issue_composed .caller (completes_routine hreq) hs.toComposed, hs.stands, ?_, ?_⟩
    · exact (issue_footing .caller request s).trans (by rw [hs.told])
    · exact fun henabled => (issue_receiver c .caller request s hother).trans (hs.hears henabled)
  exact hissue.bind fun _ => (hc.spares_leads keepsTo_attend).bind fun _ => leads_pure _ fun _ h => h

lemma update_leads {f : Host → Host} (g : Bearing → Bearing)
    (hf : ∀ host, bearingOf (f host) = g (bearingOf host))
    (hg : (g bearing).enabled = true → bearing.enabled = true) :
    Leads c (Stance P bearing footing) (Op.update f) fun _ => Stance P (g bearing) footing := by
  intro s hs
  exact ⟨hs.mapHost f, (hf s.host).trans (congrArg g hs.stands), hs.told, fun h => hs.hears (hg h)⟩

lemma Completing.enabling_leads (hc : Completing c P) :
    Leads c (Stance P bearing footing) (Op.callForever Venue.enable .enable) fun outcome t =>
      outcome = .completed .ok ∧
        Stance P { bearing with enabled := true, disabling := false } (footing.after .enable) t := by
  intro s hs
  let armed := s.mapHost (Venue.enable.map .arm)
  have harmed : Composed P armed := hs.mapHost _
  obtain ⟨hcomposed, hbearing, hvalue⟩ := hc.enable_heard harmed rfl
  have hok : (c.issue .caller .enable armed).1.isOk = true := hc.accepts s.controller hs.controller
  have hfooting := (attend_footing (c := c) (c.issue .caller .enable armed).2).trans
    (issue_footing .caller .enable armed)
  rw [callForever_alone]
  dsimp only
  rw [if_pos hok]
  refine ⟨?_, hcomposed.mapHost _, ?_, ?_, fun _ => ?_⟩
  · change (c.attend (c.issue .caller .enable armed).2).host.enable.unboundedOutcome = _
    unfold Rendezvous.unboundedOutcome
    rw [hvalue]
  · exact hbearing.trans (by rw [← hs.stands]; rfl)
  · exact hfooting.trans (by rw [← hs.told]; rfl)
  · exact (follows_receiver c).attend _

/-- Whatever becomes of a request to disable the controller, only the life cycle is open after it. -/
lemma Completing.disabling_leads (hc : Completing c P) (graceful : Bool)
    (henabled : bearing.enabled = true) :
    Leads c (Stance P bearing footing) (Op.callForever Venue.disable (.disable graceful)) fun _ t =>
      ∃ enabled disabling, Stance P { bearing with enabled, disabling } footing t := by
  intro s hs
  let armed := s.mapHost (Venue.disable.map .arm)
  let asked := (c.issue .caller (.disable graceful) armed).2
  have hasked : Awaiting P (.disable graceful) asked := hc.issue_awaiting .caller _ (hs.mapHost _)
  have hreceiver : asked.receiver = .host := hs.hears henabled
  have hfooting : footingOf (System.requestsOf asked.trace) = footing :=
    (issue_footing .caller (.disable graceful) armed).trans hs.told
  rw [callForever_alone]
  dsimp only
  split
  · let ended := c.attend asked
    have hbearing : bearingOf ended.host =
        { bearing with enabled := (life ended.host).1, disabling := (life ended.host).2 } :=
      (hasked.attend_bearing (c := c)).trans (by rw [← hs.stands]; rfl)
    refine ⟨_, _, (hasked.attend (c := c)).1.mapHost _, hbearing, ?_, fun _ => ?_⟩
    · exact (attend_footing asked).trans hfooting
    · exact ((follows_receiver c).attend asked).trans hreceiver
  · next hrefused =>
    have hqueue : asked.queue = s.queue := issue_refused hrefused
    have hcomposed : Composed P asked :=
      ⟨hasked.controller, by rw [hqueue]; exact hs.calm, hasked.clear, hasked.attended, hasked.late⟩
    have hstands : bearingOf (Venue.disable.map .disarm asked.host) =
        { bearing with enabled := bearing.enabled, disabling := bearing.disabling } := hs.stands
    exact ⟨_, _, hcomposed.mapHost _, hstands, hfooting, fun _ => hreceiver⟩

end Stances

end NfcStack.Proofs
