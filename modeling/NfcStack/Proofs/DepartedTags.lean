import NfcStack.Proofs.FailedReconnect

/-!
# Tags that are gone

No operation is tied to the tag that its endpoint was made for: all of them go by one mark, that some tag
is there. Once the field was reported empty nothing reaches a tag through the session until another one is
noted. From then on the operations of every endpoint reach that one.
-/

namespace NfcStack.Proofs

variable {σ α : Type}

section Entries

/-- Requests that work on the contents of a tag. -/
def worksOnTag : Request → Bool
  | .sendFrame _ => true
  | .readNdef => true
  | .writeNdef _ => true
  | .format => true
  | .lock _ => true
  | _ => false

def isFrame : Request → Bool
  | .sendFrame _ => true
  | _ => false

/-- A request of a kind that a caller made. -/
def asksFor (kind : Request → Bool) (entry : Entry) : Bool :=
  match entry.passage with
  | .request .caller request _ => kind request
  | _ => false

/-- What passed before a tag was noted. -/
def beforeTag (entries : List Entry) : List Entry := entries.takeWhile fun entry => !notesTag entry

lemma beforeTag_noted {first : List Entry} (h : first.any notesTag = true) (rest : List Entry) :
    beforeTag (first ++ rest) = beforeTag first :=
  (beforeNext_append first rest).trans (if_pos h)

lemma beforeTag_clear {first : List Entry} (h : first.any notesTag = false) (rest : List Entry) :
    beforeTag (first ++ rest) = first ++ beforeTag rest :=
  (beforeNext_append first rest).trans (if_neg (by rw [h]; exact Bool.false_ne_true))

end Entries

section Marks

variable {kind : Request → Bool} {c : Controller σ} {s t u : System σ}

/-- From one system to another a tag counts as there only if one did before or was noted since. If none was
there before, callers made no request of a kind until then. -/
def Founded (kind : Request → Bool) (s t : System σ) : Prop :=
  s.receiver ≠ .session → t.receiver ≠ .session ∧ ∃ new, t.trace = s.trace ++ new ∧
    (s.host.flags.tagActive = false →
      (new.any notesTag = false → t.host.flags.tagActive = false) ∧
        ∀ entry ∈ beforeTag new, asksFor kind entry = false)

lemma Founded.trans (h₁ : Founded kind s t) (h₂ : Founded kind t u) : Founded kind s u := by
  intro hs
  obtain ⟨ht, new₁, htrace₁, hfirst⟩ := h₁ hs
  obtain ⟨hu, new₂, htrace₂, hrest⟩ := h₂ ht
  refine ⟨hu, new₁ ++ new₂, by rw [htrace₂, htrace₁, List.append_assoc], fun hgone => ?_⟩
  obtain ⟨hstill, hnone⟩ := hfirst hgone
  by_cases hnotes : new₁.any notesTag = true
  · rw [beforeTag_noted hnotes, List.any_append, hnotes, Bool.true_or]
    exact ⟨fun h => absurd h.symm Bool.false_ne_true, hnone⟩
  · have hclear : new₁.any notesTag = false := Bool.eq_false_iff.mpr hnotes
    obtain ⟨hstill', hnone'⟩ := hrest (hstill hclear)
    have hwhole : beforeTag new₁ = new₁ := by simpa [beforeTag] using beforeTag_clear hclear []
    rw [beforeTag_clear hclear, List.any_append, hclear, Bool.false_or]
    rw [hwhole] at hnone
    exact ⟨hstill', List.forall_mem_append.mpr ⟨hnone, hnone'⟩⟩

/-- The mark of a tag comes from nothing but a tag that was noted. -/
lemma GoesBy.founded (h : GoesBy NoMore s t) (hadds : Adds (fun entry => asksFor kind entry = false) s t) :
    Founded kind s t := by
  intro hs
  obtain ⟨ht, new, htrace, hmarks⟩ := h hs
  obtain ⟨others, hothers, hnone⟩ := hadds
  obtain rfl : new = others := List.append_cancel_left (htrace.symm.trans hothers)
  refine ⟨ht, new, htrace, fun hgone => ⟨fun hclear => ?_, fun entry hentry => ?_⟩⟩
  · by_contra hset
    have hstands := hmarks.active (eq_true_of_ne_false hset)
    rw [TagHold.after_active] at hstands
    have hsince : (sinceLast reportsEmpty new).any notesTag = true := by
      have hbefore : (holdOf s.host).active = false := hgone
      rw [stands, hbefore, Bool.false_and, Bool.or_false] at hstands
      exact hstands
    obtain ⟨entry, hmem, hnotes⟩ := List.any_eq_true.mp hsince
    have hsuffix : sinceLast reportsEmpty new <:+ new := List.rtakeWhile_suffix _ _
    exact List.any_eq_false.mp hclear entry (hsuffix.subset hmem) hnotes
  · exact hnone entry (List.takeWhile_prefix _ |>.subset hentry)

/-- Acts that make no request of a kind. -/
def Forgoes (kind : Request → Bool) : Act → Prop
  | .request request => kind request = false
  | _ => True

lemma asksFor_delivery {entry : Entry} (h : OfDelivery entry) : asksFor kind entry = false := by
  unfold OfDelivery OfReaction at h
  unfold asksFor
  split
  · next hp =>
    rw [hp] at h
    rcases h with ⟨event, hevent⟩ | hfalse
    · exact absurd hevent nofun
    · exact hfalse.elim
  · rfl

lemma Evolves.founded (hquery : kind .queryNfcees = false) (h : Evolves c (Forgoes kind) s t) :
    Founded kind s t := by
  have hgoes : GoesBy NoMore s t := (h.mono fun _ _ => trivial).goesBy accounts_noMore
  exact hgoes.founded (h.adds (fun _ => asksFor_delivery) (fun _ _ _ hp _ => hp) fun _ _ => hquery)

/-- From one system to another the host stays one, and the trace goes on. -/
def GoesOn (s t : System σ) : Prop :=
  s.receiver ≠ .session → t.receiver ≠ .session ∧ s.trace <+: t.trace

lemma GoesBy.goesOn {r : TagHold → TagHold → Prop} (h : GoesBy r s t) : GoesOn s t := by
  intro hs
  obtain ⟨ht, new, htrace, -⟩ := h hs
  exact ⟨ht, new, htrace.symm⟩

lemma Founded.goesOn (h : Founded kind s t) : GoesOn s t := by
  intro hs
  obtain ⟨ht, new, htrace, -⟩ := h hs
  exact ⟨ht, new, htrace.symm⟩

/-- Nothing is said of what is done where a tag is there from the start. -/
lemma GoesOn.founded (h : GoesOn s t) (hthere : s.host.flags.tagActive = true) : Founded kind s t := by
  intro hs
  obtain ⟨ht, new, htrace⟩ := h hs
  refine ⟨ht, new, htrace.symm, fun hgone => ?_⟩
  rw [hthere] at hgone
  exact absurd hgone.symm Bool.false_ne_true

end Marks

section Runs

variable {kind : Request → Bool} {c : Controller σ}

lemma founded_occupy {s t : System σ} (h : Founded kind s t) (before : List Resource) :
    Founded kind s (c.release (t.mapHost (giveBack before))) := by
  have hback : Founded kind s (t.mapHost (giveBack before)) := h
  refine hback.trans ((accounts_noMore.steps.release _).founded ?_)
  exact (release_adds c _).mono fun _ => asksFor_delivery

/-- Whoever else acts, the host stays one and the trace goes on. -/
lemma composes_goesOn {env : Environment σ} (hR : Composes (Forgoes kind) env (Founded kind)) :
    Composes (fun _ => True) env GoesOn where
  evolves h := (h.goesBy accounts_noMore).goesOn
  trans h₁ h₂ hs := by
    obtain ⟨ht, hfirst⟩ := h₁ hs
    obtain ⟨hu, hrest⟩ := h₂ ht
    exact ⟨hu, hfirst.trans hrest⟩
  occupy {s t} resource h hs := by
    obtain ⟨ht, hfirst⟩ := h hs
    obtain ⟨hu, hrest⟩ := (accounts_noMore.steps.release (t.mapHost (giveBack s.host.inUse))).goesOn ht
    exact ⟨hu, hfirst.trans hrest⟩
  meantime s := (hR.meantime s).goesOn
  radio := hR.radio
  interlude request s := (hR.interlude request s).goesOn
  goOn s := (hR.goOn s).goesOn

/-- An operation that begins only where a tag is there makes no request without one. -/
lemma whenReady_founded {env : Environment σ} (hR : Composes (Forgoes kind) env (Founded kind))
    (otherwise : α) {op : Op σ α} (h : Along GoesOn env (Tag.whenReady otherwise op)) :
    Along (Founded kind) env (Tag.whenReady otherwise op) := by
  intro s
  by_cases hready : s.host.flags.tagReady = true
  · refine (h s).founded ?_
    rw [Flags.tagReady, Bool.and_eq_true] at hready
    exact hready.2
  · have hrun : (Tag.whenReady otherwise op).run env s = (otherwise, s) := by
      unfold Tag.whenReady
      rw [Op.run_bind, Op.run_read, if_neg hready, Op.run_pure]
    rw [hrun]
    exact along_pure hR otherwise s

lemma worksOnTag_particular {request : Request} (h : worksOnTag request = true) :
    Particular (.request request) := by
  cases request with
  | sendFrame _ => trivial
  | readNdef => trivial
  | writeNdef _ => trivial
  | format => trivial
  | lock _ => trivial
  | _ => exact absurd h Bool.false_ne_true

section Kinds

variable (hkind : ∀ request, kind request = true → worksOnTag request = true)

include hkind

lemma other_kind {request : Request} (h : worksOnTag request = false) : kind request = false := by
  by_contra hset
  rw [hkind request (eq_true_of_ne_false hset)] at h
  exact absurd h.symm Bool.false_ne_true

lemma forgoes_plain : ∀ act, ¬Particular act → Forgoes kind act := by
  intro act hplain
  cases act with
  | request request =>
    by_contra hset
    exact hplain (worksOnTag_particular (hkind request (eq_true_of_ne_false hset)))
  | _ => trivial

lemma forgoes_routes : ∀ act, SetsRoute act → Forgoes kind act := by
  intro act hroute
  unfold SetsRoute at hroute
  split at hroute
  · exact other_kind hkind rfl
  · exact other_kind hkind rfl
  · exact other_kind hkind rfl
  · trivial
  · exact hroute.elim

omit hkind in
lemma founded_tagWork {env : Environment σ} (hR : Composes (Forgoes kind) env (Founded kind)) :
    FollowsSelection (Founded kind) env ∧ FollowsContent (Founded kind) env := by
  obtain ⟨hselection, hcontent⟩ := tagWork_follows (fun _ _ => trivial) (composes_goesOn hR)
  refine ⟨?_, ?_⟩
  · exact
      { connect := fun target => whenReady_founded hR _ (hselection.connect target)
        reconnect := fun target restart => whenReady_founded hR _ (hselection.reconnect target restart) }
  · exact
      { transceive := fun frame buffer => whenReady_founded hR _ (hcontent.transceive frame buffer)
        readNdef := whenReady_founded hR _ hcontent.readNdef
        writeNdef := fun message => whenReady_founded hR _ (hcontent.writeNdef message)
        format := whenReady_founded hR _ hcontent.format
        makeReadOnly := whenReady_founded hR _ hcontent.makeReadOnly }

/-- However a run goes, a request that works on a tag is made only after one was noted. -/
lemma follows_founded (c : Controller σ) : FollowsRuns c (Forgoes kind) (Founded kind) where
  plain := forgoes_plain hkind
  evolves h := h.founded (other_kind hkind rfl)
  trans := Founded.trans
  occupy _ h := founded_occupy h _
  selection _ hR := (founded_tagWork hR).1
  content _ hR := (founded_tagWork hR).2
  routing _ hR := followsRouting hR (fun act _ => forgoes_plain hkind act) (forgoes_routes hkind)
  endpoints _ hR :=
    followsEndpoints hR (founded_tagWork hR).1 (founded_tagWork hR).2 (fun act _ => forgoes_plain hkind act)
      fun _ _ => trivial

end Kinds

end Runs

section Frames

variable {c : Controller σ} {s t u : System σ}

/-- The first request that an operation makes, while nobody else acts. -/
def Begins (c : Controller σ) (request : Request) (op : Op σ α) : Prop :=
  ∀ s, ∃ requests, Asks s (op.run c.alone s).2 (request :: requests)

variable {β : Type} {request : Request} {op : Op σ α}

lemma Begins.bind (h : Begins c request op) {next : α → Op σ β}
    (hn : ∀ a, KeepsTo (fun _ => True) c.alone (next a)) : Begins c request (op >>= next) := by
  intro s
  obtain ⟨first, hfirst⟩ := h s
  obtain ⟨rest, hrest⟩ := (hn (op.run c.alone s).1 (op.run c.alone s).2).asks
  exact ⟨first ++ rest, hfirst.trans hrest⟩

lemma begins_update {f : Host → Host} {next : Unit → Op σ β} (h : ∀ a, Begins c request (next a)) :
    Begins c request (Op.update f >>= next) := by
  intro s
  obtain ⟨requests, hasks⟩ := h () (s.mapHost f)
  exact ⟨requests, hasks⟩

lemma begins_read {f : Host → α} {next : α → Op σ β} (h : ∀ a, Begins c request (next a)) :
    Begins c request (Op.read f >>= next) :=
  fun s => h (f s.host) s

lemma begins_elapse {next : Unit → Op σ β} (h : ∀ a, Begins c request (next a)) :
    Begins c request (Op.elapse >>= next) :=
  fun s => h () s

lemma begins_issue (request : Request) : Begins c request (Op.issue request : Op σ Status) :=
  fun _ => ⟨[], _, rfl, rfl⟩

lemma asks_released {resource : Resource} {requests : List Request} (before : List Resource)
    (h : Asks (s.mapHost (takeResource resource)) t requests) :
    Asks s (c.release (t.mapHost (giveBack before))) requests := by
  have hback : Asks t (t.mapHost (giveBack before)) [] := asks_of_trace_eq rfl
  have hwhole := h.trans (hback.trans (release_adds c _).asks)
  rw [List.append_nil, List.append_nil] at hwhole
  exact hwhole

lemma Begins.reserving (h : Begins c request op) (resource : Resource) :
    Begins c request (Op.reserving resource op) := by
  intro s
  refine reserving_does (R := fun s _ t => ∃ requests, Asks s t (request :: requests)) h ?_ s
  rintro s a t ⟨requests, hasks⟩
  exact ⟨requests, asks_released _ hasks⟩

lemma Begins.holdingField (h : Begins c request op) (bound : Host → UInt64) :
    Begins c request (Op.holdingField bound op) := by
  refine Begins.reserving (begins_read fun outer => ?_) .field
  apply begins_update
  intro _
  exact h.bind fun _ => keepsTo_bind (keepsTo_change (.fieldBound outer) trivial) fun _ => keepsTo_pure _

lemma exchange_begins (frame : Bytes) : Begins c (.sendFrame frame) (Tag.exchange frame) := by
  have ho : Orderly (fun _ => True) c.alone := orderly_alone _ c
  have hwaits : AllowsWaits fun _ => True := fun _ _ => trivial
  have hdisarm : KeepsTo (fun _ => True) c.alone
      (Op.update (Venue.transceive.map .disarm) : Op σ Unit) := keepsTo_waits hwaits fun _ => rfl
  refine begins_update fun _ => begins_elapse fun _ => begins_update fun _ => begins_elapse fun _ => ?_
  refine (begins_issue _).bind fun verdict => ?_
  split
  · refine keepsTo_bind (keepsTo_await ho hwaits fun _ _ => rfl) fun _ => ?_
    refine keepsTo_bind (keepsTo_read _) fun _ => ?_
    exact keepsTo_bind (keepsTo_change (.session .clearReceived) trivial) fun _ => keepsTo_pure _
  · exact keepsTo_bind hdisarm fun _ => keepsTo_pure _

/-- Where any tag is there a frame is sent. -/
lemma transceive_begins (frame buffer : Bytes) (s : System σ) (hready : s.host.flags.tagReady = true) :
    ∃ requests, Asks s ((Tag.transceive frame buffer).run c.alone s).2 (.sendFrame frame :: requests) := by
  have hR : Composes (fun _ => True) c.alone (Evolves c fun _ => True) := (orderly_alone _ c).composes
  have hs := followsSelection hR fun _ _ => trivial
  unfold Tag.transceive
  rw [whenReady_run, if_pos hready]
  refine begins_update (fun _ => ?_) s
  refine Begins.bind (Begins.holdingField (begins_read fun connection => ?_) _) fun answer => ?_
  · refine (exchange_begins frame).bind fun first => ?_
    split
    · split
      · exact recover_along hR hs (fun _ _ => trivial) _ frame first
      · exact keepsTo_pure _
    · exact keepsTo_pure _
  · exact keepsTo_bind (keepsTo_change (.session (.inTransceive false)) trivial) fun _ => keepsTo_pure _

/-- A frame is sent first if some tag is there, and otherwise nothing is asked for. -/
def SendsIfReady (frame : Bytes) (s : System σ) (_ : Status × Bytes) (t : System σ) : Prop :=
  (s.host.flags.tagReady = true → ∃ requests, Asks s t (.sendFrame frame :: requests)) ∧
    (¬s.host.flags.tagReady = true → Asks s t [])

lemma transceive_sends (frame buffer : Bytes) (s : System σ) :
    SendsIfReady frame s ((Tag.transceive frame buffer).run c.alone s).1
      ((Tag.transceive frame buffer).run c.alone s).2 := by
  refine ⟨transceive_begins frame buffer s, fun hready => ?_⟩
  unfold Tag.transceive
  rw [whenReady_run, if_neg hready]
  exact asks_of_trace_eq rfl

lemma reserving_sends (frame buffer : Bytes) (resource : Resource) (s : System σ) :
    SendsIfReady frame s ((Op.reserving resource (Tag.transceive frame buffer)).run c.alone s).1
      ((Op.reserving resource (Tag.transceive frame buffer)).run c.alone s).2 := by
  refine reserving_does (transceive_sends frame buffer) (fun s answer t hop => ?_) s
  refine ⟨fun hready => ?_, fun hready => asks_released _ (hop.2 hready)⟩
  obtain ⟨requests, hasks⟩ := hop.1 hready
  exact ⟨requests, asks_released _ hasks⟩

/-- An endpoint, whatever tag it was made for, sends a frame exactly if some tag is there. -/
lemma endpoint_sends_iff (number : Nat) (frame buffer : Bytes) (s : System σ) :
    (∃ requests, Asks s (((EndpointCall.transceive frame buffer).run number).run c.alone s).2
      (.sendFrame frame :: requests)) ↔ s.host.flags.tagReady = true := by
  have hsends := reserving_sends (c := c) frame buffer (.endpoint number) s
  constructor
  · rintro ⟨requests, hasks⟩
    by_contra hready
    exact absurd (hasks.made.symm.trans (hsends.2 hready).made) nofun
  · exact hsends.1

end Frames

section Departures

/-- Nobody sends a frame past the tag session. -/
def Refrains (companions : List (Companion σ)) (deeds : List Deed) : Prop :=
  (∀ companion ∈ companions, companion.Within (Forgoes worksOnTag)) ∧
    ∀ deed ∈ deeds, deed.Within (Forgoes worksOnTag)

/-- What is no frame is never asked for past the tag session. -/
lemma deed_altersNothing (deed : Deed) :
    deed.Within (Forgoes fun request => worksOnTag request && !isFrame request) :=
  deed.within (fun _ => trivial) (fun _ => rfl) fun _ => trivial

lemma ran_founded (c : Controller σ) (companions : List (Companion σ)) (config : Config) (x : σ)
    (deeds later : List Deed) {kind : Request → Bool}
    (hkind : ∀ request, kind request = true → worksOnTag request = true)
    (hw : ∀ companion ∈ companions, companion.Within (Forgoes kind))
    (hd : ∀ deed ∈ later, deed.Within (Forgoes kind)) :
    Founded kind (ran c companions config x deeds) (ran c companions config x (deeds ++ later)) := by
  rw [ran_append]
  exact (follows_founded hkind c).runs companions hw later hd _

/-- Once the field was reported empty, and until another tag is noted, no operation that begins then works
on a tag, whoever else acts and whatever the controller answers; only frames can still be sent past the
session. From then on an endpoint of any former tag works on the one that is there: it sends a frame
exactly if there is one. -/
theorem departed_tag_unreached (c : Controller σ) (companions : List (Companion σ)) (config : Config)
    (x : σ) (deeds later : List Deed) :
    let s := ran c companions config x deeds
    let t := ran c companions config x (deeds ++ later)
    ((sinceLast reportsEmpty s.trace).any notesTag = false →
      ∀ entry ∈ beforeTag (t.trace.drop s.trace.length), ∀ request verdict,
        entry.passage = .request .caller request verdict → worksOnTag request = true →
          isFrame request = true ∧ ¬Refrains companions later) ∧
      ∀ number frame buffer,
        (∃ requests, Asks t (((EndpointCall.transceive frame buffer).run number).run c.alone t).2
          (.sendFrame frame :: requests)) ↔ t.host.flags.tagReady = true := by
  intro s t
  refine ⟨fun hgone entry hentry request verdict hpassage hworks => ?_, fun number frame buffer =>
    endpoint_sends_iff number frame buffer t⟩
  obtain ⟨-, -, hattended⟩ := ran_at_rest c companions config x deeds
  have hnone : s.host.flags.tagActive = false := by
    by_contra hset
    obtain ⟨noted, hmem, hnotes⟩ := (ran_marks c companions config x deeds).1 (eq_true_of_ne_false hset)
    exact List.any_eq_false.mp hgone noted hmem hnotes
  -- A request of a kind that nobody makes past the session is not among those before a tag.
  have hfounded {kind : Request → Bool} (h : Founded kind s t) : kind request = false := by
    obtain ⟨-, new, htrace, hnew⟩ := h hattended.not_session
    have hsince : t.trace.drop s.trace.length = new := trace_since htrace
    have hasks := (hnew hnone).2 entry (hsince ▸ hentry)
    rw [asksFor, hpassage] at hasks
    exact hasks
  constructor
  · have hother := hfounded (ran_founded c companions config x deeds later
      (fun request h => (Bool.and_eq_true _ _ ▸ h).1)
      (fun companion _ => within_of_all deed_altersNothing companion) fun deed _ => deed_altersNothing deed)
    rw [hworks, Bool.true_and, Bool.not_eq_false'] at hother
    exact hother
  · rintro ⟨hw, hd⟩
    have hrefrained := hfounded (ran_founded c companions config x deeds later (fun _ => id) hw hd)
    rw [hworks] at hrefrained
    exact absurd hrefrained.symm Bool.false_ne_true

/-- A card was discovered, and then the field was reported empty. -/
def cardGone : List Deed := firstBringUp ++
  [.move (.event (.activated (Sample.isoDepCard 1))), .move (.event (.deactivated false))]

/-- The endpoint of the card is asked to send a frame, to write and to lock. -/
def handlesCard : List Deed :=
  [.move (.call (.endpoint (some 0) (.transceive [0x30, 0x00] []))),
    .move (.call (.endpoint (some 0) (.writeNdef []))),
    .move (.call (.endpoint (some 0) .makeReadOnly))]

theorem gone_card_unreached :
    let s := ran Script.controller [] {} {} cardGone
    let t := ran Script.controller [] {} {} (cardGone ++ handlesCard)
    (sinceLast reportsEmpty s.trace).any notesTag = false ∧
      ∀ entry ∈ beforeTag (t.trace.drop s.trace.length), ∀ request verdict,
        entry.passage = .request .caller request verdict → worksOnTag request = false := by
  have hgone : (sinceLast reportsEmpty (ran Script.controller [] {} {} cardGone).trace).any notesTag = false :=
    rfl
  refine ⟨hgone, fun entry hentry request verdict hpassage => ?_⟩
  have hrefrains : Refrains ([] : List (Companion Script)) handlesCard := by
    refine ⟨fun _ => nofun, fun deed hdeed => ?_⟩
    simp only [handlesCard, List.mem_cons, List.not_mem_nil, or_false] at hdeed
    rcases hdeed with rfl | rfl | rfl
    · exact fun _ => nofun
    · exact fun _ => nofun
    · exact fun _ => nofun
  by_contra hworks
  have hframe := (departed_tag_unreached Script.controller [] {} {} cardGone handlesCard).1 hgone entry hentry
    request verdict hpassage (eq_true_of_ne_false hworks)
  exact hframe.2 hrefrains

/-- When another card came, the endpoint of the first one sends it frames, writes to it and locks it. -/
theorem next_card_reached :
    let gone := ran Script.controller [] {} {} cardGone
    let s := afterDeeds Script.controller [.move (.event (.activated (Sample.ultralight 2)))] gone
    let t := afterDeeds Script.controller handlesCard s
    gone.host.endpoints.map (·.uid) = [[0x04, 0x5a, 0x31, 0x22, 0x7c, 0x10, 0x80]] ∧
      sinceLast reportsEmpty gone.trace = [] ∧
      s.host.endpoints.map (·.uid) =
        [[0x04, 0x5a, 0x31, 0x22, 0x7c, 0x10, 0x80], [0x04, 0x11, 0x22, 0x33, 0x44, 0x55, 0x66]] ∧
      callerRequests (t.trace.drop s.trace.length) =
        [.sendFrame [0x30, 0x00], .writeNdef Tag.emptyMessage, .lock true] :=
  ⟨rfl, rfl, rfl, rfl⟩

end Departures

end NfcStack.Proofs
