import NfcStack.Proofs.Arrivals
import NfcStack.Proofs.FrameRepeats

/-!
# Answers to frames

The answer to a frame is made of what arrives while its exchange waits. What came before, a late answer or
bytes that nobody asked for, lies in the same buffer, but the buffer is emptied before the frame is sent, and
nothing else that a delivery leaves behind is read by the exchange.
-/

namespace NfcStack.Proofs

variable {σ : Type} {c : Controller σ} {s t : System σ}

section Alikeness

/-- Two systems that differ in nothing but what passed before. -/
def Alike (s t : System σ) : Prop := ∃ trace, t = { s with trace }

namespace Alike

lemma symm (h : Alike s t) : Alike t s := by
  obtain ⟨trace, rfl⟩ := h
  exact ⟨s.trace, rfl⟩

lemma trans {u : System σ} (h₁ : Alike s t) (h₂ : Alike t u) : Alike s u := by
  obtain ⟨trace, rfl⟩ := h₁
  obtain ⟨trace', rfl⟩ := h₂
  exact ⟨trace', rfl⟩

lemma host (h : Alike s t) : t.host = s.host := by
  obtain ⟨trace, rfl⟩ := h
  rfl

lemma mapHost (h : Alike s t) (f : Host → Host) : Alike (s.mapHost f) (t.mapHost f) := by
  obtain ⟨trace, rfl⟩ := h
  exact ⟨trace, rfl⟩

lemma record (h : Alike s t) (passage : Passage) : Alike (s.record passage) (t.record passage) := by
  obtain ⟨trace, rfl⟩ := h
  exact ⟨_, rfl⟩

lemma notify (h : Alike s t) (notification : Notification) :
    Alike (s.notify notification) (t.notify notification) := by
  obtain ⟨trace, rfl⟩ := h
  unfold System.notify
  dsimp only
  split
  · exact ⟨_, rfl⟩
  · exact ⟨_, rfl⟩

lemma announce (h : Alike s t) (endpoint : Endpoint) :
    Alike (s.announce endpoint) (t.announce endpoint) := by
  obtain ⟨trace, rfl⟩ := h
  unfold System.announce
  dsimp only
  split
  · exact ⟨_, rfl⟩
  · exact ⟨_, rfl⟩

/-- A controller knows nothing of the trace. -/
lemma issue (h : Alike s t) (c : Controller σ) (origin : Origin) (request : Request) :
    (c.issue origin request t).1 = (c.issue origin request s).1 ∧
      Alike (c.issue origin request s).2 (c.issue origin request t).2 := by
  obtain ⟨trace, rfl⟩ := h
  exact ⟨rfl, _, rfl⟩

lemma failure (h : Alike s t) (c : Controller σ) : Alike (c.reactToFailure s) (c.reactToFailure t) := by
  obtain ⟨trace, rfl⟩ := h
  unfold Controller.reactToFailure
  dsimp only [System.mapHost]
  split
  · exact ⟨_, rfl⟩
  · exact ⟨_, rfl⟩

lemma activation (h : Alike s t) (act : Activation) :
    Alike (Controller.reactToActivation act s) (Controller.reactToActivation act t) := by
  obtain ⟨trace, rfl⟩ := h
  unfold Controller.reactToActivation
  dsimp only [System.mapHost]
  split
  · exact ⟨_, rfl⟩
  · split
    · exact ⟨_, rfl⟩
    · split
      · exact ⟨_, rfl⟩
      · exact announce ⟨_, rfl⟩ _

lemma notice (h : Alike s t) (c : Controller σ) (notice : DiscoveryNotice) :
    Alike (c.reactToNotice notice s) (c.reactToNotice notice t) := by
  obtain ⟨trace, rfl⟩ := h
  unfold Controller.reactToNotice
  dsimp only [System.mapHost]
  split
  · exact ⟨_, rfl⟩
  · split
    · split
      · exact ⟨_, rfl⟩
      · exact ⟨_, rfl⟩
    · exact ⟨_, rfl⟩

lemma pipe (h : Alike s t) (c : Controller σ) (pipe code : UInt8) (payload : Bytes) :
    Alike (c.reactToPipe pipe code payload s) (c.reactToPipe pipe code payload t) := by
  obtain ⟨trace, rfl⟩ := h
  unfold Controller.reactToPipe
  dsimp only
  split
  · by_cases hfamily : (OffHostTransaction.family? s.host.config.pipes pipe).isSome = true
    · rw [if_pos hfamily, if_pos hfamily]
      have hqueried : Alike (c.queryNfcees .reaction s).2
          (c.queryNfcees .reaction { s with trace }).2 := ⟨_, rfl⟩
      dsimp only [Controller.queryNfcees, System.record]
      split
      · exact hqueried.notify _
      · exact hqueried
    · rw [if_neg hfamily, if_neg hfamily]
      dsimp only
      split
      · exact notify ⟨_, rfl⟩ _
      · exact ⟨_, rfl⟩
  · exact ⟨_, rfl⟩

lemma cardData (h : Alike s t) (status : Status) (bytes : Bytes) :
    Alike (Controller.reactToCardData status bytes s) (Controller.reactToCardData status bytes t) := by
  obtain ⟨trace, rfl⟩ := h
  unfold Controller.reactToCardData
  dsimp only
  split
  · exact notify ⟨_, rfl⟩ _
  · exact ⟨_, rfl⟩

lemma react (h : Alike s t) (c : Controller σ) (event : Event) :
    Alike (c.react event s) (c.react event t) := by
  have hsilent (f : System σ → System σ) (hf : ∀ s trace, f { s with trace } = { f s with trace }) :
      Alike (f s) (f t) := by
    obtain ⟨trace, rfl⟩ := h
    exact ⟨trace, hf s trace⟩
  cases event with
  | field status on =>
    change Alike (if status.isOk then _ else _) (if status.isOk then _ else _)
    split
    · exact h.notify _
    · exact h
  | transportError => exact h.failure c
  | controllerTimeout => exact h.failure c
  | activated act => exact h.activation act
  | deactivated sleep => cases sleep <;> exact hsilent (c.react (.deactivated _)) fun _ _ => rfl
  | discovered status notice =>
    change Alike (if status.isOk then _ else _) (if status.isOk then _ else _)
    split
    · exact h.notice c notice
    · exact h
  | nfceesAnnounced status announced => exact (h.mapHost _).notify _
  | cardActivated protocol => exact (h.mapHost _).notify _
  | cardDeactivated => exact (h.mapHost _).notify _
  | cardData status bytes => exact h.cardData status bytes
  | hciReceived pipe code payload => exact h.pipe c pipe code payload
  | _ => exact hsilent (c.react _) fun _ _ => rfl

lemma reactAlone (h : Alike s t) (c : Controller σ) (event : Event) :
    Alike (c.reactAlone event s) (c.reactAlone event t) := by
  cases event with
  | discovered status notice =>
    change Alike (if status.isOk then _ else _) (if status.isOk then _ else _)
    split
    · exact h.notice c notice
    · exact h
  | _ => exact h.mapHost _

lemma deliver (h : Alike s t) (c : Controller σ) (happening : Happening) :
    Alike (c.deliver happening s) (c.deliver happening t) := by
  have hreceiver : t.receiver = s.receiver := by
    obtain ⟨trace, rfl⟩ := h
    rfl
  cases happening with
  | abortAll => exact h.mapHost _
  | abortSession => exact h.mapHost _
  | event event =>
    unfold Controller.deliver
    dsimp only
    rw [hreceiver]
    cases s.receiver with
    | nobody => exact h
    | host => exact (h.record _).react c event
    | session => exact (h.record _).reactAlone c event

lemma takeIn (h : Alike s t) (c : Controller σ) (happenings : List Happening) :
    Alike (c.takeIn happenings s) (c.takeIn happenings t) := by
  induction happenings generalizing s t with
  | nil => exact h
  | cons first rest ih =>
    have hlate : t.late = s.late := by
      obtain ⟨trace, rfl⟩ := h
      rfl
    unfold Controller.takeIn
    rw [hlate]
    split
    · obtain ⟨trace, rfl⟩ := h
      exact ⟨trace, rfl⟩
    · exact ih (h.deliver c first)

lemma round (h : Alike s t) (c : Controller σ) : Alike (c.round s) (c.round t) := by
  obtain ⟨trace, rfl⟩ := h
  exact takeIn ⟨trace, rfl⟩ c s.queue

lemma attend (h : Alike s t) (c : Controller σ) : Alike (c.attend s) (c.attend t) := (h.round c).round c

lemma pass (h : Alike s t) (c : Controller σ) :
    Alike ((Op.pass : Op σ Unit).run c.alone s).2 ((Op.pass : Op σ Unit).run c.alone t).2 := by
  have hlate (late : Option LateNotice) : Alike { s with late } { t with late } := by
    obtain ⟨trace, rfl⟩ := h
    exact ⟨trace, rfl⟩
  have hsame : t.late = s.late := by
    obtain ⟨trace, rfl⟩ := h
    rfl
  have hbound : t.host.fieldBound = s.host.fieldBound := by rw [h.host]
  change Alike (Op.pass c.alone s).2 (Op.pass c.alone t).2
  unfold Op.pass
  rw [hsame]
  split
  · exact h.attend c
  · rw [hbound]
    split
    · exact hlate _
    · exact (hlate none).attend c

/-- A request with its wait comes to the same in systems that are alike. -/
lemma exchange {α : Type} (h : Alike s t) (c : Controller σ) (venue : Venue α) (request : Request) :
    (exchange c venue request t).verdict = (exchange c venue request s).verdict ∧
      Alike (exchange c venue request s).ended (exchange c venue request t).ended := by
  obtain ⟨hverdict, hasked⟩ := (h.mapHost (venue.map .arm)).issue c .caller request
  refine ⟨hverdict, ?_⟩
  change Alike
    (if (c.issue .caller request (s.mapHost (venue.map .arm))).1.isOk then _ else _)
    (if (c.issue .caller request (t.mapHost (venue.map .arm))).1.isOk then _ else _)
  rw [hverdict]
  split
  · exact hasked.pass c
  · exact hasked

/-- The same arrives in systems that are alike. -/
lemma takenIn (h : Alike s t) (c : Controller σ) (happenings : List Happening) :
    takenIn c happenings t = takenIn c happenings s := by
  induction happenings generalizing s t with
  | nil => rfl
  | cons first rest ih =>
    have hlate : t.late = s.late := by
      obtain ⟨trace, rfl⟩ := h
      rfl
    have hreceiver : t.receiver = s.receiver := by
      obtain ⟨trace, rfl⟩ := h
      rfl
    unfold Proofs.takenIn
    rw [hlate, hreceiver, h.host, ih (h.deliver c first)]

lemma arrivalsOfRound (h : Alike s t) (c : Controller σ) :
    arrivalsOfRound c t = arrivalsOfRound c s := by
  obtain ⟨trace, rfl⟩ := h
  have hempty : Alike { s with queue := [] } { s with queue := [], trace } := ⟨trace, rfl⟩
  exact hempty.takenIn c s.queue

lemma arrivalsOfWait (h : Alike s t) (c : Controller σ) : arrivalsOfWait c t = arrivalsOfWait c s := by
  have hattend {s t : System σ} (h : Alike s t) : arrivalsOfAttend c t = arrivalsOfAttend c s := by
    unfold arrivalsOfAttend
    rw [h.arrivalsOfRound, (h.round c).arrivalsOfRound]
  obtain ⟨trace, rfl⟩ := h
  unfold Proofs.arrivalsOfWait
  dsimp only
  split
  · exact hattend ⟨trace, rfl⟩
  · split
    · rfl
    · exact hattend ⟨trace, rfl⟩

lemma arrivalsOf {α : Type} (h : Alike s t) (c : Controller σ) (venue : Venue α) (request : Request) :
    arrivalsOf c (Proofs.exchange c venue request t) = arrivalsOf c (Proofs.exchange c venue request s) := by
  obtain ⟨hverdict, hasked⟩ := (h.mapHost (venue.map .arm)).issue c .caller request
  change (if (c.issue .caller request (t.mapHost (venue.map .arm))).1.isOk then
      Proofs.arrivalsOfWait c (c.issue .caller request (t.mapHost (venue.map .arm))).2 else []) =
    (if (c.issue .caller request (s.mapHost (venue.map .arm))).1.isOk then
      Proofs.arrivalsOfWait c (c.issue .caller request (s.mapHost (venue.map .arm))).2 else [])
  rw [hverdict, hasked.arrivalsOfWait]

end Alike

end Alikeness

section Frames

/-- The system in which a frame is sent. -/
def emptied (s : System σ) : System σ :=
  s.mapHost (Host.mapSession fun session => { session with received := [] })

/-- The exchange of a frame. -/
def frameExchange (c : Controller σ) (frame : Bytes) (s : System σ) : Exchange σ :=
  exchange c Venue.transceive (.sendFrame frame) (emptied s)

lemma exchange_alone (c : Controller σ) (frame : Bytes) (s : System σ) :
    (Tag.exchange frame).run c.alone s =
      let x := frameExchange c frame s
      if x.verdict.isOk then
        (((Venue.transceive.view x.ended.host).outcome.status, x.ended.host.session.received),
          emptied (x.ended.mapHost (Venue.transceive.map .disarm)))
      else ((x.verdict, []), x.ended.mapHost (Venue.transceive.map .disarm)) := by
  let asked := c.issue .caller (.sendFrame frame) ((emptied s).mapHost (Venue.transceive.map .arm))
  have hx : frameExchange c frame s =
      { verdict := asked.1
        asked := asked.2
        ended := if asked.1.isOk then ((Op.pass : Op σ Unit).run c.alone asked.2).2 else asked.2 } := rfl
  have hrun : (Tag.exchange frame).run c.alone s =
      (if asked.1.isOk then do
          let outcome ← Op.await Venue.transceive
          let response ← Op.read (·.session.received)
          Op.updateSession fun session => { session with received := [] }
          return (outcome.status, response)
        else do
          Op.update (Venue.transceive.map .disarm)
          return (asked.1, []) : Op σ (Status × Bytes)).run c.alone asked.2 := rfl
  rw [hrun, hx]
  by_cases hok : asked.1.isOk = true
  · simp only [hok, if_true]
    rfl
  · simp only [hok]
    rfl

end Frames

section Histories

/-- What answers leave behind: bytes in the buffer, and a wait that may have ended. -/
def LeftBehind (s t : System σ) : Prop :=
  ∃ received transceive trace, t =
    { s with host := s.host.mapSession (fun session => { session with received, transceive }), trace }

lemma LeftBehind.trans {u : System σ} (h₁ : LeftBehind s t) (h₂ : LeftBehind t u) : LeftBehind s u := by
  obtain ⟨received, transceive, trace, rfl⟩ := h₁
  obtain ⟨received', transceive', trace', rfl⟩ := h₂
  exact ⟨received', transceive', trace', rfl⟩

/-- An exchange finds none of what answers left behind. -/
lemma LeftBehind.sameExchange (h : LeftBehind s t) (c : Controller σ) (frame : Bytes) :
    ((Tag.exchange frame).run c.alone t).1 = ((Tag.exchange frame).run c.alone s).1 ∧
      Alike ((Tag.exchange frame).run c.alone s).2 ((Tag.exchange frame).run c.alone t).2 := by
  let opened (s : System σ) : System σ := (emptied s).mapHost (Venue.transceive.map .arm)
  -- Arming the venue once more changes nothing, so the exchange of an opened system is the same exchange.
  have hsame (s : System σ) : frameExchange c frame s =
      exchange c Venue.transceive (.sendFrame frame) (opened s) := rfl
  have hopened : Alike (opened s) (opened t) := by
    obtain ⟨received, transceive, trace, rfl⟩ := h
    exact ⟨trace, rfl⟩
  obtain ⟨hverdict, hended⟩ := hopened.exchange c Venue.transceive (.sendFrame frame)
  rw [← hsame, ← hsame] at hverdict hended
  rw [exchange_alone, exchange_alone]
  dsimp only
  rw [hverdict, hended.host]
  split
  · exact ⟨rfl, (hended.mapHost _).mapHost _⟩
  · exact ⟨rfl, hended.mapHost _⟩

/-- The last exchange of a frame is that of systems that are alike. -/
lemma lastExchange_alike (c : Controller σ) (connection : Option Connection) (frame : Bytes)
    {first other : (Status × Bytes) × System σ} (hanswer : other.1 = first.1) (h : Alike first.2 other.2) :
    (lastExchange c.alone connection frame other).1 = (lastExchange c.alone connection frame first).1 := by
  have hleft : LeftBehind first.2 other.2 := by
    obtain ⟨trace, htrace⟩ := h
    exact ⟨_, _, trace, htrace⟩
  unfold lastExchange
  rw [hanswer]
  split
  · exact (hleft.sameExchange c frame).1
  · exact hanswer

/-- The system in which a frame of the caller is sent: the exchange is marked, and the radio field held. -/
def exchanging (s : System σ) : System σ :=
  entered Host.exchangeBound (s.mapHost (Change.apply (.session (.inTransceive true))))

lemma LeftBehind.inExchange (h : LeftBehind s t) : LeftBehind (exchanging s) (exchanging t) := by
  let marked (u : System σ) : System σ := u.mapHost (Change.apply (.session (.inTransceive true)))
  have hmarked : LeftBehind (marked s) (marked t) := by
    obtain ⟨received, transceive, trace, rfl⟩ := h
    exact ⟨received, transceive, trace, rfl⟩
  change LeftBehind (entered Host.exchangeBound (marked s)) (entered Host.exchangeBound (marked t))
  generalize marked s = first at hmarked
  generalize marked t = other at hmarked
  have huses : other.host.usesField = first.host.usesField := by
    obtain ⟨received, transceive, trace, rfl⟩ := hmarked
    rfl
  by_cases hused : first.host.usesField = true
  · rw [entered_held _ hused, entered_held _ (huses.trans hused)]
    obtain ⟨received, transceive, trace, rfl⟩ := hmarked
    exact ⟨received, transceive, trace, rfl⟩
  · rw [entered_free _ hused, entered_free _ (by rw [huses]; exact hused)]
    obtain ⟨received, transceive, trace, rfl⟩ := hmarked
    exact ⟨received, transceive, trace, rfl⟩

/-- With a tag in the field the answer to a frame is that of its last exchange. -/
lemma transceive_answer (c : Controller σ) (frame buffer : Bytes) (s : System σ)
    (hready : s.host.flags.tagReady = true) :
    ((Tag.transceive frame buffer).run c.alone s).1 =
      (lastExchange c.alone (exchanging s).host.session.connection frame
        ((Tag.exchange frame).run c.alone (exchanging s))).1 := by
  have hrun : (Procedure.transceive frame buffer .done).run.run c.alone s =
      (Tag.transceive frame buffer).run c.alone s :=
    congrFun (congrFun (Procedure.run_transceive frame buffer .done) c.alone) s
  obtain ⟨hfirst, -⟩ := Procedure.transceive_gives c.alone s frame buffer hready
  rw [Procedure.heldFrom_alone] at hfirst
  rw [← hrun, hfirst]
  exact (Procedure.lookAfter_gives c.alone _ _ frame _).1

lemma LeftBehind.transceive (h : LeftBehind s t) (c : Controller σ) (frame buffer : Bytes) :
    ((Tag.transceive frame buffer).run c.alone t).1 =
      ((Tag.transceive frame buffer).run c.alone s).1 := by
  have hflags : t.host.flags = s.host.flags := by
    obtain ⟨received, transceive, trace, rfl⟩ := h
    rfl
  by_cases hready : s.host.flags.tagReady = true
  · have hexchanging := h.inExchange
    have hconnection : (exchanging t).host.session.connection =
        (exchanging s).host.session.connection := by
      obtain ⟨received, transceive, trace, hleft⟩ := hexchanging
      rw [hleft]
      rfl
    obtain ⟨hanswer, halike⟩ := hexchanging.sameExchange c frame
    rw [transceive_answer c frame buffer s hready,
      transceive_answer c frame buffer t (by rw [hflags]; exact hready), hconnection]
    exact lastExchange_alike c _ frame hanswer halike
  · unfold Tag.transceive
    rw [whenReady_run, whenReady_run, hflags, if_neg hready, if_neg hready]

end Histories

end NfcStack.Proofs
