import NfcStack.Proofs.OwnRequests

/-!
# Repeated frames

A tag under MIFARE answers a frame that it refuses with one byte. The frame is then sent once more, unless
it authenticates, and a tag that refuses the last frame is selected anew. There is never a third frame.
-/

namespace NfcStack.Proofs

variable {σ : Type}

section Refusals

/-- An answer of one byte that is not zero. -/
def Refuses (response : Bytes) : Prop := ∃ byte, response = [byte] ∧ byte ≠ 0

lemma isRefusal_iff (response : Bytes) : Tag.isRefusal response = true ↔ Refuses response := by
  unfold Tag.isRefusal Refuses
  cases response with
  | nil => simp
  | cons byte rest => cases rest <;> simp

instance (response : Bytes) : Decidable (Refuses response) :=
  decidable_of_iff _ (isRefusal_iff response)

/-- A frame that begins an authentication with either key. -/
def Authenticates (frame : Bytes) : Prop := ∃ rest, frame = 0x60 :: rest ∨ frame = 0x61 :: rest

lemma isAuthentication_iff (frame : Bytes) :
    Tag.isAuthentication frame = true ↔ Authenticates frame := by
  unfold Tag.isAuthentication Authenticates
  cases frame with
  | nil => simp
  | cons byte rest => simp [exists_or]

instance (frame : Bytes) : Decidable (Authenticates frame) :=
  decidable_of_iff _ (isAuthentication_iff frame)

/-- The target that is selected anew when a frame is refused for good: the one of a connection under
MIFARE, and none of another connection. -/
def anew? : Option Connection → Option Connection
  | some target =>
    if target.protocol = Protocol.mifare then some ⟨target.handle, Protocol.mifare, .mifareClassic⟩
    else none
  | none => none

/-- A frame is sent a second time if the tag may refuse it, it does not authenticate, and its first answer
is a refusal. -/
def Repeats (connection : Option Connection) (frame response : Bytes) : Prop :=
  (anew? connection).isSome = true ∧ ¬Authenticates frame ∧ Refuses response

instance (connection : Option Connection) (frame response : Bytes) :
    Decidable (Repeats connection frame response) :=
  inferInstanceAs (Decidable (_ ∧ _ ∧ _))

lemma anew_eq_none {connection : Option Connection}
    (h : ∀ target ∈ connection, target.protocol ≠ Protocol.mifare) : anew? connection = none := by
  cases connection with
  | none => rfl
  | some target => exact if_neg (h target rfl)

lemma not_repeats {connection : Option Connection} {frame response : Bytes}
    (h : anew? connection = none) : ¬Repeats connection frame response := by
  rintro ⟨hsome, -⟩
  rw [h] at hsome
  exact Bool.noConfusion hsome

/-- What is asked of the controller after the last answer to a frame. -/
def selectsAnew (env : Environment σ) (t : System σ) (connection : Option Connection)
    (response : Bytes) : List Request :=
  match anew? connection with
  | some target =>
    if Refuses response then (Procedure.reconnect target true .done).requests env t else []
  | none => []

/-- The last exchange of a frame, given the first. -/
def lastExchange (env : Environment σ) (connection : Option Connection) (frame : Bytes)
    (first : (Status × Bytes) × System σ) : (Status × Bytes) × System σ :=
  if Repeats connection frame first.1.2 then (Tag.exchange frame).run env first.2 else first

end Refusals

namespace Procedure

section Reselections

variable (env : Environment σ) (s : System σ) (target : Connection)

lemma reselect_requests :
    (reselect target).requests env s <+: [selectionRequest target, .deactivate false] := by
  let armed := s.mapHost (Venue.activated.map .arm)
  have hcall : ∃ made, (reselect target).requests env s = selectionRequest target :: made ∧
      made <+: [.deactivate false] := by
    change ∃ made, (call .select _ _ _).requests env armed = _ ∧ _
    apply requests_call
    intro outcome t
    cases outcome with
    | completed status =>
      cases status with
      | ok =>
        let woken := (Op.await Venue.activated).run env t
        change (if woken.1.isCompleted = true then alter _ (done true) else done false :
          Procedure Bool).requests env woken.2 <+: _
        split
        · exact List.nil_prefix
        · exact List.nil_prefix
      | _ => exact List.nil_prefix
    | timedOut => exact List.prefix_refl _
    | _ => exact List.nil_prefix
  obtain ⟨made, hmade, hprefix⟩ := hcall
  rw [hmade, List.prefix_cons_inj]
  exact hprefix

lemma sleepAndSelect_requests :
    ∃ made, (sleepAndSelect target).requests env s = .deactivate true :: made ∧
      made <+: [selectionRequest target, .deactivate false] := by
  unfold sleepAndSelect
  apply requests_call
  intro outcome t
  cases outcome with
  | rejected status => exact List.nil_prefix
  | _ => exact reselect_requests env t target

/-- A reconnection asks for the same whatever comes after it, as long as that asks for nothing. -/
lemma reconnect_requests {α : Type} (next : Bool → Procedure α)
    (hnext : ∀ result t, (next result).requests env t = []) :
    (reconnect target true next).requests env s =
      if s.host.flags.tagReady then
        (sleepAndSelect target).requests env (heldFrom env Host.waitBound s)
      else [] := by
  unfold reconnect onTag
  rw [requests_ifReady, requests_holding, hnext, hnext, List.append_nil]
  rfl

/-- A reconnection that is a restart asks for nothing without a tag. With one it puts the tag to sleep,
and goes no further than to select the target and to let go of it. -/
lemma restart_requests :
    ((reconnect target true .done).requests env s = [] ↔ s.host.flags.tagReady = false) ∧
      (reconnect target true .done).requests env s <+:
        [.deactivate true, selectionRequest target, .deactivate false] := by
  rw [reconnect_requests env s target .done fun _ _ => rfl]
  obtain ⟨made, hmade, hprefix⟩ :=
    sleepAndSelect_requests env (heldFrom env Host.waitBound s) target
  by_cases hready : s.host.flags.tagReady = true
  · rw [if_pos hready, hmade, List.prefix_cons_inj]
    simp [hready, hprefix]
  · rw [if_neg hready]
    simp [hready]

end Reselections

section Frames

variable (env : Environment σ) (s : System σ)

lemma selectsAnew_accepted {connection : Option Connection} {response : Bytes}
    (h : ¬Refuses response) : selectsAnew env s connection response = [] := by
  unfold selectsAnew
  split
  · exact if_neg h
  · rfl

lemma concede_gives (target : Connection) (h : target.protocol = Protocol.mifare)
    (last : Status × Bytes) :
    ((concede target.handle last).run.run env s).1 = last ∧
      (concede target.handle last).requests env s = selectsAnew env s (some target) last.2 := by
  have hanew : anew? (some target) = some ⟨target.handle, Protocol.mifare, .mifareClassic⟩ := if_pos h
  unfold concede
  by_cases hrefuses : Refuses last.2
  · rw [if_pos ((isRefusal_iff _).mpr hrefuses)]
    have hrequests : selectsAnew env s (some target) last.2 =
        (reconnect ⟨target.handle, Protocol.mifare, .mifareClassic⟩ true .done).requests env s := by
      unfold selectsAnew
      rw [hanew]
      exact if_pos hrefuses
    rw [hrequests, reconnect_requests env s _ _ fun _ _ => rfl,
      reconnect_requests env s _ _ fun _ _ => rfl, run_reconnect]
    exact ⟨rfl, rfl⟩
  · rw [if_neg (mt (isRefusal_iff _).mp hrefuses), selectsAnew_accepted env s hrefuses]
    exact ⟨rfl, rfl⟩

/-- A tag under MIFARE that answered a frame is sent it again if need be, and selected anew if it refuses
the last one. -/
lemma recover_gives (target : Connection) (h : target.protocol = Protocol.mifare) (frame : Bytes)
    (first : Status × Bytes) :
    let last := lastExchange env (some target) frame (first, s)
    ((recover target.handle frame first).run.run env s).1 = last.1 ∧
      (recover target.handle frame first).requests env s =
        (if Repeats (some target) frame first.2 then [.sendFrame frame] else []) ++
          selectsAnew env last.2 (some target) last.1.2 := by
  have hanew : (anew? (some target)).isSome = true := by
    rw [anew?, if_pos h]
    rfl
  unfold recover lastExchange
  by_cases hrefuses : Refuses first.2
  · rw [if_pos ((isRefusal_iff _).mpr hrefuses)]
    by_cases hauth : Authenticates frame
    · have hkept : ¬Repeats (some target) frame first.2 := fun hrepeats => hrepeats.2.1 hauth
      rw [if_pos ((isAuthentication_iff _).mpr hauth), if_neg hkept, if_neg hkept]
      exact concede_gives env s target h first
    · have hrepeats : Repeats (some target) frame first.2 := ⟨hanew, hauth, hrefuses⟩
      rw [if_neg (mt (isAuthentication_iff _).mp hauth), if_pos hrepeats, if_pos hrepeats,
        requests_exchange, run_exchange]
      obtain ⟨hlast, hrequests⟩ := concede_gives env ((Tag.exchange frame).run env s).2 target h
        ((Tag.exchange frame).run env s).1
      exact ⟨hlast, congrArg _ hrequests⟩
  · have hkept : ¬Repeats (some target) frame first.2 := fun hrepeats => hrefuses hrepeats.2.2
    rw [if_neg (mt (isRefusal_iff _).mp hrefuses), if_neg hkept, if_neg hkept]
    dsimp only
    rw [selectsAnew_accepted env s hrefuses]
    exact ⟨rfl, rfl⟩

lemma lookAfter_gives (connection : Option Connection) (frame : Bytes) (first : Status × Bytes) :
    let last := lastExchange env connection frame (first, s)
    ((lookAfter connection frame first).run.run env s).1 = last.1 ∧
      (lookAfter connection frame first).requests env s =
        (if Repeats connection frame first.2 then [.sendFrame frame] else []) ++
          selectsAnew env last.2 connection last.1.2 := by
  cases connection with
  | none => exact ⟨rfl, rfl⟩
  | some target =>
    by_cases h : target.protocol = Protocol.mifare
    · have hrecover : lookAfter (some target) frame first = recover target.handle frame first := if_pos h
      rw [hrecover]
      exact recover_gives env s target h frame first
    · have hanew : anew? (some target) = none := if_neg h
      have hdone : lookAfter (some target) frame first = done first := if_neg h
      have hkept : ¬Repeats (some target) frame first.2 := not_repeats hanew
      unfold lastExchange selectsAnew
      rw [hdone, if_neg hkept, if_neg hkept, hanew]
      exact ⟨rfl, rfl⟩

/-- A procedure that exchanges a frame sends it first and then looks after the answer. -/
lemma transceive_gives (frame buffer : Bytes) (hready : s.host.flags.tagReady = true) :
    let held := heldFrom env Host.exchangeBound (s.mapHost (Change.apply (.session (.inTransceive true))))
    let connection := held.host.session.connection
    let first := (Tag.exchange frame).run env held
    ((transceive frame buffer .done).run.run env s).1 =
        ((lookAfter connection frame first.1).run.run env first.2).1 ∧
      (transceive frame buffer .done).requests env s =
        .sendFrame frame :: (lookAfter connection frame first.1).requests env first.2 := by
  intro held connection first
  let inner : Procedure (Status × Bytes) :=
    look (·.session.connection) fun connection => exchange frame (lookAfter connection frame)
  have hinner : inner.requests env held =
      .sendFrame frame :: (lookAfter connection frame first.1).requests env first.2 :=
    requests_exchange env held frame (lookAfter connection frame)
  constructor
  · have hruns : (transceive frame buffer .done).run.run env s =
        (alter (.session (.inTransceive true)) <| holding Host.exchangeBound inner fun answer =>
          alter (.session (.inTransceive false)) (done answer)).run.run env s := by
      change (if s.host.flags.tagReady = true then _ else _ : Procedure _).run.run env s = _
      rw [if_pos hready]
    calc ((transceive frame buffer .done).run.run env s).1
        = ((Op.holdingField Host.exchangeBound inner.run).run env
            (s.mapHost (Change.apply (.session (.inTransceive true))))).1 := by rw [hruns]; rfl
      _ = (inner.run.run env held).1 := holdingField_fst env _ _ _
      _ = ((exchange frame (lookAfter connection frame)).run.run env held).1 := rfl
      _ = _ := by rw [run_exchange]; rfl
  · calc (transceive frame buffer .done).requests env s
        = (holding Host.exchangeBound inner fun answer =>
            alter (.session (.inTransceive false)) (done answer)).requests env
              (s.mapHost (Change.apply (.session (.inTransceive true)))) := by
          unfold transceive
          rw [requests_ifReady, if_pos hready]
          rfl
      _ = inner.requests env held ++ [] := requests_holding env _ _ inner _
      _ = _ := by rw [List.append_nil]; exact hinner

end Frames

end Procedure

/-- With a tag in the field a frame is sent once, and a second time exactly if the connection is under
MIFARE, the frame does not authenticate and its first answer is a refusal. A refusal of the last frame by
such a tag leads to one reconnection, which puts the tag to sleep and goes no further than to select it and
to let go of it; nothing else is asked for. The result is that of the last exchange, whatever comes of the
reconnection. This holds in any company; without company the connection is the one at the beginning, and
the trace shows just these requests. -/
theorem frame_repeated_once (env : Environment σ) (s : System σ) (frame buffer : Bytes)
    (hready : s.host.flags.tagReady = true) :
    let p := Procedure.transceive frame buffer .done
    let done := (Tag.transceive frame buffer).run env s
    let held := Procedure.heldFrom env Host.exchangeBound
      (s.mapHost (Change.apply (.session (.inTransceive true))))
    let connection := held.host.session.connection
    let first := (Tag.exchange frame).run env held
    let last := lastExchange env connection frame first
    p.run.run env s = done ∧ done.1 = last.1 ∧
      p.requests env s = .sendFrame frame ::
        ((if Repeats connection frame first.1.2 then [.sendFrame frame] else []) ++
          selectsAnew env last.2 connection last.1.2) ∧
      (∀ target : Connection,
        let reconnection := (Procedure.reconnect target true .done).requests env last.2
        (reconnection = [] ↔ last.2.host.flags.tagReady = false) ∧
          reconnection <+: [.deactivate true, selectionRequest target, .deactivate false]) ∧
      ((∀ target ∈ connection, target.protocol ≠ Protocol.mifare) →
        p.requests env s = [.sendFrame frame]) ∧
      ∀ c : Controller σ, env = c.alone →
        connection = s.host.session.connection ∧
          callerRequests (done.2.trace.drop s.trace.length) = p.requests env s := by
  intro p done held connection first last
  have hrun : p.run.run env s = done :=
    congrFun (congrFun (Procedure.run_transceive frame buffer .done) env) s
  obtain ⟨hresult, hbegins⟩ := Procedure.transceive_gives env s frame buffer hready
  obtain ⟨hlast, hrest⟩ := Procedure.lookAfter_gives env first.2 connection frame first.1
  have hrequests : p.requests env s = .sendFrame frame ::
      ((if Repeats connection frame first.1.2 then [.sendFrame frame] else []) ++
        selectsAnew env last.2 connection last.1.2) := hbegins.trans (congrArg _ hrest)
  refine ⟨hrun, ?_, hrequests, fun target => Procedure.restart_requests env last.2 target, ?_, ?_⟩
  · rw [← hrun]
    exact hresult.trans hlast
  · intro hother
    have hnone : anew? connection = none := anew_eq_none hother
    have hkept : ¬Repeats connection frame first.1.2 := not_repeats hnone
    rw [hrequests, if_neg hkept]
    unfold selectsAnew
    rw [hnone]
    rfl
  · rintro c rfl
    constructor
    · change (Procedure.heldFrom c.alone _ _).host.session.connection = _
      rw [Procedure.heldFrom_alone, entered_session]
      rfl
    · rw [← hrun]
      exact (Procedure.requests_made c p s).made

/-- The target of a MIFARE Classic card. -/
def classicTarget : Connection := ⟨1, Protocol.mifare, .mifareClassic⟩

/-- A session is connected to such a card, which refuses the next two frames. -/
def withRefusingCard : System Script :=
  { ran Script.controller [] {} {} (firstBringUp ++
      [.move (.event (.activated (Sample.mifareClassic 1))),
        .move (.call (.session (.connect classicTarget)))]) with
    controller := { answers := [[0x04], [0x04]] } }

/-- A card that refuses a frame twice is selected anew, and the second refusal is the result. -/
theorem refused_frame_sent_twice :
    let s := withRefusingCard
    let done := (Tag.transceive [0x30, 0x04] []).run Script.controller.alone s
    s.host.flags.tagReady = true ∧ done.1 = (.ok, [0x04]) ∧
      callerRequests (done.2.trace.drop s.trace.length) =
        [.sendFrame [0x30, 0x04], .sendFrame [0x30, 0x04], .deactivate true,
          .select 1 Protocol.mifare 0x80] := by
  have hready : withRefusingCard.host.flags.tagReady = true := rfl
  obtain ⟨-, hresult, hrequests, -, -, halone⟩ :=
    frame_repeated_once Script.controller.alone withRefusingCard [0x30, 0x04] [] hready
  obtain ⟨-, hasked⟩ := halone Script.controller rfl
  exact ⟨hready, hresult.trans rfl, (hasked.trans hrequests).trans rfl⟩

end NfcStack.Proofs
