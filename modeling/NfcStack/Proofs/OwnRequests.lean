import NfcStack.Proofs.Procedures

/-!
# What a procedure asks for

A procedure can tell which requests it makes itself, whoever else makes requests meanwhile. While nobody
else does, these are the requests of callers that the trace shows.
-/

namespace NfcStack.Proofs

variable {σ α β : Type}

namespace Procedure

section Asking

/-- Runs a procedure and gives the requests that it makes. -/
def asking : {α : Type} → Procedure α → Op σ (α × List Request)
  | _, .done result => pure (result, [])
  | _, .look f next => do (next (← Op.read f)).asking
  | _, .alter change next => do
    Op.update change.apply
    next.asking
  | _, .elapse next => do
    Op.elapse
    next.asking
  | _, .ask request _ next => do
    let (result, rest) ← (next (← Op.issue request)).asking
    return (result, request :: rest)
  | _, .send request _ next => do
    let (result, rest) ← (next (← Op.send request)).asking
    return (result, request :: rest)
  | _, .wait station next => do (next (← Op.await station.venue)).asking
  | _, .holding bound inner next => do
    let (between, first) ← Op.holdingField bound inner.asking
    let (result, rest) ← (next between).asking
    return (result, first ++ rest)

/-- The requests that a procedure makes, in order. -/
def requests (p : Procedure α) (env : Environment σ) (s : System σ) : List Request :=
  (p.asking.run env s).1.2

/-- A procedure that tells its requests runs like one that does not. -/
lemma fst_asking (p : Procedure α) : (Prod.fst <$> p.asking : Op σ α) = p.run := by
  induction p with
  | done result => rfl
  | look f next ih =>
    funext env s
    exact congrFun (congrFun (ih _) env) s
  | alter change next ih =>
    funext env s
    exact congrFun (congrFun ih env) _
  | elapse next ih =>
    funext env s
    exact congrFun (congrFun ih env) _
  | ask request h next ih =>
    funext env s
    exact congrFun (congrFun (ih _) env) _
  | send request h next ih =>
    funext env s
    exact congrFun (congrFun (ih _) env) _
  | wait station next ih =>
    funext env s
    exact congrFun (congrFun (ih _) env) _
  | holding bound inner next ihInner ih =>
    funext env s
    unfold run
    rw [← ihInner, holdingField_map]
    exact congrFun (congrFun (ih _) env) _

end Asking

section Parts

variable (env : Environment σ) (s : System σ)

lemma requests_ifReady (p q : Procedure α) :
    (ifReady p q).requests env s =
      if s.host.flags.tagReady then p.requests env s else q.requests env s := by
  change (if s.host.flags.tagReady = true then p else q).requests env s = _
  split
  · rfl
  · rfl

/-- A part that holds the field asks for what it asks for by itself, and the rest comes behind. -/
lemma requests_holding (bound : Host → UInt64) (inner : Procedure β) (next : β → Procedure α) :
    let held := (Op.holdingField bound inner.run).run env s
    (holding bound inner next).requests env s =
      inner.requests env (heldFrom env bound s) ++ (next held.1).requests env held.2 := by
  have hheld : (Op.holdingField bound inner.run : Op σ β) =
      Prod.fst <$> Op.holdingField bound inner.asking := by
    rw [← holdingField_map, fst_asking]
  have hfirst : ((Op.holdingField bound inner.asking).run env s).1.2 =
      inner.requests env (heldFrom env bound s) :=
    congrArg Prod.snd (holdingField_fst env bound inner.asking s)
  rw [hheld, ← hfirst]
  rfl

/-- A call begins with its request and goes on as far as what any outcome leads to. -/
lemma requests_call {station : Station} {request : Request} {h : request ≠ .commitRouting}
    {next : Outcome station.Value → Procedure α} {rest : List Request}
    (hnext : ∀ outcome t, (next outcome).requests env t <+: rest) :
    ∃ made, (call station request h next).requests env s = request :: made ∧ made <+: rest := by
  let asked := (Op.issue request : Op σ Status).run env
    (env.meantime (s.mapHost (station.venue.map .arm)))
  have hrequests : (call station request h next).requests env s =
      request :: (if asked.1.isOk then wait station next
        else alter (station.moved .disarm) (next (.rejected asked.1))).requests env asked.2 := rfl
  refine ⟨_, hrequests, ?_⟩
  split
  · exact hnext _ ((Op.await station.venue).run env asked.2).2
  · exact hnext _ (asked.2.mapHost (station.venue.map .disarm))

lemma requests_exchange (frame : Bytes) (next : Status × Bytes → Procedure α) :
    let exchanged := (Tag.exchange frame).run env s
    (exchange frame next).requests env s =
      .sendFrame frame :: (next exchanged.1).requests env exchanged.2 := by
  let begun := env.meantime ((env.meantime (s.mapHost (Venue.transceive.map .arm))).mapHost
    (Change.apply (.session .clearReceived)))
  let asked := (Op.issue (.sendFrame frame) : Op σ Status).run env begun
  have hexchange : (Tag.exchange frame).run env s =
      (if asked.1.isOk then do
          let outcome ← Op.await Venue.transceive
          let response ← Op.read (·.session.received)
          Op.updateSession fun session => { session with received := [] }
          return (outcome.status, response)
        else do
          Op.update (Venue.transceive.map .disarm)
          return (asked.1, []) : Op σ (Status × Bytes)).run env asked.2 := rfl
  have hrequests : (exchange frame next).requests env s =
      .sendFrame frame :: (if asked.1.isOk then wait .transceive fun (outcome : Outcome Status) =>
          look (·.session.received) fun response =>
            alter (.session .clearReceived) (next (outcome.status, response))
        else alter (Station.transceive.moved .disarm) (next (asked.1, []))).requests env asked.2 := rfl
  dsimp only
  rw [hexchange, hrequests]
  split
  · rfl
  · rfl

end Parts

section Alone

variable (c : Controller σ)

lemma heldFrom_alone (bound : Host → UInt64) (s : System σ) :
    heldFrom c.alone bound s = entered bound s := by
  unfold heldFrom entered
  rw [if_neg nofun]
  by_cases hused : s.host.usesField = true
  · simp only [System.mapHost, if_pos hused]
  · simp only [System.mapHost, if_neg hused]
    rfl

lemma send_asks (request : Request) (s : System σ) :
    Asks s ((Op.send request).run c.alone s).2 [request] := by
  have hasked : Asks s (c.issue .caller request s).2 [request] := ⟨[_], rfl, rfl⟩
  exact hasked.trans ((follows_adds c).attend _).asks

lemma await_asks (venue : Venue α) (s : System σ) :
    Asks s ((Op.await venue).run c.alone s).2 [] := by
  have hpass : Asks s ((Op.pass : Op σ Unit).run c.alone s).2 [] :=
    ((follows_adds c).pass (fun _ _ => adds_of_trace_eq rfl) s).asks
  exact hpass

/-- While nobody else acts, the trace shows as requests of callers those that a procedure makes. -/
theorem requests_made (p : Procedure α) (s : System σ) :
    Asks s (p.run.run c.alone s).2 (p.requests c.alone s) := by
  induction p generalizing s with
  | done result => exact asks_of_trace_eq rfl
  | look f next ih => exact ih _ s
  | alter change next ih =>
    have hchanged : Asks s (s.mapHost change.apply) [] := asks_of_trace_eq rfl
    exact hchanged.trans (ih _)
  | elapse next ih => exact ih s
  | ask request h next ih =>
    have hasked : Asks s (c.issue .caller request s).2 [request] := ⟨[_], rfl, rfl⟩
    exact hasked.trans (ih _ _)
  | send request h next ih => exact (send_asks c request s).trans (ih _ _)
  | wait station next ih => exact (await_asks c station.venue s).trans (ih _ _)
  | holding bound inner next ihInner ih =>
    rw [requests_holding, heldFrom_alone]
    exact (holdingField_asks c bound inner.run (ihInner (entered bound s))).trans (ih _ _)

end Alone

end Procedure

end NfcStack.Proofs
