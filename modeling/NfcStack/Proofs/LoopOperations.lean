import NfcStack.Proofs.EndpointKeeping
import NfcStack.Tag.Endpoint.Loops

/-!
# Operations as steps of presence loops

What the operations of an endpoint do to its presence loops is made of the steps that callers and loops take:
to ask for a loop and to stop it, to let go of the tag or of the endpoint, and the turns of a loop itself.
-/

namespace NfcStack.Proofs

section Runs

variable {start middle scene : LoopScene} {before after events : List LoopEvent} {event : LoopEvent}

lemma loopRun_append (h : LoopRun start (before ++ event :: after) scene) :
    ∃ found next, LoopRun start before found ∧ LoopStep found event next := by
  generalize hevents : before ++ event :: after = events at h
  induction h generalizing after with
  | nil => exact absurd hevents (List.append_ne_nil_of_right_ne_nil before nofun)
  | @snoc events scene next last hrun hstep ih =>
    rcases List.eq_nil_or_concat after with rfl | ⟨later, final, rfl⟩
    · obtain ⟨rfl, hlast⟩ := List.append_inj' hevents rfl
      obtain ⟨rfl, -⟩ := List.cons.inj hlast
      exact ⟨scene, next, hrun, hstep⟩
    · rw [List.concat_eq_append, ← List.cons_append, ← List.append_assoc] at hevents
      exact ih (List.append_inj' hevents rfl).1

lemma loopRun_trans (h₁ : LoopRun start before middle) (h₂ : LoopRun middle after scene) :
    LoopRun start (before ++ after) scene := by
  induction h₂ with
  | nil => rwa [List.append_nil]
  | snoc _ hstep ih =>
    rw [← List.append_assoc]
    exact ih.snoc hstep

lemma loopRun_cons (hstep : LoopStep start event middle) (hrest : LoopRun middle events scene) :
    LoopRun start (event :: events) scene :=
  loopRun_trans (LoopRun.nil.snoc hstep) hrest

end Runs

section Seats

variable {loop place : Nat} {endpoint : Endpoint} {requests : List LoopRequest} {stage : LoopStage}

/-- A scene in which the request at a place has got so far. -/
def seated (requests : List LoopRequest) (place loop : Nat) (endpoint : Endpoint) (stage : LoopStage) :
    LoopScene :=
  ⟨endpoint, requests.set place ⟨loop, stage⟩⟩

lemma seated_self (hat : requests[place]? = some ⟨loop, stage⟩) :
    seated requests place loop endpoint stage = ⟨endpoint, requests⟩ := by
  obtain ⟨hplace, heq⟩ := List.getElem?_eq_some_iff.mp hat
  unfold seated
  rw [← heq, List.set_getElem_self]

lemma seated_last (request : LoopRequest) :
    seated (requests ++ [request]) requests.length loop endpoint stage =
      ⟨endpoint, requests ++ [⟨loop, stage⟩]⟩ := by
  unfold seated
  rw [List.set_append_right _ _ (Nat.le_refl _), Nat.sub_self, List.set_cons_zero]

lemma seated_step {event : LoopEvent} {reached : LoopStage} {changed : Endpoint}
    (hplace : place < requests.length) (chance : LoopChance)
    (hturn : (LoopRequest.mk loop stage).turn (seated requests place loop endpoint stage).isKept chance
      endpoint = ⟨event, reached, changed⟩) :
    LoopStep (seated requests place loop endpoint stage) event (seated requests place loop changed reached) := by
  let found := seated requests place loop endpoint stage
  have hstep : LoopStep found _ _ := .advances found chance (List.getElem?_set_self hplace)
  have hadvance : found.advance place ⟨loop, stage⟩ chance =
      seated requests place loop changed reached := by
    unfold LoopScene.advance
    rw [show (LoopRequest.mk loop stage).turn found.isKept chance found.endpoint = _ from hturn]
    exact congrArg (LoopScene.mk changed) (List.set_set ..)
  rw [hadvance, show (LoopRequest.mk loop stage).turn found.isKept chance found.endpoint = _ from hturn]
    at hstep
  exact hstep

end Seats

section Turns

variable {loop : Nat} {kept : Bool} {chance : LoopChance} {endpoint : Endpoint}

lemma turn_claims (h : endpoint.currentLoop = 0) :
    (LoopRequest.mk loop .asking).turn kept chance endpoint =
      ⟨.claimed loop, .starting, { endpoint with currentLoop := loop }⟩ := by
  unfold LoopRequest.turn Endpoint.claimLoop
  simp only [if_pos h, if_true]

lemma turn_denied (h : endpoint.currentLoop ≠ 0) :
    (LoopRequest.mk loop .asking).turn kept chance endpoint = ⟨.denied loop, .ended, endpoint⟩ := by
  unfold LoopRequest.turn Endpoint.claimLoop
  simp only [if_neg h, Bool.false_eq_true, if_false]

lemma turn_begins : (LoopRequest.mk loop .starting).turn kept chance endpoint =
    ⟨.moved loop, .spawning, endpoint.setPresent true⟩ := rfl

lemma turn_spawns : (LoopRequest.mk loop .spawning).turn kept { spawned := true } endpoint =
    ⟨.spawned loop, .arming, endpoint⟩ := rfl

lemma turn_unspawned : (LoopRequest.mk loop .spawning).turn kept { spawned := false } endpoint =
    ⟨.unspawned loop, .ended, endpoint.giveUpLoop⟩ := rfl

lemma turn_arms : (LoopRequest.mk loop .arming).turn kept chance endpoint =
    ⟨.moved loop, .waiting, endpoint.arm⟩ := rfl

lemma turn_wakes : (LoopRequest.mk loop .waiting).turn true chance endpoint =
    ⟨.moved loop, .awake, endpoint⟩ := rfl

lemma turn_vanishes : (LoopRequest.mk loop .waiting).turn false chance endpoint =
    ⟨.vanished loop, .ended, endpoint⟩ := rfl

lemma turn_misses (h : endpoint.missesPlace loop chance.woken = true) :
    (LoopRequest.mk loop .awake).turn kept chance endpoint = ⟨.moved loop, .leaving, endpoint⟩ := by
  unfold LoopRequest.turn
  simp only [h, if_true]

lemma turn_doubts (h : endpoint.missesPlace loop chance.woken = false) :
    (LoopRequest.mk loop .awake).turn kept chance endpoint = ⟨.moved loop, .doubting, endpoint⟩ := by
  unfold LoopRequest.turn
  simp only [h, Bool.false_eq_true, if_false]

lemma turn_absent (h : endpoint.present = false) :
    (LoopRequest.mk loop .doubting).turn kept chance endpoint = ⟨.moved loop, .leaving, endpoint⟩ := by
  unfold LoopRequest.turn
  simp only [h, Bool.not_false, if_true]

lemma turn_probes (h : endpoint.present = true) :
    (LoopRequest.mk loop .doubting).turn kept {} endpoint = ⟨.moved loop, .probing, endpoint⟩ := by
  unfold LoopRequest.turn
  simp only [h, Bool.not_true, Bool.false_eq_true, if_false]

lemma turn_finds : (LoopRequest.mk loop .probing).turn kept { there := true } endpoint =
    ⟨.moved loop, .arming, endpoint⟩ := rfl

lemma turn_loses : (LoopRequest.mk loop .probing).turn kept { there := false } endpoint =
    ⟨.moved loop, .leaving, endpoint⟩ := rfl

lemma turn_leaves : (LoopRequest.mk loop .leaving).turn kept chance endpoint =
    ⟨.left loop, .retiring, endpoint.setPresent false⟩ := rfl

lemma turn_retires (h : endpoint.currentLoop = loop) :
    (LoopRequest.mk loop .retiring).turn kept chance endpoint =
      ⟨.retired loop, .reporting, { endpoint with currentLoop := 0 }⟩ := by
  unfold LoopRequest.turn Endpoint.leaveLoop
  simp only [if_pos h, if_true]

lemma turn_displaced (h : endpoint.currentLoop ≠ loop) :
    (LoopRequest.mk loop .retiring).turn kept chance endpoint = ⟨.retired loop, .ended, endpoint⟩ := by
  unfold LoopRequest.turn Endpoint.leaveLoop
  simp only [if_neg h, Bool.false_eq_true, if_false]

lemma turn_reports {handle : UInt8} (h : endpoint.lostHandle? = some handle) :
    (LoopRequest.mk loop .reporting).turn kept chance endpoint = ⟨.reported loop handle, .ended, endpoint⟩ := by
  unfold LoopRequest.turn
  simp only [h]

lemma turn_silent (h : endpoint.lostHandle? = none) :
    (LoopRequest.mk loop .reporting).turn kept chance endpoint = ⟨.silent loop, .ended, endpoint⟩ := by
  unfold LoopRequest.turn
  simp only [h]

end Turns

section Operations

variable {σ : Type} {number : Nat} {s t : System σ} {endpoint : Endpoint} {requests : List LoopRequest}

/-- The endpoint of a number went such steps, and the requests for its loops have got so far. -/
def Went (number : Nat) (start : LoopScene) (events : List LoopEvent) (requests : List LoopRequest)
    (t : System σ) : Prop :=
  ∃ endpoint, t.host.endpoint? number = some endpoint ∧ LoopRun start events ⟨endpoint, requests⟩

@[simp] lemma update_run (env : Environment σ) (f : Endpoint → Endpoint) :
    (Endpoint.update number f : Op σ Unit).run env s = ((), s.mapHost (Host.mapEndpoint number f)) := rfl

section Found

variable (hfound : s.host.endpoint? number = some endpoint)
include hfound

lemma mapEndpoint_found (f : Endpoint → Endpoint) :
    (s.mapHost (Host.mapEndpoint number f)).host.endpoint? number = some (f endpoint) := by
  rw [System.mapHost_host, mapEndpoint_endpoint, hfound, Option.map_some, if_pos rfl]

lemma atOnce_found {α : Type} (env : Environment σ) (f : Endpoint → α × Endpoint) :
    ∃ t, (Endpoint.atOnce number f : Op σ (Option α)).run env s = (some (f endpoint).1, t) ∧
      t.host.endpoint? number = some (f endpoint).2 := by
  refine ⟨_, ?_, mapEndpoint_found hfound fun _ => (f endpoint).2⟩
  unfold Endpoint.atOnce
  rw [Op.run_bind, Op.run_read, hfound]
  rfl

lemma startWatch_free (env : Environment σ) (spawned : Bool) (hfree : endpoint.currentLoop = 0) :
    let loop := endpoint.lastLoop + 1
    let begun := { endpoint.takeNumber.2 with currentLoop := loop }.setPresent true
    ∃ t, (Endpoint.startWatch number spawned : Op σ (Option Nat)).run env s =
        (if spawned then some loop else none, t) ∧
      t.host.endpoint? number = some (if spawned then begun.arm else begun.giveUpLoop) := by
  intro loop begun
  obtain ⟨taken, hrun, htaken⟩ := atOnce_found hfound env Endpoint.takeNumber
  obtain ⟨claimed, hclaim, hclaimed⟩ := atOnce_found htaken env (Endpoint.claimLoop endpoint.takeNumber.1)
  have hplace : endpoint.takeNumber.2.claimLoop endpoint.takeNumber.1 =
    (true, { endpoint.takeNumber.2 with currentLoop := loop }) := if_pos hfree
  rw [hplace] at hclaim hclaimed
  have hbegun := mapEndpoint_found hclaimed (Endpoint.setPresent true)
  have hwhole : (Endpoint.startWatch number spawned : Op σ (Option Nat)).run env s =
      (if spawned then do
          Endpoint.update number Endpoint.arm
          return some loop
        else do
          Endpoint.update number Endpoint.giveUpLoop
          return none : Op σ (Option Nat)).run env
            (claimed.mapHost (Host.mapEndpoint number (Endpoint.setPresent true))) := by
    unfold Endpoint.startWatch
    rw [Op.run_bind, hrun]
    dsimp only
    rw [Op.run_bind, hclaim]
    rfl
  rw [hwhole]
  cases spawned with
  | true => exact ⟨_, rfl, mapEndpoint_found hbegun Endpoint.arm⟩
  | false => exact ⟨_, rfl, mapEndpoint_found hbegun Endpoint.giveUpLoop⟩

lemma startWatch_taken (env : Environment σ) (spawned : Bool) (htaken : endpoint.currentLoop ≠ 0) :
    ∃ t, (Endpoint.startWatch number spawned : Op σ (Option Nat)).run env s = (none, t) ∧
      t.host.endpoint? number = some endpoint.takeNumber.2 := by
  obtain ⟨numbered, hrun, hnumbered⟩ := atOnce_found hfound env Endpoint.takeNumber
  obtain ⟨denied, hdeny, hdenied⟩ := atOnce_found hnumbered env (Endpoint.claimLoop endpoint.takeNumber.1)
  have hplace : endpoint.takeNumber.2.claimLoop endpoint.takeNumber.1 = (false, endpoint.takeNumber.2) :=
    if_neg htaken
  rw [hplace] at hdeny hdenied
  refine ⟨denied, ?_, hdenied⟩
  unfold Endpoint.startWatch
  rw [Op.run_bind, hrun]
  dsimp only
  rw [Op.run_bind, hdeny]
  rfl

/-- To ask for a loop is to take a number, to try to become the current one, and to bring a loop under way if
that was so. The caller is told of a loop exactly if there is one. -/
lemma startWatch_steps (env : Environment σ) (spawned : Bool) (howned : endpoint.owned = true) :
    let started := (Endpoint.startWatch number spawned : Op σ (Option Nat)).run env s
    ∃ events stage,
      Went number ⟨endpoint, requests⟩ events (requests ++ [⟨endpoint.lastLoop + 1, stage⟩]) started.2 ∧
        ∀ loop, started.1 = some loop ↔ .spawned loop ∈ events := by
  let loop := endpoint.lastLoop + 1
  let asked := requests ++ [LoopRequest.mk loop .asking]
  have hplace : requests.length < asked.length := by
    rw [List.length_append]
    exact Nat.lt_add_one _
  have hseat (changed : Endpoint) (stage : LoopStage) :
      seated asked requests.length loop changed stage = ⟨changed, requests ++ [⟨loop, stage⟩]⟩ :=
    seated_last _
  have hask : LoopStep ⟨endpoint, requests⟩ (.asked loop)
      (seated asked requests.length loop endpoint.takeNumber.2 .asking) := by
    rw [hseat]
    exact .asks _ howned
  by_cases hfree : endpoint.currentLoop = 0
  · have hclaims := (LoopRun.nil.snoc hask).snoc (seated_step hplace {} (turn_claims hfree))
    have hbegins := hclaims.snoc (seated_step hplace {} turn_begins)
    obtain ⟨t, hrun, hchanged⟩ := startWatch_free hfound env spawned hfree
    rw [hrun]
    cases spawned with
    | true =>
      have hruns := (hbegins.snoc (seated_step hplace _ turn_spawns)).snoc (seated_step hplace {} turn_arms)
      rw [hseat] at hruns
      exact ⟨_, _, ⟨_, hchanged, hruns⟩, fun other => by simp [loop, eq_comm]⟩
    | false =>
      have hruns := hbegins.snoc (seated_step hplace _ turn_unspawned)
      rw [hseat] at hruns
      exact ⟨_, _, ⟨_, hchanged, hruns⟩, fun other => by simp⟩
  · have hruns := (LoopRun.nil.snoc hask).snoc (seated_step hplace {} (turn_denied hfree))
    rw [hseat] at hruns
    obtain ⟨t, hrun, hchanged⟩ := startWatch_taken hfound env spawned hfree
    rw [hrun]
    exact ⟨_, _, ⟨_, hchanged, hruns⟩, fun other => by simp⟩

lemma stopWatch_steps (env : Environment σ) : Went number ⟨endpoint, requests⟩ [.stopped] requests
    ((Endpoint.stopWatch number : Op σ Unit).run env s).2 :=
  ⟨_, mapEndpoint_found hfound Endpoint.stopLoop, LoopRun.nil.snoc (.stops ⟨endpoint, requests⟩)⟩

lemma drop_steps (env : Environment σ) : Went number ⟨endpoint, requests⟩ [.released] requests
    ((Endpoint.drop number : Op σ Unit).run env s).2 :=
  ⟨_, mapEndpoint_found hfound Endpoint.release, LoopRun.nil.snoc (.releases ⟨endpoint, requests⟩)⟩

end Found

section Tag

variable (c : Controller σ)

lemma alters_of_eq {after : Endpoint} (hcurrent : after.currentLoop = endpoint.currentLoop)
    (hlast : after.lastLoop = endpoint.lastLoop) (howned : after.owned = endpoint.owned)
    (hslots : after.slots = endpoint.slots) : endpoint.Alters after :=
  ⟨hcurrent, hlast, howned, by rw [hslots]⟩

/-- Letting go of the tag changes no endpoint. -/
lemma tag_disconnect_found (hfound : s.host.endpoint? number = some endpoint) :
    ((Tag.disconnect : Op σ Bool).run c.alone s).2.host.endpoint? number = some endpoint := by
  have hevolves : Evolves c SparesEndpoints s ((Tag.disconnect : Op σ Bool).run c.alone s).2 :=
    tag_disconnect_along (orderly_alone SparesEndpoints c).composes
      (fun act h _ => tagWork_sparesEndpoints act (handling_tagWork act h)) trivial s
  exact hevolves.same_endpoint hfound

lemma checkPresence_found (hfound : s.host.endpoint? number = some endpoint) :
    ((Tag.checkPresence : Op σ Bool).run c.alone s).2.host.endpoint? number = some endpoint := by
  have hevolves : Evolves c SparesEndpoints s ((Tag.checkPresence : Op σ Bool).run c.alone s).2 :=
    checkPresence_along (orderly_alone SparesEndpoints c).composes
      (fun act h _ => tagWork_sparesEndpoints act (handling_tagWork act h)) s
  exact hevolves.same_endpoint hfound

/-- Acts that have nothing to do with presence loops. -/
def SparesLoops : Act → Prop
  | .change (.endpoint _ f) => ∀ endpoint : Endpoint, endpoint.Alters (f endpoint)
  | _ => True

lemma tagWork_sparesLoops : ∀ act, TagWork act → SparesLoops act := by
  rintro (request | event | change) h
  · trivial
  · trivial
  · cases change with
    | endpoint number f => exact h.elim
    | _ => trivial

/-- To disconnect an endpoint is no step of a presence loop, and neither is anything that is delivered
meanwhile. -/
lemma disconnect_steps (hfound : s.host.endpoint? number = some endpoint) :
    Went number ⟨endpoint, requests⟩ [.altered] requests
      ((Endpoint.disconnect number : Op σ Bool).run c.alone s).2 := by
  have hR := (orderly_alone SparesLoops c).composes
  have hupdate (f : Endpoint → Endpoint) (hf : ∀ endpoint : Endpoint, endpoint.Alters (f endpoint)) :
      Along (Evolves c SparesLoops) c.alone (Endpoint.update number f : Op σ Unit) :=
    along_change hR (.endpoint number f) hf
  have hgone : Along (Evolves c SparesLoops) c.alone (Tag.disconnect : Op σ Bool) :=
    tag_disconnect_along hR (fun act h _ => tagWork_sparesLoops act (handling_tagWork act h)) trivial
  have hevolves : Evolves c SparesLoops s ((Endpoint.disconnect number : Op σ Bool).run c.alone s).2 := by
    refine along_reserving hR _ (along_bind hR (hupdate _ ?_) fun _ => along_bind hR hgone fun done => ?_) s
    · exact fun _ => alters_of_eq rfl rfl rfl rfl
    · refine along_bind hR (hupdate _ ?_) fun _ => along_pure hR done
      exact fun _ => alters_of_eq rfl rfl rfl rfl
  have halters : EndpointsBy (fun _ before after => before.Alters after) s
      ((Endpoint.disconnect number : Op σ Bool).run c.alone s).2 := by
    refine hevolves.endpoints (fun _ endpoint => alters_of_eq rfl rfl rfl rfl) ?_ fun _ _ hf => hf
    intro _ first next last h₁ h₂
    exact ⟨h₂.currentLoop.trans h₁.currentLoop, h₂.lastLoop.trans h₁.lastLoop, h₂.owned.trans h₁.owned,
      h₂.first.trans h₁.first⟩
  obtain ⟨changed, hchanged, hrelated⟩ := halters number endpoint hfound
  exact ⟨changed, hchanged, LoopRun.nil.snoc (.alters _ hrelated)⟩

/-- What a watch goes through if it ends with such an answer. -/
def EndsBy (number loop place : Nat) (requests : List LoopRequest) (start : LoopScene)
    (ended : Endpoint.WatchEnd × System σ) : Prop :=
  ∃ events stage, Went number start events (requests.set place ⟨loop, stage⟩) ended.2 ∧
    ∀ handle, ended.1 = .lost handle ↔ .reported loop handle ∈ events

variable {place loop : Nat} {start next : LoopScene} {ended : Endpoint.WatchEnd × System σ}

lemma EndsBy.after {events : List LoopEvent} (hrun : LoopRun start events next)
    (hquiet : ∀ handle, .reported loop handle ∉ events)
    (h : EndsBy number loop place requests next ended) : EndsBy number loop place requests start ended := by
  obtain ⟨rest, stage, ⟨changed, hchanged, hrest⟩, hanswer⟩ := h
  refine ⟨events ++ rest, stage, ⟨changed, hchanged, loopRun_trans hrun hrest⟩, fun handle => ?_⟩
  rw [hanswer, List.mem_append, or_iff_right (hquiet handle)]

/-- The end of a loop: it lets go of the tag and of its place, and reports last of all if that was still its
own. -/
lemma retire_steps (hplace : place < requests.length) (hfound : s.host.endpoint? number = some endpoint) :
    EndsBy number loop place requests (seated requests place loop endpoint .leaving)
      ((Endpoint.retire number loop : Op σ Endpoint.WatchEnd).run c.alone s) := by
  let absent := endpoint.setPresent false
  have hgone : ((Tag.disconnect : Op σ Bool).run c.alone
      (s.mapHost (Host.mapEndpoint number (Endpoint.setPresent false)))).2.host.endpoint? number =
        some absent := tag_disconnect_found c (mapEndpoint_found hfound _)
  obtain ⟨left, hleave, hleft⟩ := atOnce_found hgone c.alone (Endpoint.leaveLoop loop)
  have hleaves : LoopRun (seated requests place loop endpoint .leaving) [.left loop]
      (seated requests place loop absent .retiring) := LoopRun.nil.snoc (seated_step hplace {} turn_leaves)
  have hwhole : (Endpoint.retire number loop : Op σ Endpoint.WatchEnd).run c.alone s =
      (if some (absent.leaveLoop loop).1 = some true then do
          let endpoint ← Op.read (·.endpoint? number)
          return .ofLost (endpoint.bind Endpoint.lostHandle?)
        else return .silent : Op σ Endpoint.WatchEnd).run c.alone left := by
    unfold Endpoint.retire
    rewrite [Op.run_bind, update_run, Op.run_bind, Op.run_bind, hleave]
    rfl
  rw [hwhole]
  by_cases hcurrent : absent.currentLoop = loop
  · have hheld : absent.leaveLoop loop = (true, { absent with currentLoop := 0 }) := if_pos hcurrent
    rw [hheld] at hleft ⊢
    have hretires := hleaves.snoc (seated_step hplace {} (turn_retires hcurrent))
    rw [if_pos rfl, Op.run_bind, Op.run_read, hleft, Option.bind_some]
    cases hlost : Endpoint.lostHandle? { absent with currentLoop := 0 } with
    | some handle =>
      refine ⟨_, _, ⟨_, hleft, hretires.snoc (seated_step hplace {} (turn_reports hlost))⟩, fun other => ?_⟩
      simp [Endpoint.WatchEnd.ofLost, eq_comm]
    | none =>
      refine ⟨_, _, ⟨_, hleft, hretires.snoc (seated_step hplace {} (turn_silent hlost))⟩, fun other => ?_⟩
      simp [Endpoint.WatchEnd.ofLost]
  · have hdisplaced : absent.leaveLoop loop = (false, absent) := if_neg hcurrent
    rw [hdisplaced] at hleft ⊢
    rw [if_neg nofun]
    exact ⟨_, _, ⟨_, hleft, hleaves.snoc (seated_step hplace {} (turn_displaced hcurrent))⟩, fun other => by simp⟩

/-- Turns of a loop that waits. As long as somebody owns the endpoint it goes on till it finds a reason to
end. -/
lemma watch_steps (hplace : place < requests.length) (turns : Nat) (s : System σ) (endpoint : Endpoint)
    (hfound : s.host.endpoint? number = some endpoint)
    (hkept : (seated requests place loop endpoint .waiting).isKept = endpoint.owned) :
    EndsBy number loop place requests (seated requests place loop endpoint .waiting)
      ((Endpoint.watch number loop turns : Op σ Endpoint.WatchEnd).run c.alone s) := by
  induction turns generalizing s endpoint with
  | zero => exact ⟨_, _, ⟨_, hfound, .nil⟩, fun handle => by simp [Endpoint.watch]⟩
  | succ turns ih =>
    unfold Endpoint.watch
    rw [Op.run_bind, Op.run_read, hfound]
    cases howned : endpoint.owned with
    | false =>
      rw [Option.filter_some_neg (by simp [howned])]
      rw [howned] at hkept
      have hvanishes : LoopStep (seated requests place loop endpoint .waiting) (.vanished loop)
          (seated requests place loop endpoint .ended) :=
        seated_step hplace {} (by rw [hkept]; exact turn_vanishes)
      exact ⟨_, _, ⟨_, hfound, LoopRun.nil.snoc hvanishes⟩, fun handle => by simp⟩
    | true =>
      rw [Option.filter_some_pos howned]
      dsimp only
      rw [Op.run_bind, update_run]
      let disarmed := endpoint.disarm
      let woken := endpoint.watchdog.outcome.isCompleted
      have hdisarmed := mapEndpoint_found hfound Endpoint.disarm
      have halters : LoopStep (seated requests place loop endpoint .waiting) .altered
          (seated requests place loop disarmed .waiting) := .alters _ (alters_of_eq rfl rfl rfl rfl)
      have hholds : (seated requests place loop disarmed .waiting).isKept = true :=
        hkept.trans howned
      have hwakes : LoopRun (seated requests place loop endpoint .waiting) [.altered, .moved loop]
          (seated requests place loop disarmed .awake) :=
        (LoopRun.nil.snoc halters).snoc (seated_step hplace {} (by rw [hholds]; exact turn_wakes))
      cases hmisses : endpoint.missesPlace loop woken with
      | true =>
        have hgoes := hwakes.snoc (seated_step hplace { woken } (turn_misses hmisses))
        rw [Bool.true_or, if_pos rfl]
        exact .after hgoes (fun handle => by simp) (retire_steps c hplace hdisarmed)
      | false =>
        have hdoubts := hwakes.snoc (seated_step hplace { woken } (turn_doubts hmisses))
        cases hpresent : endpoint.present with
        | false =>
          have hgoes := hdoubts.snoc (seated_step hplace {} (turn_absent hpresent))
          exact .after hgoes (fun handle => by simp) (retire_steps c hplace hdisarmed)
        | true =>
          have hprobes := hdoubts.snoc (seated_step hplace {} (turn_probes hpresent))
          have hasked := checkPresence_found c hdisarmed
          rw [Bool.not_true, Bool.or_false, if_neg Bool.false_ne_true, Op.run_bind]
          split
          · have hfinds := (hprobes.snoc (seated_step hplace _ turn_finds)).snoc
              (seated_step hplace {} turn_arms)
            rw [Op.run_bind, update_run]
            refine .after hfinds (fun handle => by simp) (ih _ _ (mapEndpoint_found hasked _) ?_)
            exact hkept
          · have hgoes := hprobes.snoc (seated_step hplace _ turn_loses)
            exact .after hgoes (fun handle => by simp) (retire_steps c hplace hasked)

end Tag

/-- What the operations of an endpoint do to its presence loops is made of the steps of callers and loops. A
caller is told of a loop exactly if one was brought under way, and a loop that ends tells of a lost tag exactly if
it reports. -/
structure MadeOfSteps (c : Controller σ) (number : Nat) (s : System σ) (found : LoopScene) : Prop where
  startWatch (env : Environment σ) (spawned : Bool) (howned : found.endpoint.owned = true) :
    let started := (Endpoint.startWatch number spawned : Op σ (Option Nat)).run env s
    ∃ events stage,
      Went number found events (found.requests ++ [⟨found.endpoint.lastLoop + 1, stage⟩]) started.2 ∧
        ∀ loop, started.1 = some loop ↔ .spawned loop ∈ events
  stopWatch (env : Environment σ) :
    Went number found [.stopped] found.requests ((Endpoint.stopWatch number : Op σ Unit).run env s).2
  drop (env : Environment σ) :
    Went number found [.released] found.requests ((Endpoint.drop number : Op σ Unit).run env s).2
  disconnect :
    Went number found [.altered] found.requests ((Endpoint.disconnect number : Op σ Bool).run c.alone s).2
  /-- Nobody else keeps the endpoint while the loop takes its turns. -/
  watch (place loop turns : Nat) (hat : found.requests[place]? = some ⟨loop, .waiting⟩)
    (hkept : found.isKept = found.endpoint.owned) :
    let ended := (Endpoint.watch number loop turns : Op σ Endpoint.WatchEnd).run c.alone s
    ∃ events stage, Went number found events (found.requests.set place ⟨loop, stage⟩) ended.2 ∧
      ∀ handle, ended.1 = .lost handle ↔ .reported loop handle ∈ events

theorem made_of_steps (c : Controller σ) (found : LoopScene)
    (hfound : s.host.endpoint? number = some found.endpoint) : MadeOfSteps c number s found where
  startWatch env spawned howned := startWatch_steps hfound env spawned howned
  stopWatch := stopWatch_steps hfound
  drop := drop_steps hfound
  disconnect := disconnect_steps c hfound
  watch place loop turns hat hkept := by
    have hplace : place < found.requests.length := (List.getElem?_eq_some_iff.mp hat).1
    have hseat : seated found.requests place loop found.endpoint .waiting = found := seated_self hat
    have hwatched : EndsBy number loop place found.requests _
        ((Endpoint.watch number loop turns : Op σ Endpoint.WatchEnd).run c.alone s) :=
      watch_steps c hplace turns s found.endpoint hfound (by rw [hseat]; exact hkept)
    rw [hseat] at hwatched
    exact hwatched

end Operations

end NfcStack.Proofs
