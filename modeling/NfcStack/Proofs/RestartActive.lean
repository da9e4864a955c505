import NfcStack.Bench.Script
import NfcStack.Proofs.Restart

/-!
# Restarts and the life cycle

With an obliging controller a stack is active after a restart, unless it was stuck on its way down.
-/

namespace NfcStack.Proofs

/-- After any run, with a controller that is obliging from then on, bringing the stack up is always
called a success. After a restart the stack is active unless it was stuck, and then it stays stuck. -/
theorem restart_active_iff {σ : Type} (c : Controller σ) (companions : List (Companion σ)) (config : Config)
    (x : σ) (deeds : List Deed) {P : σ → Prop} (hc : Obliging c P)
    (hx : P (ran c companions config x deeds).controller)
    (hq : ∀ happening ∈ (ran c companions config x deeds).queue, isTame happening = true) :
    let s := ran c companions config x deeds
    let restarted := (restart : Op σ (Answer × Answer)).run c.alone s
    let up := (hostMove .bringUp).run c.alone s
    restarted.1.2 = .verdict true ∧
    (restarted.2.host.flags.active = true ↔ ¬Stuck s) ∧
    (Stuck restarted.2 ↔ Stuck s) ∧
    ((∀ happening ∈ s.queue, isCalm happening = true) →
      up.1 = .verdict true ∧ (up.2.host.flags.active = true ↔ ¬Stuck s)) := by
  obtain ⟨hidle, hlate, hattended⟩ := ran_at_rest c companions config x deeds
  dsimp only
  generalize ran c companions config x deeds = s at *
  have htamed : Tamed P s := ⟨hx, hq, hattended⟩
  have hfree : Free s := free_of_idle hlate hidle
  obtain ⟨stage, hrests, hstage⟩ := hc.down_rests htamed hfree hidle
  obtain ⟨hdone, hactive, hstuck⟩ := hc.up_rests hrests ((hostMove_inUse .takeDown s).trans hidle)
  refine ⟨hdone, hactive.trans (not_congr hstage), hstuck.trans hstage, fun hcalm => ?_⟩
  -- With nothing of the life cycle in flight the stack need not be taken down first.
  have hrest : RestsAt P (life s.host) s := ⟨⟨htamed, hcalm, hfree⟩, rfl⟩
  obtain ⟨hdone', hactive', -⟩ := hc.up_rests hrest hidle
  exact ⟨hdone', hactive'.trans (not_congr ⟨fun h => ⟨h, hcalm⟩, fun h => h.1⟩)⟩

section Scripted

/-- A script that asks for nothing out of the ordinary. -/
structure Plain (script : Script) : Prop where
  refusals : script.refusals = []
  standing : script.standing = []
  completions : script.completions = []
  silenced : script.silenced = []

lemma Plain.completion {script : Script} (h : Plain script) (kind : RequestKind) :
    script.completion kind = .ok := by
  unfold Script.completion
  rw [h.completions]
  rfl

lemma Plain.complete {script : Script} (h : Plain script) (request : Request) :
    Plain (script.complete request).2 := by
  cases request with
  | sendFrame frame =>
    unfold Script.complete
    dsimp only
    split
    · exact ⟨h.refusals, h.standing, h.completions, h.silenced⟩
    · exact h
  | detectNdef =>
    unfold Script.complete Script.nextDetection
    dsimp only
    split
    · exact ⟨h.refusals, h.standing, h.completions, h.silenced⟩
    · exact h
  | writeNdef message =>
    unfold Script.complete
    dsimp only
    split
    · exact ⟨h.refusals, h.standing, h.completions, h.silenced⟩
    · exact h
  | _ => exact h

lemma Plain.respond {script : Script} (h : Plain script) {request : Request}
    (hreq : Script.isUnconditional request.kind = false) :
    script.respond request =
      (⟨.ok, (script.complete request).1.map .event⟩, (script.complete request).2) := by
  have hverdict : script.verdict request.kind = (.ok, script) := by
    unfold Script.verdict
    rw [h.refusals, h.standing]
    rfl
  have hkept : (script.complete request).2.silenced.contains request.kind = false := by
    rw [(h.complete request).silenced]
    rfl
  unfold Script.respond
  simp only [hreq, hverdict, hkept]
  rfl

/-- What completes a request other than to enable the controller is neutral or answers it, whatever the
script. -/
lemma complete_events (script : Script) {request : Request} (hreq : request ≠ .enable) :
    ∀ event ∈ (script.complete request).1,
      isNeutral (.event event) = true ∨ answers request (.event event) = true := by
  have hneutral {events : List Event}
      (hall : events.all (fun event => isNeutral (.event event)) = true) :
      ∀ event ∈ events, isNeutral (.event event) = true ∨ answers request (.event event) = true :=
    fun event hmem => .inl (List.all_eq_true.mp hall event hmem)
  have hown {events : List Event}
      (hall : events.all (fun event => answers request (.event event)) = true) :
      ∀ event ∈ events, isNeutral (.event event) = true ∨ answers request (.event event) = true :=
    fun event hmem => .inr (List.all_eq_true.mp hall event hmem)
  cases request with
  | enable => exact absurd rfl hreq
  | disable graceful => exact hown rfl
  | select target protocol interface =>
    refine List.forall_mem_cons.mpr ⟨.inl rfl, hown ?_⟩
    unfold Script.reactivation
    split
    · split
      · split
        · rfl
        · rfl
      · rfl
    · rfl
  | deactivate sleep => exact hown (by cases sleep <;> rfl)
  | sendFrame frame =>
    refine hneutral ?_
    unfold Script.complete
    dsimp only
    split
    · rfl
    · rfl
  | registerNfcees =>
    refine hneutral ?_
    unfold Script.complete Script.announcement
    dsimp only
    split
    · rfl
    · rfl
  | _ => exact hneutral rfl

lemma Plain.events {script : Script} (h : Plain script) (request : Request) :
    ∀ event ∈ (script.complete request).1,
      isNeutral (.event event) = true ∨ answers request (.event event) = true := by
  by_cases hreq : request = .enable
  · subst hreq
    change ∀ event ∈ ([.enabled (script.completion .enable)] : List Event), _
    rw [h.completion]
    exact List.forall_mem_singleton.mpr (.inr rfl)
  · exact complete_events script hreq

lemma Plain.stays {script : Script} (h : Plain script) (request : Request) :
    Plain (script.respond request).2 := by
  cases hreq : Script.isUnconditional request.kind with
  | true =>
    unfold Script.respond
    rw [if_pos hreq]
    exact h
  | false =>
    rw [h.respond hreq]
    exact h.complete request

lemma Plain.quiet {script : Script} (h : Plain script) (request : Request) :
    ∀ happening ∈ (script.respond request).1.happenings,
      isNeutral happening = true ∨ answers request happening = true := by
  cases hreq : Script.isUnconditional request.kind with
  | true =>
    unfold Script.respond
    rw [if_pos hreq]
    exact fun _ hmem => absurd hmem List.not_mem_nil
  | false =>
    rw [h.respond hreq]
    intro happening hmem
    obtain ⟨event, hevent, rfl⟩ := List.mem_map.mp hmem
    exact h.events request event hevent

lemma Plain.accepts {script : Script} (h : Plain script) (request : Request) :
    (script.respond request).1.verdict = .ok := by
  cases hreq : Script.isUnconditional request.kind with
  | true =>
    unfold Script.respond
    rw [if_pos hreq]
  | false => rw [h.respond hreq]

lemma plain_obliging : Obliging Script.controller Plain where
  stays request _ h := h.stays request
  accepts script h := by
    change (script.respond .enable).1.verdict.isOk = true
    rw [h.accepts]
    rfl
  enables script h := by
    change Happening.event (.enabled .ok) ∈ (script.respond .enable).1.happenings
    rw [h.respond rfl]
    change _ ∈ [Happening.event (.enabled (script.completion .enable))]
    rw [h.completion]
    exact List.mem_singleton_self _
  quiet request script h happening hmem := by
    rcases h.quiet request happening hmem with hneutral | hown
    · exact .inl (calm_of_neutral hneutral)
    · exact calm_or_completes_of_answers hown

/-- A stack that failed while the controller refused to be disabled. -/
def abandoned : System Script :=
  ran Script.controller [] {} { refusals := [(.disable, .failed)] }
    [.move (.call (.host .bringUp)), .move (.event .transportError)]

/-- The controller takes every request and completes it with `ok`, both halves of the restart are called
a success, and yet the stack is not active after it. -/
theorem restart_stays_inactive :
    Obliging Script.controller Plain ∧
      (∀ script, Plain script → ∀ request, (script.respond request).1.verdict = .ok ∧
        script.completion request.kind = .ok) ∧
      Plain abandoned.controller ∧ abandoned.queue = [] ∧
      (restart.run Script.controller.alone abandoned).1 = (.verdict true, .verdict true) ∧
      (restart.run Script.controller.alone abandoned).2.host.flags.active = false :=
  ⟨plain_obliging, fun _ h request => ⟨h.accepts request, h.completion request.kind⟩,
    ⟨rfl, rfl, rfl, rfl⟩, rfl, rfl, rfl⟩

/-- A stack whose first attempt to come up was refused is active after a restart. -/
theorem restart_after_refusal :
    (restart.run Script.controller.alone (ran Script.controller [] {}
      { refusals := [(.enable, .rejected)] } [.move (.call (.host .bringUp))])).2.host.flags.active
        = true := by
  have hactive := (restart_active_iff Script.controller [] {} { refusals := [(.enable, .rejected)] }
    [.move (.call (.host .bringUp))] plain_obliging ⟨rfl, rfl, rfl, rfl⟩
    (fun _ hmem => absurd hmem List.not_mem_nil)).2.1
  refine hactive.mpr fun hstuck => ?_
  exact absurd (congrArg Prod.fst hstuck.1) nofun

end Scripted

end NfcStack.Proofs
