import NfcStack.Proofs.Calls

/-!
# Runs in company

A run is a list of deeds of one caller. Others may join in: right after any of its requests, and
whenever they may be able to go on, they do deeds of their own. Whatever the controller answers and
whoever joins in, the run is an evolution of the system that was booted.
-/

namespace NfcStack.Proofs

variable {σ : Type}

/-- What a caller does at a time: a move, or some turns of a presence loop. -/
inductive Deed where
  | move (next : Move)
  | watch (number loop turns : Nat)

namespace Deed

/-- Does a deed and delivers what is in flight after it. -/
def run : Deed → Op σ Unit
  | .move next => do
    let _ ← next.perform
    return ()
  | .watch number loop turns => do
    let _ ← Endpoint.watch number loop turns
    Op.attend

def runAll : List Deed → Op σ Unit
  | [] => return ()
  | deed :: rest => do
    deed.run
    runAll rest

end Deed

/-- Another caller. It may choose its deeds by everything there is to see. -/
structure Companion (σ : Type) where
  /-- What it does right after a request. -/
  meanwhile : Request → System σ → List Deed
  /-- What it goes on with when it may be able to. -/
  afterwards : System σ → List Deed
  /-- The reports of the controller that come in while another caller makes ready for an answer. -/
  reports : System σ → List Event := fun _ => []

/-- Reports as deeds, which every caller may be the witness of. -/
def Companion.meantime (companion : Companion σ) (s : System σ) : List Deed :=
  (companion.reports s).map fun event => .move (.event event)

/-- Does deeds in the midst of what others do, as long as deliveries go on. A deed that needs what is in
use leaves everything as it was. -/
def takeTurns (env : Environment σ) : List Deed → System σ → System σ
  | [], s => s
  | deed :: rest, s =>
    if s.late.isSome then s
    else
      let after := (deed.run.run { env with taken := env.taken ++ s.host.inUse } s).2
      if after.heldUp then s else takeTurns env rest after

/-- The surroundings that a companion joins. -/
def Companion.joins (companion : Companion σ) (env : Environment σ) : Environment σ :=
  { env with
    meantime := fun s => env.meantime (takeTurns env (companion.meantime s) s)
    interlude := fun request s =>
      env.interlude request (takeTurns env (companion.meanwhile request s) s)
    goOn := fun s => env.goOn (takeTurns env (companion.afterwards s) s) }

/-- A controller and whoever else calls on the same host. -/
def company (c : Controller σ) : List (Companion σ) → Environment σ
  | [] => c.alone
  | companion :: others => companion.joins (company c others)

/-- A host that nothing happened to, over a controller. -/
def booted (config : Config) (x : σ) : System σ := { host := Host.fresh config, controller := x }

/-- The system after a run. -/
def ran (c : Controller σ) (companions : List (Companion σ)) (config : Config) (x : σ)
    (deeds : List Deed) : System σ :=
  ((Deed.runAll deeds).run (company c companions) (booted config x)).2

lemma runAll_append (env : Environment σ) (deeds later : List Deed) (s : System σ) :
    (Deed.runAll (deeds ++ later)).run env s =
      (Deed.runAll later).run env ((Deed.runAll deeds).run env s).2 := by
  induction deeds generalizing s with
  | nil => rfl
  | cons deed rest ih => exact ih _

lemma ran_append (c : Controller σ) (companions : List (Companion σ)) (config : Config) (x : σ)
    (deeds later : List Deed) : ran c companions config x (deeds ++ later) =
      ((Deed.runAll later).run (company c companions) (ran c companions config x deeds)).2 :=
  congrArg Prod.snd (runAll_append _ deeds later _)

/-- A system after deeds that nobody else has a part in. -/
def afterDeeds (c : Controller σ) (deeds : List Deed) (s : System σ) : System σ :=
  ((Deed.runAll deeds).run c.alone s).2

section Runs

variable {P : Act → Prop} {env : Environment σ} {R : System σ → System σ → Prop}

/-- An act that is all a deed does by itself. -/
def Deed.ownAct : Deed → Option Act
  | .move next => Proofs.ownAct next
  | .watch _ _ _ => none

/-- The deeds that may set bounds of exchanges or bring the configured ones back. -/
def Deed.bounds : Deed → Bool
  | .move next => moveBounds next
  | .watch _ _ _ => true

/-- What a deed does by itself is of a kind. -/
def Deed.Within (P : Act → Prop) (deed : Deed) : Prop := ∀ act ∈ deed.ownAct, P act

lemma Deed.within (hreport : ∀ event, P (.report event))
    (hframe : ∀ frame, P (.request (.sendFrame frame))) (hsecure : ∀ secure, P (.change (.secure secure)))
    (deed : Deed) : deed.Within P := by
  intro act hact
  cases deed with
  | watch number loop turns => exact absurd hact nofun
  | move next =>
    cases next with
    | event event => exact Option.some.inj hact ▸ hreport event
    | call call =>
      cases call with
      | host call => exact hostAct_within hframe hsecure call act hact
      | session call => exact absurd hact nofun
      | endpoint number call => exact absurd hact nofun

/-- What a companion's deeds do by themselves is of a kind. -/
structure Companion.Within (P : Act → Prop) (companion : Companion σ) : Prop where
  meanwhile : ∀ request s, ∀ deed ∈ companion.meanwhile request s, deed.Within P
  afterwards : ∀ s, ∀ deed ∈ companion.afterwards s, deed.Within P
  meantime : ∀ s, ∀ deed ∈ companion.meantime s, deed.Within P

/-- Where every deed is of a kind, whatever companions do is. -/
lemma within_of_all (h : ∀ deed : Deed, deed.Within P) (companion : Companion σ) : companion.Within P :=
  ⟨fun _ _ deed _ => h deed, fun _ deed _ => h deed, fun _ deed _ => h deed⟩

/-- Reports that come in meanwhile do not start or stop radio discovery. -/
lemma reports_radio (env : Environment σ) (events : List Event) (s : System σ) :
    (takeTurns env (events.map fun event => .move (.event event)) s).host.flags.rf = s.host.flags.rf := by
  induction events generalizing s with
  | nil => rfl
  | cons event rest ih =>
    have harrived : (s.arrive event).host = s.host := by
      unfold System.arrive
      split
      · rfl
      · rfl
    have hfirst : (env.controller.attend (s.arrive event)).host.flags.rf = s.host.flags.rf := by
      rw [rf_of_steady ((follows_steady env.controller).attend (s.arrive event)), harrived]
    rw [List.map_cons]
    unfold takeTurns
    split
    · rfl
    · dsimp only
      split
      · rfl
      · exact (ih _).trans hfirst

section Deeds

variable (hR : Composes P env R) (hs : FollowsSelection R env) (hc : FollowsContent R env)
  (hf : FollowsRouting R env) (he : FollowsEndpoints R env)

include hR hs hc hf he

lemma deed_along (hx : ∀ act, ¬Particular act → ¬Bounding act → P act) (deed : Deed)
    (hd : deed.Within P) (hb : deed.bounds = true → ∀ act, Bounding act → P act) :
    Along R env (deed.run : Op σ Unit) := by
  cases deed with
  | move next =>
    exact along_bind hR (perform_along hR hs hc hf he hx next hd hb) fun _ => along_pure hR _
  | watch number loop turns =>
    have hwatch := watch_along hR (fun act h hp => hx act hp (handling_unbounding act h))
      (fun _ _ hf => hx _ (not_not_intro hf) id) (hb rfl _ trivial) number loop turns
    exact along_bind hR hwatch fun _ => along_attend hR

variable (hx : ∀ act, ¬Particular act → P act)

include hx

/-- What holds along everything that deeds are made of holds along every run. -/
lemma runAll_along (deeds : List Deed) (hd : ∀ deed ∈ deeds, deed.Within P) :
    Along R env (Deed.runAll deeds : Op σ Unit) := by
  induction deeds with
  | nil => exact along_pure hR _
  | cons deed rest ih =>
    obtain ⟨hfirst, hrest⟩ := List.forall_mem_cons.mp hd
    have hdeed := deed_along hR hs hc hf he (fun act h _ => hx act h) deed hfirst
      fun _ act h => hx act (bounding_plain act h)
    exact along_bind hR hdeed fun _ => ih hrest

end Deeds

/-- A relation that holds along everything that runs over a controller are made of, whoever joins in. -/
structure FollowsRuns (c : Controller σ) (P : Act → Prop) (R : System σ → System σ → Prop) : Prop where
  plain : ∀ act, ¬Particular act → P act
  evolves : ∀ {s t}, Evolves c P s t → R s t
  trans : ∀ {s t u}, R s t → R t u → R s u
  occupy : ∀ {s t} (resource : Resource), R (s.mapHost (takeResource resource)) t →
    R s (c.release (t.mapHost (giveBack s.host.inUse)))
  selection : ∀ {env}, env.controller = c → Composes P env R → FollowsSelection R env
  content : ∀ {env}, env.controller = c → Composes P env R → FollowsContent R env
  routing : ∀ {env}, env.controller = c → Composes P env R → FollowsRouting R env
  endpoints : ∀ {env}, env.controller = c → Composes P env R → FollowsEndpoints R env

lemma company_controller (c : Controller σ) (companions : List (Companion σ)) :
    (company c companions).controller = c := by
  induction companions with
  | nil => rfl
  | cons companion others ih => exact ih

namespace FollowsRuns

variable {c : Controller σ} (h : FollowsRuns c P R)

include h

lemma composes (hc : env.controller = c) (hmeantime : ∀ s, R s (env.meantime s))
    (hradio : ∀ s, (env.meantime s).host.flags.rf = s.host.flags.rf)
    (hinterlude : ∀ request s, R s (env.interlude request s))
    (hgoOn : ∀ s, R s (env.goOn s)) : Composes P env R := by
  subst hc
  exact ⟨h.evolves, h.trans, h.occupy, hmeantime, hradio, hinterlude, hgoOn⟩

lemma runAll (hc : env.controller = c) (hR : Composes P env R) (deeds : List Deed)
    (hd : ∀ deed ∈ deeds, deed.Within P) : Along R env (Deed.runAll deeds : Op σ Unit) :=
  runAll_along hR (h.selection hc hR) (h.content hc hR) (h.routing hc hR) (h.endpoints hc hR) h.plain deeds hd

lemma deed (hc : env.controller = c) (hR : Composes P env R) (deed : Deed) (hd : deed.Within P) :
    Along R env (deed.run : Op σ Unit) :=
  deed_along hR (h.selection hc hR) (h.content hc hR) (h.routing hc hR) (h.endpoints hc hR)
    (fun act hp _ => h.plain act hp) deed hd fun _ act hb => h.plain act (bounding_plain act hb)

lemma takeTurns (hc : env.controller = c) (hR : Composes P env R) (deeds : List Deed)
    (hd : ∀ deed ∈ deeds, deed.Within P) (s : System σ) : R s (takeTurns env deeds s) := by
  have hstill (s : System σ) : R s s := along_pure hR () s
  induction deeds generalizing s with
  | nil => exact hstill s
  | cons deed rest ih =>
    obtain ⟨hfirst, hrest⟩ := List.forall_mem_cons.mp hd
    unfold NfcStack.Proofs.takeTurns
    split
    · exact hstill s
    · dsimp only
      split
      · exact hstill s
      · -- What others have taken changes nothing that the relation rests on.
        have hc' : ({ env with taken := env.taken ++ s.host.inUse } : Environment σ).controller = c := hc
        have hdeed := h.deed hc' (h.composes hc' hR.meantime hR.radio hR.interlude hR.goOn) deed hfirst s
        exact h.trans hdeed (ih hrest _)

lemma joins (hc : env.controller = c) (hR : Composes P env R) {companion : Companion σ}
    (hw : companion.Within P) : Composes P (companion.joins env) R :=
  h.composes hc
    (fun s => h.trans (h.takeTurns hc hR _ (hw.meantime s) s) (hR.meantime _))
    (fun s => (hR.radio _).trans (reports_radio env (companion.reports s) s))
    (fun request s => h.trans (h.takeTurns hc hR _ (hw.meanwhile request s) s) (hR.interlude request _))
    fun s => h.trans (h.takeTurns hc hR _ (hw.afterwards s) s) (hR.goOn _)

/-- The relation holds along all that a deed does before the last deliveries. -/
lemma before_attend (hc : env.controller = c) (hR : Composes P env R) {deed : Deed} (hd : deed.Within P)
    (s : System σ) : ∃ t, R s t ∧ (deed.run.run env s).2 = c.attend t := by
  cases deed with
  | move next =>
    have hmove := move_along hR (h.selection hc hR) (h.content hc hR) (h.routing hc hR) (h.endpoints hc hR)
      (fun act hp _ => h.plain act hp) next hd (fun _ act hb => h.plain act (bounding_plain act hb)) s
    exact ⟨_, hmove, hc ▸ rfl⟩
  | watch number loop turns =>
    have hwatch := watch_along hR (fun act _ => h.plain act) (fun _ _ hf => h.plain _ (not_not_intro hf))
      (h.plain _ id) number loop turns s
    exact ⟨_, hwatch, hc ▸ rfl⟩

/-- The relation holds along whatever others do. -/
lemma company (companions : List (Companion σ)) (hw : ∀ companion ∈ companions, companion.Within P) :
    Composes P (company c companions) R := by
  induction companions with
  | nil =>
    exact h.composes rfl (fun _ => h.evolves (.refl _)) (fun _ => rfl) (fun _ _ => h.evolves (.refl _))
      fun _ => h.evolves (.refl _)
  | cons companion others ih =>
    obtain ⟨hfirst, hrest⟩ := List.forall_mem_cons.mp hw
    exact h.joins (company_controller c others) (ih hrest) hfirst

/-- The relation holds along a run in company. -/
lemma runs (companions : List (Companion σ)) (hw : ∀ companion ∈ companions, companion.Within P)
    (deeds : List Deed) (hd : ∀ deed ∈ deeds, deed.Within P) :
    Along R (NfcStack.Proofs.company c companions) (Deed.runAll deeds : Op σ Unit) :=
  h.runAll (company_controller c companions) (h.company companions hw) deeds hd

end FollowsRuns

section Anything

variable (ha : ∀ act, P act)

include ha

/-- Every run is an evolution. -/
lemma follows_evolves (c : Controller σ) : FollowsRuns c P (Evolves c P) where
  plain act _ := ha act
  evolves := id
  trans := .trans
  occupy resource h := h.release_after resource
  selection _ hR := followsSelection hR fun act _ => ha act
  content _ hR := followsContent hR (followsSelection hR fun act _ => ha act) fun act _ => ha act
  routing _ hR := sparesMode_followsRouting hR fun act _ => ha act
  endpoints _ hR :=
    have ⟨hs, hc⟩ := tagWork_follows (fun act _ => ha act) hR
    followsEndpoints hR hs hc (fun act _ _ => ha act) fun _ _ => ha _

lemma runAll_keepsTo (ho : Orderly P env) (deeds : List Deed) :
    KeepsTo P env (Deed.runAll deeds : Op σ Unit) :=
  (follows_evolves ha env.controller).runAll rfl ho.composes deeds fun _ _ act _ => ha act

theorem ran_evolves (c : Controller σ) (companions : List (Companion σ)) (config : Config) (x : σ)
    (deeds : List Deed) : Evolves c P (booted config x) (ran c companions config x deeds) :=
  (follows_evolves ha c).runs companions (fun companion _ => within_of_all (fun _ act _ => ha act) companion)
    deeds (fun _ _ act _ => ha act) (booted config x)

/-- A run ends with deliveries, unless nothing happened at all. -/
theorem ran_attended (c : Controller σ) (companions : List (Companion σ)) (config : Config) (x : σ)
    (deeds : List Deed) : ran c companions config x deeds = booted config x ∨
      ∃ s, Evolves c P (booted config x) s ∧ ran c companions config x deeds = c.attend s := by
  obtain rfl | ⟨before, last, rfl⟩ := List.eq_nil_or_concat deeds
  · exact .inl rfl
  · have hfollows := follows_evolves ha c
    have hcompany := hfollows.company companions
      fun companion _ => within_of_all (fun _ act _ => ha act) companion
    obtain ⟨s, hlast, hattended⟩ := hfollows.before_attend (company_controller c companions) hcompany
      (fun act _ => ha act : last.Within P) (ran c companions config x before)
    refine .inr ⟨s, (ran_evolves ha c companions config x before).trans hlast, ?_⟩
    rw [List.concat_eq_append, ran_append]
    exact hattended

end Anything

end Runs

section Traces

variable {c : Controller σ} {P : Act → Prop} {G : Entry → Prop} {s t : System σ}

/-- An evolution leaves in the trace what deliveries and late notices leave, and the requests of
callers. -/
lemma Evolves.adds_by (hd : ∀ happening (s : System σ), Adds G s (c.deliver happening s))
    (hn : ∀ target (s : System σ), Adds G s (c.selectDiscovered target s))
    (hr : ∀ request verdict flags, P (.request request) →
      (request = .commitRouting → flags.rf = false) → G ⟨.request .caller request verdict, flags⟩)
    (hq : ∀ verdict flags, G ⟨.request .caller .queryNfcees verdict, flags⟩)
    (h : Evolves c P s t) : Adds G s t := by
  have hasked {entry : Entry} (hentry : G entry) : ∀ other ∈ [entry], G other := by
    intro other hmem
    rw [List.mem_singleton.mp hmem]
    exact hentry
  have hsteps : FollowsSteps c P (Adds G) :=
    { follows_adds_of hd with
      request := fun request _ hp hc => ⟨[_], rfl, hasked (hr request _ _ hp hc)⟩
      query := fun _ => ⟨[_], rfl, hasked (hq _ _)⟩
      change := fun _ _ _ => adds_of_trace_eq rfl
      inUse := fun _ _ => adds_of_trace_eq rfl
      heldUp := fun _ => adds_of_trace_eq rfl
      late := fun _ _ _ => adds_of_trace_eq rfl
      selects := fun notice _ _ => .trans (adds_of_trace_eq rfl) (hn notice.target _) }
  exact hsteps.evolves h

lemma Evolves.adds (hd : ∀ entry, OfDelivery entry → G entry)
    (hr : ∀ request verdict flags, P (.request request) →
      (request = .commitRouting → flags.rf = false) → G ⟨.request .caller request verdict, flags⟩)
    (hq : ∀ verdict flags, G ⟨.request .caller .queryNfcees verdict, flags⟩)
    (h : Evolves c P s t) : Adds G s t :=
  h.adds_by (fun happening s => (deliver_adds c happening s).mono hd)
    (fun target s => (selectDiscovered_adds c target s).mono fun entry hof => hd entry (.inr hof)) hr hq

/-- The trace only goes on. -/
lemma Evolves.covers (h : Evolves c P s t) : s.trace <+: t.trace := by
  have hadds : Adds (fun _ => True) s t :=
    h.adds (fun _ _ => trivial) (fun _ _ _ _ _ => trivial) fun _ _ => trivial
  obtain ⟨new, htrace, -⟩ := hadds
  exact ⟨new, htrace.symm⟩

end Traces

end NfcStack.Proofs
