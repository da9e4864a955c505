import NfcStack.Bench.Sample
import NfcStack.Bench.Script
import NfcStack.Proofs.TagMemory

/-!
# Restarts and the memory of tags

The stack is taken down and brought up again. Nothing in that forgets the tag: what the session
remembers is forgotten only if the controller reports that the field is empty while the stack is on
its way.
-/

namespace NfcStack.Proofs

variable {σ : Type} (c : Controller σ)

section Requests

lemma confirmed_asks (venue : Venue Status) (request : Request) (s : System σ) :
    Asks s ((Tag.confirmed venue request).run c.alone s).2 [request] := by
  have hcall := call_asks c venue request s
  unfold Tag.confirmed
  rw [Op.run_bind]
  generalize (Op.call venue request).run c.alone s = call at hcall ⊢
  obtain ⟨outcome, t⟩ := call
  cases outcome <;> exact hcall

lemma format_asks (s : System σ) (h : s.host.flags.tagReady = true) :
    Asks s ((Tag.format : Op σ Bool).run c.alone s).2 [.format] := by
  unfold Tag.format
  rw [whenReady_run, if_pos h]
  exact holdingField_asks c _ _ (confirmed_asks c _ _ _)

/-- A write on a tag that is there begins by formatting it exactly if it was last found to be
formatable. -/
lemma preparedWrite_asks (written : Bytes) (s : System σ) (h : s.host.flags.tagReady = true) :
    ∃ requests, Asks s ((do
        let lastCheck ← Op.read (·.session.lastCheck)
        let prepared ← if lastCheck = some .formatable then Tag.format else pure true
        if prepared then Tag.confirmed Venue.write (.writeNdef written)
        else return false : Op σ Bool).run c.alone s).2 requests ∧
      (.format ∈ requests ↔ s.host.session.lastCheck = some .formatable) := by
  rw [Op.run_bind, Op.run_read]
  by_cases hcheck : s.host.session.lastCheck = some .formatable
  · have hformat := format_asks c s h
    have hrest : ∃ rest, Asks s ((do
        let prepared ← Tag.format
        if prepared then Tag.confirmed Venue.write (.writeNdef written)
        else return false : Op σ Bool).run c.alone s).2 ([.format] ++ rest) := by
      rw [Op.run_bind]
      generalize (Tag.format : Op σ Bool).run c.alone s = formatted at hformat ⊢
      obtain ⟨prepared, t⟩ := formatted
      cases prepared with
      | false => exact ⟨[], hformat.trans (asks_of_trace_eq rfl)⟩
      | true => exact ⟨_, hformat.trans (confirmed_asks c Venue.write (.writeNdef written) t)⟩
    obtain ⟨rest, hasks⟩ := hrest
    dsimp only
    rw [if_pos hcheck]
    exact ⟨_, hasks, fun _ => hcheck, fun _ => List.mem_cons_self⟩
  · have hasks := confirmed_asks c Venue.write (.writeNdef written) s
    dsimp only
    rw [if_neg hcheck, Op.run_bind, Op.run_pure]
    dsimp only
    rw [if_pos rfl]
    refine ⟨_, hasks, fun hmem => ?_, fun hyes => absurd hyes hcheck⟩
    exact absurd (List.mem_singleton.mp hmem) nofun

/-- A tag is formatted before a write exactly if it is there and was last found to be formatable. -/
lemma writeNdef_asks (message : Bytes) (s : System σ) :
    ∃ requests, Asks s ((Tag.writeNdef message).run c.alone s).2 requests ∧
      (.format ∈ requests ↔
        s.host.flags.tagReady = true ∧ s.host.session.lastCheck = some .formatable) := by
  unfold Tag.writeNdef
  rw [whenReady_run]
  by_cases hready : s.host.flags.tagReady = true
  · have hbegun : (entered Host.waitBound s).host.flags.tagReady = true := by
      rw [entered_flags]
      exact hready
    obtain ⟨requests, hasks, hformat⟩ := preparedWrite_asks c
      (if message.isEmpty then Tag.emptyMessage else message) (entered Host.waitBound s) hbegun
    rw [entered_session] at hformat
    rw [if_pos hready]
    refine ⟨requests, holdingField_asks c _ _ hasks, ?_⟩
    rw [hformat]
    exact ⟨fun h => ⟨hready, h⟩, fun h => h.2⟩
  · rw [if_neg hready]
    refine ⟨[], asks_of_trace_eq rfl, fun h => absurd h List.not_mem_nil, fun h => ?_⟩
    exact absurd h.1 hready

end Requests

section Restart

lemma restart_told (s : System σ) (hs : s.receiver ≠ .session) :
    Told (eventsSince s (restart.run c.alone s).2) s (restart.run c.alone s).2 := by
  have hkeeps : KeepsTo SparesTag c.alone (restart : Op σ (Answer × Answer)) :=
    restart_keepsTo (orderly_alone SparesTag c) fun _ h => h
  obtain ⟨-, new, htrace, htold⟩ := (hkeeps s).remembers hs
  rw [eventsSince_eq htrace]
  exact htold

/-- A session that remembers nothing lists only the slots of the next activation. -/
lemma admit_forgotten {session session' : Session} {act : Activation}
    (hforgotten : memoryOf session = {}) (h : session.admit? act = some session') :
    (Endpoint.ofSession session' act).slots = Slot.ofActivation act := by
  have hslots : session.slots = [] := congrArg TagMemory.slots hforgotten
  unfold Session.admit? at h
  split at h
  · exact absurd h nofun
  · obtain rfl := Option.some.inj h
    change session.slots ++ Slot.ofActivation act = Slot.ofActivation act
    rw [hslots, List.nil_append]

/-- As long as no tag was announced the last news, if any, is that the field is empty. -/
lemma news_unseen {news : List TagNews} (h : .seen ∉ news) :
    news = [] ∨ .gone ∈ news ∧ news.getLast? = some .gone := by
  cases hlast : news.getLast? with
  | none => exact .inl (List.getLast?_eq_none_iff.mp hlast)
  | some last =>
    have hmem : last ∈ news := List.mem_of_getLast? hlast
    cases last with
    | seen => exact absurd hmem h
    | gone => exact .inr ⟨hmem, rfl⟩

lemma Told.forgotten_iff {events : List Event} {s t : System σ} (h : Told events s t)
    (hlate : s.late = none) (hseen : .seen ∉ newsOf events) :
    memoryOf t.host.session = {} ↔
      .gone ∈ newsOf events ∨ memoryOf s.host.session = {} := by
  rcases news_unseen hseen with hnothing | ⟨hgone, hlast⟩
  · rw [(h.same hnothing hlate).2, hnothing]
    exact ⟨.inr, fun hor => hor.resolve_left List.not_mem_nil⟩
  · exact ⟨fun _ => .inl hgone, fun _ => (h.gone hlast).2⟩

/-- A session that remembers nothing formats no tag before it writes to it. -/
lemma writeNdef_forgotten (message : Bytes) {s : System σ} (h : memoryOf s.host.session = {}) :
    ∃ requests, Asks s ((Tag.writeNdef message).run c.alone s).2 requests ∧ .format ∉ requests := by
  have hcheck : s.host.session.lastCheck = none := congrArg TagMemory.lastCheck h
  obtain ⟨requests, hasks, hformat⟩ := writeNdef_asks c message s
  refine ⟨requests, hasks, fun hmem => ?_⟩
  rw [hcheck] at hformat
  exact absurd (hformat.mp hmem).2 nofun

/-- What a restart after any run does to the memory of the tag. Without a report that the field is empty
all slots and the last check stay; unless a tag was announced in the meantime, the memory is that of a
fresh session exactly if there was such a report or nothing to forget. -/
theorem restart_forgets_iff (c : Controller σ) (companions : List (Companion σ)) (config : Config)
    (x : σ) (deeds : List Deed) :
    let s := ran c companions config x deeds
    let t := (restart.run c.alone s).2
    let news := newsOf (eventsSince s t)
    (.gone ∉ news → s.host.session.slots <+: t.host.session.slots ∧
      t.host.session.lastCheck = s.host.session.lastCheck) ∧
    (news = [] → memoryOf t.host.session = memoryOf s.host.session) ∧
    (.seen ∉ news → (memoryOf t.host.session = memoryOf (Session.fresh config.tagTimeouts) ↔
      .gone ∈ news ∨ memoryOf s.host.session = memoryOf (Session.fresh config.tagTimeouts))) ∧
    (memoryOf t.host.session = memoryOf (Session.fresh config.tagTimeouts) →
      (∀ act session, t.host.session.admit? act = some session →
        (Endpoint.ofSession session act).slots = Slot.ofActivation act) ∧
      ∀ message, ∃ requests, Asks t ((Tag.writeNdef message).run c.alone t).2 requests ∧
        .format ∉ requests) := by
  obtain ⟨-, hlate, hattended⟩ := ran_at_rest c companions config x deeds
  have htold := restart_told c (ran c companions config x deeds) hattended.not_session
  dsimp only
  rw [memoryOf_fresh]
  generalize ran c companions config x deeds = s at *
  generalize ht : (restart.run c.alone s).2 = t at *
  refine ⟨htold.kept, fun hnews => (htold.same hnews hlate).2, htold.forgotten_iff hlate, fun h => ?_⟩
  exact ⟨fun _ _ => admit_forgotten h, fun message => writeNdef_forgotten c message h⟩

/-- A stack is brought up, and a card comes into the field. -/
def cardDeeds : List Deed :=
  [.move (.call (.host .bringUp)), .move (.event (.activated (Sample.isoDepCard 1)))]

/-- A stack with a card in the field, over a controller that is well disposed. -/
def withCard : System Script := ran Script.controller [] {} {} cardDeeds

/-- The stack is active and the restart succeeds, and yet the card is not forgotten. -/
theorem restart_keeps_card :
    withCard.host.flags.active = true ∧
      (restart.run Script.controller.alone withCard).1 = (.verdict true, .verdict true) ∧
      memoryOf (restart.run Script.controller.alone withCard).2.host.session ≠
        memoryOf (Session.fresh {}) := by
  refine ⟨rfl, rfl, ?_⟩
  decide

theorem restart_without_news :
    newsOf (eventsSince withCard (restart.run Script.controller.alone withCard).2) = [] ∧
      memoryOf (restart.run Script.controller.alone withCard).2.host.session =
        memoryOf withCard.host.session ∧
      memoryOf withCard.host.session ≠ memoryOf (Session.fresh {}) := by
  have hnews : newsOf (eventsSince withCard (restart.run Script.controller.alone withCard).2) = [] := by
    rfl
  have hkept := (restart_forgets_iff Script.controller [] {} {} cardDeeds).2.1 hnews
  exact ⟨hnews, hkept, by decide⟩

end Restart

end NfcStack.Proofs
