import NfcStack.Proofs.LateNotices
import NfcStack.Proofs.TagDiscoveries

/-!
# Operations without a tag

Every operation on the tag looks first whether there is an active stack with a tag. If there is none it asks
nothing of the controller and leaves the session as it is. An operation of an endpoint that is made of several
of them may at most note something about its endpoint. It looks only when it has the endpoint, so it does ask
for a tag that comes while it waits for that.
-/

namespace NfcStack.Proofs

variable {σ α β : Type} {c : Controller σ} {env : Environment σ} {s t u : System σ}

section Sessions

end Sessions

section Endpoints

/-- What passes while an operation of an endpoint asks for nothing: it notes something about an endpoint, it is
held up, or it takes a resource once others have had their turn, and gives it back in the end. -/
inductive Idles (env : Environment σ) : System σ → System σ → Prop where
  | refl (s : System σ) : Idles env s s
  | trans {s t u : System σ} : Idles env s t → Idles env t u → Idles env s u
  | note (s : System σ) (number : Nat) (f : Endpoint → Endpoint) :
      Idles env s (s.mapHost (Host.mapEndpoint number f))
  | holdUp (s : System σ) : Idles env s { s with heldUp := true }
  | reserve {s t : System σ} (resource : Resource)
      (h : Idles env ((env.goOn s).mapHost (takeResource resource)) t) :
      Idles env s (env.controller.release (t.mapHost (giveBack (env.goOn s).host.inUse)))

/-- The moments of such an operation. -/
inductive Moment (env : Environment σ) : System σ → System σ → Prop where
  | now (s : System σ) : Moment env s s
  | later {s t u : System σ} : Idles env s t → Moment env t u → Moment env s u
  | within {s u : System σ} (resource : Resource)
      (h : Moment env ((env.goOn s).mapHost (takeResource resource)) u) : Moment env s u

/-- There is no tag, and at no moment of an operation that asks for nothing does one come. -/
def StaysTagless (env : Environment σ) (s : System σ) : Prop :=
  ∀ u, Moment env s u → u.host.flags.tagReady = false

lemma StaysTagless.untagged (h : StaysTagless env s) : s.host.flags.tagReady = false := h s (.now s)

lemma StaysTagless.after (h : StaysTagless env s) (hst : Idles env s t) : StaysTagless env t :=
  fun u hu => h u (.later hst hu)

lemma StaysTagless.holding (h : StaysTagless env s) (resource : Resource) :
    StaysTagless env ((env.goOn s).mapHost (takeResource resource)) :=
  fun u hu => h u (.within resource hu)

/-- Among others who act in some way such an operation only adds notes about endpoints to what they do. -/
lemma Idles.evolves {P : Act → Prop} (ho : Orderly P env)
    (hp : ∀ number f, P (.change (.endpoint number f))) (h : Idles env s t) :
    Evolves env.controller P s t := by
  induction h with
  | refl s => exact .refl s
  | trans _ _ ih₁ ih₂ => exact .trans ih₁ ih₂
  | note s number f => exact .change (.endpoint number f) (hp number f)
  | holdUp s => exact .holdUp
  | reserve resource _ ih => exact (ho.goOn _).trans (ih.release_after resource)

/-- Without a tag an operation asks for nothing, and gives such a result. -/
def Abstains (env : Environment σ) (op : Op σ α) (Q : α → Prop) : Prop :=
  ∀ s, StaysTagless env s → Idles env s (op.run env s).2 ∧ Q (op.run env s).1

lemma Abstains.mono {op : Op σ α} {Q Q' : α → Prop} (h : Abstains env op Q) (hQ : ∀ a, Q a → Q' a) :
    Abstains env op Q' :=
  fun s hs => ⟨(h s hs).1, hQ _ (h s hs).2⟩

lemma Abstains.bind {op : Op σ α} {next : α → Op σ β} {Q : α → Prop} {Q' : β → Prop}
    (h : Abstains env op Q) (hn : ∀ a, Q a → Abstains env (next a) Q') : Abstains env (op >>= next) Q' := by
  intro s hs
  rw [Op.run_bind]
  obtain ⟨hidles, hresult⟩ := h s hs
  obtain ⟨hrest, hlast⟩ := hn _ hresult _ (hs.after hidles)
  exact ⟨hidles.trans hrest, hlast⟩

lemma Abstains.map {op : Op σ α} {Q : α → Prop} (h : Abstains env op Q) {f : α → β} {Q' : β → Prop}
    (hQ : ∀ a, Q a → Q' (f a)) : Abstains env (f <$> op) Q' :=
  fun s hs => ⟨(h s hs).1, hQ _ (h s hs).2⟩

lemma Abstains.reserving {resource : Resource} {op : Op σ α} {Q : α → Prop} (h : Abstains env op Q) :
    Abstains env (Op.reserving resource op) Q := by
  intro s hs
  have hrun : (Op.reserving resource op).run env s =
      (if env.taken.contains resource then do
          Op.holdUp
          op
        else do
          if (← Op.read (·.inUse)).contains resource then op else Op.occupying resource op).run env s := rfl
  rw [hrun]
  split
  · have hheldUp : Abstains env (Op.holdUp : Op σ Unit) fun _ => True := fun s _ => ⟨.holdUp s, trivial⟩
    exact (hheldUp.bind fun _ _ => h) s hs
  · rw [Op.run_bind, Op.run_read]
    split
    · exact h s hs
    · obtain ⟨hidles, hresult⟩ := h _ (hs.holding resource)
      exact ⟨.reserve resource hidles, hresult⟩

/-- The operations of an endpoint that are about its tag. -/
def EndpointCall.concernsTag : EndpointCall → Bool
  | .connect _ => true
  | .reconnect => true
  | .transceive _ _ => true
  | .checkPresence => true
  | .checkNdef => true
  | .readNdef => true
  | .writeNdef _ => true
  | .format _ => true
  | .makeReadOnly => true
  | .isFormattable => true
  | .extras _ => true
  | .addNdef => true
  | _ => false

end Endpoints

section Alone

/-- At most the records of endpoints differ, and whether a caller is held up. -/
def OnlyEndpoints (s t : System σ) : Prop :=
  ∃ endpoints heldUp, t = { s with host := { s.host with endpoints }, heldUp }

lemma OnlyEndpoints.trans (h₁ : OnlyEndpoints s t) (h₂ : OnlyEndpoints t u) : OnlyEndpoints s u := by
  obtain ⟨endpoints, heldUp, rfl⟩ := h₁
  obtain ⟨endpoints, heldUp, rfl⟩ := h₂
  exact ⟨endpoints, heldUp, rfl⟩

/-- There is no tag, and no notice of a discovery waits for a free field. -/
structure Tagless (s : System σ) : Prop where
  untagged : s.host.flags.tagReady = false
  held : NoticeHeld s

lemma Tagless.after (hs : Tagless s) (h : OnlyEndpoints s t) : Tagless t := by
  obtain ⟨endpoints, heldUp, rfl⟩ := h
  exact ⟨hs.untagged, hs.held⟩

lemma Tagless.holding (hs : Tagless s) (resource : Resource) :
    Tagless (s.mapHost (takeResource resource)) := by
  refine ⟨hs.untagged, fun hlate => ?_⟩
  have hused : s.host.inUse.contains Resource.field = true := hs.held hlate
  change (resource :: s.host.inUse).contains Resource.field = true
  rw [List.contains_cons, hused, Bool.or_true]

variable (hgo : ∀ u, env.goOn u = u)

include hgo

/-- Where nobody else acts, and nothing waits for what is given back, taking a resource changes nothing. -/
lemma Idles.only (h : Idles env s t) (hs : Tagless s) : OnlyEndpoints s t := by
  induction h with
  | refl s => exact ⟨_, _, rfl⟩
  | trans _ _ ih₁ ih₂ => exact (ih₁ hs).trans (ih₂ (hs.after (ih₁ hs)))
  | note s number f => exact ⟨_, _, rfl⟩
  | holdUp s => exact ⟨_, _, rfl⟩
  | @reserve s t resource _ ih =>
    rw [hgo] at ih ⊢
    obtain ⟨endpoints, heldUp, hafter⟩ := ih (hs.holding resource)
    have hback : t.mapHost (giveBack s.host.inUse) =
        { s with host := { s.host with endpoints }, heldUp } := by
      rw [hafter]
      rfl
    have hreleased : env.controller.release { s with host := { s.host with endpoints }, heldUp } =
        { s with host := { s.host with endpoints }, heldUp } := by
      unfold Controller.release
      dsimp only
      split
      · next hlate => exact if_pos (hs.held (by rw [hlate]; rfl))
      · rfl
    rw [hback, hreleased]
    exact ⟨endpoints, heldUp, rfl⟩

lemma Tagless.stays (hs : Tagless s) : StaysTagless env s := by
  intro u hu
  induction hu with
  | now s => exact hs.untagged
  | later hidles _ ih => exact ih (hs.after (hidles.only hgo hs))
  | within resource _ ih =>
    rw [hgo] at ih
    exact ih (hs.holding resource)

end Alone

section Company

/-- There is no tag, nothing is on its way to the host, and no notice waits. -/
structure Unmoved (s : System σ) : Prop where
  untagged : s.host.flags.tagReady = false
  arrived : s.queue = []
  unheld : s.late = none

lemma Unmoved.released (h : Unmoved s) : c.release s = s := by
  unfold Controller.release
  rw [h.unheld]

lemma Unmoved.attended (h : Unmoved s) : c.attend s = s := by
  have hround : c.round s = s := by
    unfold Controller.round
    rw [h.arrived]
    change { s with queue := [] } = s
    rw [← h.arrived]
  unfold Controller.attend
  rw [hround, hround]

end Company

end NfcStack.Proofs
