import NfcStack.Bench.Sample
import NfcStack.Bench.Script
import NfcStack.Proofs.EndpointKeeping

/-!
# The slots of an endpoint

The slots an endpoint is made with stay as they are. Behind them at most one slot is ever added, by the
search for a message, and the flag that marks the search as done is set before it begins. Details of a
slot are kept by position, so they stay true of the slot while the list grows.
-/

namespace NfcStack.Proofs

variable {σ : Type} {c : Controller σ} {s t : System σ}

/-- The technologies of the slots that the search for a message adds. -/
def IsMessageKind (technology : Technology) : Prop :=
  technology = .ndef ∨ technology = .ndefFormatable

/-- What may become of an endpoint: its slots stay, or the search adds one derived from one of them. -/
structure Grows (before after : Endpoint) : Prop where
  flag : before.ndefAdded = true → after.ndefAdded = true
  kept : before.ndefAdded = true → after.slots = before.slots
  slots : after.slots = before.slots ∨ after.ndefAdded = true ∧
    ∃ found ∈ before.slots, ∃ technology, IsMessageKind technology ∧
      after.slots = before.slots ++ [⟨technology, found.handle, found.protocol, [], []⟩]
  extras : before.extras <+: after.extras

lemma Grows.refl (endpoint : Endpoint) : Grows endpoint endpoint where
  flag := id
  kept _ := rfl
  slots := .inl rfl
  extras := List.prefix_refl _

lemma Grows.trans {first next last : Endpoint} (h₁ : Grows first next) (h₂ : Grows next last) :
    Grows first last where
  flag hflag := h₂.flag (h₁.flag hflag)
  kept hflag := (h₂.kept (h₁.flag hflag)).trans (h₁.kept hflag)
  slots := by
    rcases h₁.slots with hsame | ⟨hflag, hadded⟩
    · have hthen := h₂.slots
      rw [hsame] at hthen
      exact hthen
    · rw [h₂.kept hflag]
      exact .inr ⟨h₂.flag hflag, hadded⟩
  extras := h₁.extras.trans h₂.extras

lemma KeepsSlots.grows {f : Endpoint → Endpoint} (hf : KeepsSlots f) (endpoint : Endpoint) :
    Grows endpoint (f endpoint) := by
  obtain ⟨hslots, hflag, hextras⟩ := hf endpoint
  exact ⟨hflag, fun _ => hslots, .inl hslots, hextras⟩

/-- The endpoint is known by its first slot, which stays the first. -/
lemma Grows.handle {before after : Endpoint} (h : Grows before after) :
    after.handle = before.handle := by
  unfold Endpoint.handle
  rcases h.slots with hsame | ⟨-, found, hfound, technology, -, hadded⟩
  · rw [hsame]
  · rw [hadded]
    cases hslots : before.slots with
    | nil =>
      rw [hslots] at hfound
      exact absurd hfound List.not_mem_nil
    | cons first rest => rfl

/-- Details that are known stay known. -/
lemma Grows.knownExtras {before after : Endpoint} (h : Grows before after) {position : Nat}
    {extras : Extras} (hknown : before.knownExtras? position = some extras) :
    after.knownExtras? position = some extras := by
  obtain ⟨more, hmore⟩ := h.extras
  unfold Endpoint.knownExtras? at hknown ⊢
  rw [← hmore, List.lookup_append, hknown]
  rfl

section Acts

/-- Acts that add no slot to an endpoint. -/
def SparesSlots : Act → Prop
  | .change (.endpoint _ f) => KeepsSlots f
  | _ => True

lemma tagWork_sparesSlots : ∀ act, TagWork act → SparesSlots act := by
  rintro (request | event | change) h
  · trivial
  · trivial
  · cases change with
    | endpoint number f => exact h.elim
    | _ => trivial

/-- From one system to another every endpoint grew. -/
def AllGrow (s t : System σ) : Prop := EndpointsBy (fun _ => Grows) s t

lemma allGrow_of_prefix (h : s.host.endpoints <+: t.host.endpoints) : AllGrow s t :=
  endpointsBy_of_prefix (fun _ => Grows.refl) h

lemma AllGrow.trans {u : System σ} (h₁ : AllGrow s t) (h₂ : AllGrow t u) : AllGrow s u :=
  EndpointsBy.trans Grows.trans h₁ h₂

lemma Evolves.allGrow (h : Evolves c SparesSlots s t) : AllGrow s t :=
  h.endpoints (fun _ => Grows.refl) Grows.trans fun _ _ hf => hf.grows

lemma Evolves.allGrow_of_spares (h : Evolves c SparesEndpoints s t) : AllGrow s t := by
  refine (h.mono ?_ : Evolves c SparesSlots s t).allGrow
  rintro (request | event | change) hact
  · trivial
  · trivial
  · cases change with
    | endpoint number f => exact hact.elim
    | _ => trivial

end Acts

section Search

lemma firstFormattable_cases (env : Environment σ) (known : Option Slot) (slot : Slot)
    (s : System σ) :
    ((Endpoint.firstFormattable known slot).run env s).1 = known ∨
      ((Endpoint.firstFormattable known slot).run env s).1 = some slot := by
  unfold Endpoint.firstFormattable
  split
  · exact .inl rfl
  · next hnone =>
    have hknown : known = none := Option.not_isSome_iff_eq_none.mp hnone
    rw [Op.run_bind]
    split
    · exact .inr rfl
    · exact .inl hknown.symm

/-- What the search finds is derived from one of the slots it was given. -/
lemma search_found (env : Environment σ) (slots : List Slot) (known : Option Slot) (s : System σ)
    {slot : Slot} {extras : Extras}
    (h : ((Endpoint.search slots known).run env s).1 = some (slot, extras)) :
    ∃ found, (found ∈ slots ∨ known = some found) ∧
      ∃ technology, IsMessageKind technology ∧ slot = ⟨technology, found.handle, found.protocol, [], []⟩ := by
  induction slots generalizing known s with
  | nil =>
    obtain ⟨found, hknown, heq⟩ := Option.map_eq_some_iff.mp h
    obtain ⟨rfl, -⟩ := Prod.mk.inj heq
    exact ⟨found, .inr hknown, .ndefFormatable, .inr rfl, rfl⟩
  | cons first rest ih =>
    have hrest {known' : Option Slot} {t : System σ} (hfirst : known' = known ∨ known' = some first)
        (h : ((Endpoint.search rest known').run env t).1 = some (slot, extras)) :
        ∃ found, (found ∈ first :: rest ∨ known = some found) ∧
          ∃ technology, IsMessageKind technology ∧ slot = ⟨technology, found.handle, found.protocol, [], []⟩ := by
      obtain ⟨found, hwhere, hslot⟩ := ih known' t h
      refine ⟨found, ?_, hslot⟩
      rcases hwhere with hmem | hknown
      · exact .inl (.tail _ hmem)
      · rcases hfirst with hsame | hnew
        · exact .inr (hsame.symm.trans hknown)
        · obtain rfl := Option.some.inj (hnew.symm.trans hknown)
          exact .inl (.head _)
    unfold Endpoint.search at h
    rw [Op.run_bind] at h
    generalize (Tag.reconnect (Endpoint.target first) false : Op σ Bool).run env s = selected at h
    obtain ⟨selected, t⟩ := selected
    cases selected with
    | false => exact hrest (.inl rfl) h
    | true =>
      simp only [if_true, Op.run_bind] at h
      generalize (Tag.checkNdefInfo : Op σ (Option NdefInfo)).run env t = checked at h
      obtain ⟨checked, u⟩ := checked
      cases checked with
      | some info =>
        obtain ⟨rfl, -⟩ := Prod.mk.inj (Option.some.inj h)
        exact ⟨first, .inl (.head _), .ndef, .inl rfl, rfl⟩
      | none =>
        exact hrest (firstFormattable_cases env known first u) h

/-- What the search makes of the endpoint it is for. -/
def Appended (number : Nat) (slots : List Slot) (other : Nat) (before after : Endpoint) : Prop :=
  after = before ∨ other = number ∧ ∃ found ∈ slots, ∃ technology extras,
    IsMessageKind technology ∧ after = before.append (⟨technology, found.handle, found.protocol, [], []⟩) extras

lemma searching_appends (c : Controller σ) (number : Nat) (slots : List Slot) (s : System σ) :
    EndpointsBy (Appended number slots) s ((do
      match ← Endpoint.search slots none with
      | some (slot, extras) => Endpoint.update number fun endpoint => endpoint.append slot extras
      | none => return () : Op σ Unit).run c.alone s).2 := by
  intro other endpoint hfound
  have hsearch : Evolves c SparesEndpoints s ((Endpoint.search slots none).run c.alone s).2 :=
    search_keepsTo (orderly_alone _ c) tagWork_sparesEndpoints slots none s
  have hafter := hsearch.same_endpoint hfound
  have hresult (slot : Slot) (extras : Extras) (h : ((Endpoint.search slots none).run c.alone s).1 =
      some (slot, extras)) := search_found c.alone slots none s h
  rw [Op.run_bind]
  generalize (Endpoint.search slots none).run c.alone s = result at hafter hresult
  obtain ⟨result, t⟩ := result
  cases result with
  | none => exact ⟨endpoint, hafter, .inl rfl⟩
  | some result =>
    obtain ⟨slot, extras⟩ := result
    obtain ⟨found, hwhere, technology, hkind, rfl⟩ := hresult slot extras rfl
    have hmem : found ∈ slots := hwhere.resolve_right nofun
    have hwritten := mapEndpoint_endpoint number other
      (fun endpoint => endpoint.append (⟨technology, found.handle, found.protocol, [], []⟩) extras) t.host
    rw [show t.host.endpoint? other = some endpoint from hafter, Option.map_some] at hwritten
    refine ⟨_, hwritten, ?_⟩
    by_cases hsame : number = other
    · rw [if_pos hsame]
      exact .inr ⟨hsame.symm, found, hmem, technology, extras, hkind, rfl⟩
    · rw [if_neg hsame]
      exact .inl rfl

/-- An endpoint that was not searched before grows when it is marked and searched. -/
lemma grows_of_appended {endpoint after : Endpoint} {number : Nat}
    (hfresh : ¬endpoint.ndefAdded = true)
    (h : Appended number endpoint.slots number { endpoint with ndefAdded := true } after) :
    Grows endpoint after := by
  rcases h with rfl | ⟨-, found, hmem, technology, extras, hkind, rfl⟩
  · exact ⟨fun _ => rfl, fun _ => rfl, .inl rfl, List.prefix_refl _⟩
  · refine ⟨fun _ => rfl, fun hflag => absurd hflag hfresh, ?_, List.prefix_append _ _⟩
    exact .inr ⟨rfl, found, hmem, technology, hkind, rfl⟩

/-- The flag is set before the search begins, so what the search adds is the only slot added. -/
lemma addNdef_allGrow (c : Controller σ) (number : Nat) (s : System σ) :
    AllGrow s ((Endpoint.addNdef number).run c.alone s).2 := by
  unfold Endpoint.addNdef
  rw [Op.run_bind, Op.run_read]
  cases hfound : s.host.endpoint? number with
  | none => exact allGrow_of_prefix (List.prefix_refl _)
  | some endpoint =>
    by_cases hadded : endpoint.ndefAdded = true
    · simp only [hadded, if_true]
      exact allGrow_of_prefix (List.prefix_refl _)
    · simp only [hadded, if_false, Bool.false_eq_true, Op.run_bind]
      let mark (endpoint : Endpoint) : Endpoint := { endpoint with ndefAdded := true }
      let marked := s.mapHost (Host.mapEndpoint number mark)
      have hsearched : EndpointsBy (Appended number endpoint.slots) marked
          ((Op.reserving (.endpoint number) do
            match ← Endpoint.search endpoint.slots none with
            | some (slot, extras) => Endpoint.update number fun endpoint => endpoint.append slot extras
            | none => return () : Op σ Unit).run c.alone marked).2 :=
        reserving_endpoints (searching_appends c number endpoint.slots) marked
      intro other before hbefore
      have hmarked := mapEndpoint_endpoint number other mark s.host
      rw [hbefore, Option.map_some] at hmarked
      obtain ⟨after, hafter, happended⟩ := hsearched other _ hmarked
      refine ⟨after, hafter, ?_⟩
      by_cases hsame : number = other
      · subst hsame
        obtain rfl := Option.some.inj (hfound.symm.trans hbefore)
        rw [if_pos rfl] at happended
        exact grows_of_appended hadded happended
      · rw [if_neg hsame] at happended
        rcases happended with rfl | ⟨hother, -⟩
        · exact .refl _
        · exact absurd hother.symm hsame

end Search

section Deeds

/-- An operation along which every endpoint grows. -/
def GrowsAlong {α : Type} (c : Controller σ) (op : Op σ α) : Prop :=
  ∀ s, AllGrow s (op.run c.alone s).2

variable {α β : Type}

lemma KeepsTo.growsAlong {op : Op σ α} (h : KeepsTo SparesSlots c.alone op) : GrowsAlong c op :=
  fun s => (h s).allGrow

lemma KeepsTo.growsAlong_of_spares {op : Op σ α} (h : KeepsTo SparesEndpoints c.alone op) :
    GrowsAlong c op :=
  fun s => (h s).allGrow_of_spares

lemma GrowsAlong.bind {op : Op σ α} {next : α → Op σ β} (h : GrowsAlong c op)
    (hn : ∀ a, GrowsAlong c (next a)) : GrowsAlong c (op >>= next) := by
  intro s
  rw [Op.run_bind]
  exact (h s).trans (hn _ _)

lemma growsAlong_pure (c : Controller σ) (a : α) : GrowsAlong c (pure a : Op σ α) :=
  fun _ => allGrow_of_prefix (List.prefix_refl _)

lemma attend_growsAlong (c : Controller σ) : GrowsAlong c (Op.attend : Op σ Unit) :=
  fun s => allGrow_of_prefix ((follows_gains c).attend s).covers

lemma endpointCall_growsAlong (c : Controller σ) (number : Nat) (call : EndpointCall) :
    GrowsAlong c (call.run number : Op σ Answer) := by
  have hos : Orderly SparesSlots c.alone := orderly_alone _ c
  have hoe : Orderly SparesEndpoints c.alone := orderly_alone _ c
  cases hplain : addsNoSlot call with
  | true =>
    exact (plainCall_keepsTo hos tagWork_sparesSlots (fun _ _ hf => hf) number call hplain).growsAlong
  | false =>
    cases call with
    | readNdef =>
      have hread : GrowsAlong c (Op.reserving (.endpoint number) Tag.readNdef : Op σ (Option Bytes)) :=
        (keepsTo_reserving hoe _ (readNdef_keepsTo hoe fun act h =>
          tagWork_sparesEndpoints act (handling_tagWork act h))).growsAlong_of_spares
      have hwhole : GrowsAlong c (Endpoint.readNdef number) :=
        GrowsAlong.bind (addNdef_allGrow c number) fun _ => hread
      exact fun s => hwhole s
    | addNdef =>
      have hlook (f : Endpoint → Answer) : GrowsAlong c (EndpointCall.look number f : Op σ Answer) :=
        (look_keepsTo (P := SparesEndpoints) number f).growsAlong_of_spares
      exact GrowsAlong.bind (addNdef_allGrow c number) fun _ => hlook _
    | _ => exact absurd hplain nofun

lemma call_growsAlong (c : Controller σ) (call : Call) : GrowsAlong c (call.run : Op σ Answer) := by
  have hoe : Orderly SparesEndpoints c.alone := orderly_alone _ c
  cases call with
  | host call => exact (hostCall_keepsTo hoe sparesTag_sparesEndpoints call).growsAlong_of_spares
  | session call => exact (sessionCall_keepsTo hoe tagWork_sparesEndpoints call).growsAlong_of_spares
  | endpoint number call =>
    intro s
    unfold Call.run
    rw [Op.run_bind, Op.run_read]
    split
    · exact endpointCall_growsAlong c _ call s
    · exact allGrow_of_prefix (List.prefix_refl _)

lemma deed_growsAlong (c : Controller σ) (deed : Deed) : GrowsAlong c (deed.run : Op σ Unit) := by
  cases deed with
  | move next =>
    have hmove : GrowsAlong c (next.run : Op σ Answer) := by
      cases next with
      | call call => exact call_growsAlong c call
      | event event =>
        have hreport (s : System σ) : Evolves c SparesEndpoints s (s.arrive event) :=
          .report event trivial
        exact fun s => (hreport s).allGrow_of_spares
    have hperform : GrowsAlong c (next.perform : Op σ Answer) :=
      hmove.bind fun _ => (attend_growsAlong c).bind fun _ => growsAlong_pure c _
    exact hperform.bind fun _ => growsAlong_pure c _
  | watch number loop turns =>
    have hos : Orderly SparesSlots c.alone := orderly_alone _ c
    have hwatch := watch_keepsTo hos tagWork_sparesSlots (fun _ _ hf => hf) number loop turns
    exact hwatch.growsAlong.bind fun _ => attend_growsAlong c

lemma runAll_growsAlong (c : Controller σ) (deeds : List Deed) :
    GrowsAlong c (Deed.runAll deeds : Op σ Unit) := by
  induction deeds with
  | nil => exact fun s => allGrow_of_prefix (List.prefix_refl _)
  | cons deed rest ih => exact (deed_growsAlong c deed).bind fun _ => ih

end Deeds

section Extras

lemma extrasAt_known {number position : Nat} {endpoint : Endpoint} {extras : Extras}
    (env : Environment σ) (hfound : s.host.endpoint? number = some endpoint)
    (hknown : endpoint.knownExtras? position = some extras) :
    (Endpoint.extrasAt number position).run env s = (some extras, s) := by
  unfold Endpoint.extrasAt
  rw [Op.run_bind, Op.run_read, hfound]
  dsimp only
  rw [hknown]
  rfl

/-- Details that were given are kept. -/
lemma extrasAt_keeps {number position : Nat} {extras : Extras}
    (h : ((Endpoint.extrasAt number position).run c.alone s).1 = some extras) :
    ∃ endpoint,
      ((Endpoint.extrasAt number position).run c.alone s).2.host.endpoint? number = some endpoint ∧
      endpoint.knownExtras? position = some extras := by
  unfold Endpoint.extrasAt at h ⊢
  rw [Op.run_bind, Op.run_read] at h ⊢
  cases hfound : s.host.endpoint? number with
  | none =>
    rw [hfound] at h
    cases h
  | some endpoint =>
    rw [hfound] at h
    dsimp only at h ⊢
    cases hknown : endpoint.knownExtras? position with
    | some known =>
      rw [hknown] at h
      exact ⟨endpoint, hfound, hknown.trans h⟩
    | none =>
      rw [hknown] at h
      cases hslot : endpoint.slots[position]? with
      | none =>
        rw [hslot] at h
        cases h
      | some slot =>
        rw [hslot] at h
        dsimp only at h ⊢
        rw [Op.run_bind] at h ⊢
        have hcompute : Evolves c SparesEndpoints s
            ((Endpoint.computeExtras number slot (Slot.anyNfcA endpoint.slots)).run c.alone s).2 :=
          computeExtras_keepsTo (orderly_alone _ c) tagWork_sparesEndpoints number slot _ s
        have hsame := hcompute.same_endpoint hfound
        generalize (Endpoint.computeExtras number slot (Slot.anyNfcA endpoint.slots)).run c.alone s =
          computed at h hsame ⊢
        obtain ⟨computed, t⟩ := computed
        obtain rfl := Option.some.inj h
        have hwritten := mapEndpoint_endpoint number number
          (fun endpoint => endpoint.keepExtras position computed) t.host
        rw [show t.host.endpoint? number = some endpoint from hsame, Option.map_some, if_pos rfl]
          at hwritten
        refine ⟨_, hwritten, ?_⟩
        unfold Endpoint.knownExtras? at hknown ⊢
        simp [Endpoint.keepExtras, List.lookup_append, hknown]

end Extras

/-- Whatever is done, the slots of an endpoint stay as they are, or one slot for a message follows them
and nothing after it; its handle stays; and details that were given once are given again from then on,
without anything else happening. -/
theorem slots_and_extras_stable (c : Controller σ) (s : System σ) (number : Nat) (endpoint : Endpoint)
    (hfound : s.host.endpoint? number = some endpoint) (deeds : List Deed) :
    ∃ after, (afterDeeds c deeds s).host.endpoint? number = some after ∧
      (after.slots = endpoint.slots ∨ ∃ found ∈ endpoint.slots, ∃ technology,
        IsMessageKind technology ∧
          after.slots = endpoint.slots ++ [⟨technology, found.handle, found.protocol, [], []⟩]) ∧
      after.handle = endpoint.handle ∧
      (after.slots ≠ endpoint.slots → ∀ more, ∃ last,
        (afterDeeds c more (afterDeeds c deeds s)).host.endpoint? number = some last ∧
          last.slots = after.slots) ∧
      ∀ position extras more,
        let asked := (Endpoint.extrasAt number position).run c.alone (afterDeeds c deeds s)
        asked.1 = some extras →
          (Endpoint.extrasAt number position).run c.alone (afterDeeds c more asked.2) =
            (some extras, afterDeeds c more asked.2) := by
  obtain ⟨after, hafter, hgrown⟩ := runAll_growsAlong c deeds s number endpoint hfound
  refine ⟨after, hafter, ?_, hgrown.handle, ?_, ?_⟩
  · rcases hgrown.slots with hsame | ⟨-, hadded⟩
    · exact .inl hsame
    · exact .inr hadded
  · intro hchanged more
    obtain ⟨hflag, -⟩ := hgrown.slots.resolve_left hchanged
    obtain ⟨last, hlast, hthen⟩ := runAll_growsAlong c more (afterDeeds c deeds s) number after hafter
    exact ⟨last, hlast, hthen.kept hflag⟩
  · intro position extras more asked hasked
    obtain ⟨kept, hkept, hknown⟩ := extrasAt_keeps hasked
    obtain ⟨last, hlast, hthen⟩ := runAll_growsAlong c more asked.2 number kept hkept
    exact extrasAt_known c.alone hlast (hthen.knownExtras hknown)

/-- A stack with a card in the field that holds a message. -/
def cardInField : System Script :=
  ran Script.controller [] {}
    { detection := ⟨.ok, Protocol.isoDep, 100, 10, ⟨0⟩⟩
      message := [1, 2, 3]
      lastTarget := some (Sample.isoDepCard 1)
      reactivates := true }
    [.move (.call (.host (.setListener .recording))), .move (.call (.host .bringUp)),
      .move (.event (.activated (Sample.isoDepCard 1)))]

/-- The endpoint that the listener got for the card. -/
def cardEndpoint : Endpoint := Endpoint.ofSession cardInField.host.session (Sample.isoDepCard 1)

/-- Reading the message of a card adds a third slot to its endpoint, which is the last one. -/
theorem card_keeps_three_slots :
    cardInField.host.endpoint? 0 = some cardEndpoint ∧
      cardEndpoint.slots.map (·.technology) = [.iso14443A, .iso14443Part4] ∧
      ∀ more, ∃ last, (afterDeeds Script.controller more (afterDeeds Script.controller
          [.move (.call (.endpoint none .readNdef))] cardInField)).host.endpoint? 0 = some last ∧
        last.slots.map (·.technology) = [.iso14443A, .iso14443Part4, .ndef] := by
  refine ⟨rfl, rfl, fun more => ?_⟩
  obtain ⟨after, hafter, -, -, hstays, -⟩ := slots_and_extras_stable Script.controller cardInField 0
    cardEndpoint rfl [.move (.call (.endpoint none .readNdef))]
  have hread : ((afterDeeds Script.controller [.move (.call (.endpoint none .readNdef))]
      cardInField).host.endpoint? 0).map (fun endpoint => endpoint.slots.map (·.technology)) =
        some [.iso14443A, .iso14443Part4, .ndef] := rfl
  rw [hafter] at hread
  have hslots : after.slots.map (·.technology) = [.iso14443A, .iso14443Part4, .ndef] :=
    Option.some.inj hread
  have hgrown : after.slots ≠ cardEndpoint.slots := by
    intro hsame
    rw [hsame] at hslots
    exact absurd hslots nofun
  obtain ⟨last, hlast, hsame⟩ := hstays hgrown more
  exact ⟨last, hlast, by rw [hsame, hslots]⟩

end NfcStack.Proofs
