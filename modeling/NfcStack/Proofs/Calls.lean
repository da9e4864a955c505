import NfcStack.Proofs.Conduct

/-!
# What calls do

All that callers do is made of operations that select a tag, operations on its contents, operations that
set routes, operations that add to an endpoint, and of acts of no particular kind. What holds along all of
them holds along every call and along every run of moves.
-/

namespace NfcStack.Proofs

variable {σ α : Type} {P : Act → Prop} {env : Environment σ} {R : System σ → System σ → Prop}

/-- A relation that holds along the operations that select a tag. -/
structure FollowsSelection (R : System σ → System σ → Prop) (env : Environment σ) : Prop where
  connect : ∀ target, Along R env (Tag.connect target)
  reconnect : ∀ target restart, Along R env (Tag.reconnect target restart)

/-- A relation that holds along the operations on the contents of a tag. -/
structure FollowsContent (R : System σ → System σ → Prop) (env : Environment σ) : Prop where
  transceive : ∀ frame buffer, Along R env (Tag.transceive frame buffer)
  readNdef : Along R env Tag.readNdef
  writeNdef : ∀ message, Along R env (Tag.writeNdef message)
  format : Along R env Tag.format
  makeReadOnly : Along R env Tag.makeReadOnly

/-- A relation that holds along the operations that work out details of a slot or search for a message. -/
structure FollowsEndpoints (R : System σ → System σ → Prop) (env : Environment σ) : Prop where
  extrasAt : ∀ number position, Along R env (Endpoint.extrasAt number position)
  addNdef : ∀ number, Along R env (Endpoint.addNdef number)

variable (hR : Composes P env R)

include hR in
lemma followsSelection (hl : ∀ act, Selecting act → P act) : FollowsSelection R env where
  connect := tag_connect_along hR hl
  reconnect := tag_reconnect_along hR hl

variable (hs : FollowsSelection R env)

section Content

variable (hh : ∀ act, Handling act → P act)

include hR hs hh

lemma recover_along (handle : UInt8) (frame : Bytes) (first : Status × Bytes) :
    Along R env (Tag.recover handle frame first : Op σ (Status × Bytes)) := by
  have hlast (last : Status × Bytes) : Along R env (if Tag.isRefusal last.2 then do
      let _ ← Tag.reconnect ⟨handle, Protocol.mifare, .mifareClassic⟩ true
      return last
      else return last : Op σ (Status × Bytes)) := by
    split
    · exact along_bind hR (hs.reconnect _ _) fun _ => along_pure hR _
    · exact along_pure hR _
  unfold Tag.recover
  split
  · dsimp only
    split
    · exact along_bind hR (along_pure hR _) hlast
    · exact along_bind hR (exchange_along hR hh frame) hlast
  · exact along_pure hR _

lemma transceive_along (frame buffer : Bytes) :
    Along R env (Tag.transceive frame buffer : Op σ (Status × Bytes)) := by
  have hbusy (busy : Bool) : Along R env (Tag.setInTransceive busy : Op σ Unit) :=
    sessionChange_along hR (.inTransceive busy) (hh _ trivial)
  refine along_whenReady hR _ ?_
  refine along_bind hR (hbusy true) fun _ => ?_
  refine along_bind hR ?_ fun answer => along_bind hR (hbusy false) fun _ => along_pure hR _
  refine along_holdingField hR (fun _ => hh _ trivial) _ ?_
  refine along_bind hR (along_read hR _) fun connection => ?_
  refine along_bind hR (exchange_along hR hh frame) fun first => ?_
  split
  · split
    · exact recover_along hR hs hh _ frame first
    · exact along_pure hR _
  · exact along_pure hR _

lemma followsContent : FollowsContent R env where
  transceive := transceive_along hR hs hh
  readNdef := readNdef_along hR hh
  writeNdef := writeNdef_along hR fun act h => hh act (writing_handling act h)
  format := format_along hR fun act h => hh act (writing_handling act h)
  makeReadOnly := makeReadOnly_along hR hh

end Content

variable (hc : FollowsContent R env) (hn : ∀ act, Handling act → ¬Particular act → P act)

section Session

include hR hc

lemma isFormattable_along : Along R env (Tag.isFormattable : Op σ Bool) := by
  refine along_bind hR (along_read hR _) fun session => ?_
  split
  · exact along_pure hR _
  · split
    · exact along_pure hR _
    · split
      · exact along_pure hR _
      · split
        · split
          · exact along_bind hR (hc.transceive _ _) fun _ => along_pure hR _
          · exact along_pure hR _
        · exact along_pure hR _

/-- The calls of the session that set bounds of exchanges or bring the configured ones back. -/
def sessionBounds : SessionCall → Bool
  | .disconnect => true
  | .setTimeout _ _ => true
  | .resetTimeouts => true
  | .forget => true
  | _ => false

include hs hn

lemma sessionCall_along (call : SessionCall) (hb : sessionBounds call = true → ∀ act, Bounding act → P act) :
    Along R env (call.run : Op σ Answer) := by
  cases call with
  | connect target => exact hs.connect target
  | reconnect target restart => exact hs.reconnect target restart
  | disconnect => exact tag_disconnect_along hR hn (hb rfl _ trivial)
  | transceive frame buffer => exact hc.transceive frame buffer
  | checkPresence => exact checkPresence_along hR hn
  | checkNdef => exact checkNdef_along hR hn
  | lastCheck => exact along_read hR (·.session.lastCheck)
  | readNdef => exact hc.readNdef
  | writeNdef message => exact hc.writeNdef message
  | format => exact hc.format
  | makeReadOnly => exact hc.makeReadOnly
  | isFormattable => exact isFormattable_along hR hc
  | registerNdef => exact registerNdef_along hR hn
  | setTimeout technology bound => exact setBound_along hR (fun _ => hb rfl _ trivial) technology bound
  | timeouts => exact along_read hR (·.session.timeouts)
  | resetTimeouts => exact sessionChange_along hR .resetTimeouts (hb rfl _ trivial)
  | forget => exact sessionChange_along hR .forget (hb rfl _ trivial)
  | abort => exact along_waits hR (fun _ _ => hn _ trivial id) waits_only_abortSession
  | discover act => exact welcome_along hR hn act

end Session

section Endpoints

include hR hs

lemma endpoint_select_along (connected : Bool) (slot : Slot) :
    Along R env (Endpoint.select connected slot : Op σ Bool) := by
  unfold Endpoint.select
  split
  · exact hs.reconnect _ _
  · exact along_bind hR (hs.connect _) fun _ => along_pure hR _

lemma endpoint_reconnect_along (number : Nat) :
    Along R env (Endpoint.reconnect number : Op σ Bool) := by
  refine along_bind hR (along_read hR _) fun endpoint => ?_
  split
  · exact along_pure hR _
  · split
    · exact along_pure hR _
    · refine along_reserving hR _ ?_
      split
      · exact hs.reconnect _ _
      · exact along_pure hR _

include hc

omit hs in
lemma firstFormattable_along (known : Option Slot) (slot : Slot) :
    Along R env (Endpoint.firstFormattable known slot : Op σ (Option Slot)) := by
  unfold Endpoint.firstFormattable
  split
  · exact along_pure hR _
  · refine along_bind hR (isFormattable_along hR hc) fun formattable => ?_
    split
    · exact along_pure hR _
    · exact along_pure hR _

omit hs in
lemma computeExtras_along (number : Nat) (slot : Slot) (besideNfcA : Bool) :
    Along R env (Endpoint.computeExtras number slot besideNfcA : Op σ Extras) := by
  unfold Endpoint.computeExtras
  split
  · refine along_reserving hR _ ?_
    exact along_bind hR (hc.transceive _ _) fun _ => along_pure hR _
  · exact along_pure hR _

omit hs in
lemma endpoint_format_along (number : Nat) (key : Bytes) :
    Along R env (Endpoint.format number key : Op σ Bool) := by
  unfold Endpoint.format
  split
  · exact along_pure hR _
  · exact along_reserving hR _ hc.format

include hn

lemma search_along (slots : List Slot) (formattable : Option Slot) :
    Along R env (Endpoint.search slots formattable : Op σ (Option (Slot × Extras))) := by
  induction slots generalizing formattable with
  | nil => exact along_pure hR _
  | cons slot rest ih =>
    refine along_bind hR (hs.reconnect _ _) fun selected => ?_
    split
    · refine along_bind hR (checkNdefInfo_along hR hn) fun info => ?_
      split
      · exact along_bind hR hc.readNdef fun _ => along_pure hR _
      · exact along_bind hR (firstFormattable_along hR hc _ _) fun _ => ih _
    · exact ih formattable

omit hs hn in
lemma extrasAt_along (he : ∀ number f, KeepsSlots f → P (.change (.endpoint number f)))
    (number position : Nat) :
    Along R env (Endpoint.extrasAt number position : Op σ (Option Extras)) := by
  refine along_bind hR (along_read hR _) fun endpoint => ?_
  split
  · exact along_pure hR _
  · split
    · exact along_pure hR _
    · split
      · exact along_pure hR _
      · refine along_bind hR (computeExtras_along hR hc _ _ _) fun extras => ?_
        refine along_bind hR (along_change hR (.endpoint _ _) (he _ _ ?_)) fun _ => along_pure hR _
        exact fun endpoint => ⟨rfl, id, List.prefix_append _ _⟩

section Adding

variable (he : ∀ number f, P (.change (.endpoint number f)))

include he

lemma addNdef_along (number : Nat) : Along R env (Endpoint.addNdef number : Op σ Unit) := by
  have hupdate (f : Endpoint → Endpoint) : Along R env (Endpoint.update number f : Op σ Unit) :=
    along_change hR (.endpoint number f) (he number f)
  refine along_bind hR (along_read hR _) fun endpoint => ?_
  split
  · exact along_pure hR _
  · split
    · exact along_pure hR _
    · refine along_bind hR (hupdate _) fun _ => ?_
      refine along_reserving hR _ ?_
      refine along_bind hR (search_along hR hs hc hn _ _) fun found => ?_
      split
      · exact hupdate _
      · exact along_pure hR _

lemma followsEndpoints : FollowsEndpoints R env where
  extrasAt := extrasAt_along hR hc fun number f _ => he number f
  addNdef := addNdef_along hR hs hc hn he

end Adding

variable (he : ∀ number f, KeepsDetails f → P (.change (.endpoint number f)))

include he

omit hc hn in
lemma endpoint_connect_along (number : Nat) (kind : TagKind) :
    Along R env (Endpoint.connect number kind : Op σ Bool) := by
  refine along_reserving hR _ ?_
  refine along_bind hR (along_read hR _) fun endpoint => ?_
  split
  · exact along_pure hR _
  · split
    · exact along_pure hR _
    · refine along_bind hR (endpoint_select_along hR hs _ _) fun selected => ?_
      split
      · refine along_bind hR (endpointUpdate_along hR he _ ?_) fun _ => along_pure hR _
        exact fun _ => ⟨rfl, rfl, rfl⟩
      · exact along_pure hR _

/-- The call on an endpoint that brings the configured bounds of exchanges back. -/
def endpointBounds : EndpointCall → Bool
  | .disconnect => true
  | _ => false

/-- The calls that never add a slot. -/
def addsNoSlot : EndpointCall → Bool
  | .readNdef => false
  | .addNdef => false
  | _ => true

lemma plainCall_along (number : Nat)
    (hextras : ∀ position, Along R env (Endpoint.extrasAt number position : Op σ (Option Extras)))
    (call : EndpointCall) (hplain : addsNoSlot call = true)
    (hb : endpointBounds call = true → ∀ act, Bounding act → P act) :
    Along R env (call.run number : Op σ Answer) := by
  have hupdate {f : Endpoint → Endpoint} (h : KeepsDetails f) :
      Along R env (Endpoint.update number f : Op σ Unit) :=
    endpointUpdate_along hR he number h
  cases call with
  | connect kind => exact endpoint_connect_along hR hs he number kind
  | disconnect => exact endpoint_disconnect_along hR hn he (hb rfl _ trivial) number
  | reconnect => exact endpoint_reconnect_along hR hs number
  | transceive frame buffer => exact along_reserving hR _ (hc.transceive frame buffer)
  | checkPresence => exact endpoint_checkPresence_along hR hn he number
  | checkNdef => exact along_reserving hR _ (checkNdefInfo_along hR hn)
  | readNdef => exact absurd hplain nofun
  | writeNdef message => exact along_reserving hR _ (hc.writeNdef message)
  | format key => exact endpoint_format_along hR hc number key
  | makeReadOnly => exact along_reserving hR _ hc.makeReadOnly
  | isFormattable => exact isFormattable_along hR hc
  | extras position => exact hextras position
  | addNdef => exact absurd hplain nofun
  | info => exact look_along hR number .endpoint
  | removeTechnology => exact along_pure hR _
  | startWatch => exact startWatch_along hR he number true
  | stopWatch => exact hupdate fun _ => ⟨rfl, rfl, rfl⟩
  | drop => exact hupdate fun _ => ⟨rfl, rfl, rfl⟩

end Endpoints

section Calls

/-- An act that is all a move does by itself. -/
def ownAct : Move → Option Act
  | .call (.host call) => hostAct call
  | .event event => some (.report event)
  | _ => none

/-- The calls that set bounds of exchanges or bring the configured ones back. -/
def callBounds : Call → Bool
  | .host _ => false
  | .session call => sessionBounds call
  | .endpoint _ call => endpointBounds call

def moveBounds : Move → Bool
  | .call call => callBounds call
  | .event _ => false

variable (hf : FollowsRouting R env) (he : FollowsEndpoints R env)
  (hx : ∀ act, ¬Particular act → ¬Bounding act → P act)

include hR hs hc he hx

lemma endpointCall_along (number : Nat) (call : EndpointCall)
    (hb : endpointBounds call = true → ∀ act, Bounding act → P act) :
    Along R env (call.run number : Op σ Answer) := by
  cases hplain : addsNoSlot call with
  | true =>
    exact plainCall_along hR hs hc (fun act h hp => hx act hp (handling_unbounding act h))
      (fun _ _ hf => hx _ (not_not_intro hf) id) number (he.extrasAt number) call hplain hb
  | false =>
    cases call with
    | readNdef =>
      have hread : Along R env (Op.reserving (.endpoint number) Tag.readNdef : Op σ (Option Bytes)) :=
        along_reserving hR _ hc.readNdef
      have hwhole : Along R env (Endpoint.readNdef number : Op σ (Option Bytes)) :=
        along_bind hR (he.addNdef number) fun _ => hread
      exact hwhole
    | addNdef =>
      exact along_bind hR (he.addNdef number) fun _ => look_along hR number _
    | _ => exact absurd hplain nofun

include hf

lemma call_along (call : Call) (hown : ∀ act ∈ ownAct (.call call), P act)
    (hb : callBounds call = true → ∀ act, Bounding act → P act) :
    Along R env (call.run : Op σ Answer) := by
  cases call with
  | host call =>
    exact hostCall_along hR (fun act h hp => hx act hp (sparesTag_unbounding act h)) hf call hown
  | session call =>
    exact sessionCall_along hR hs hc (fun act h hp => hx act hp (handling_unbounding act h)) call hb
  | endpoint number call =>
    refine along_bind hR (along_read hR _) fun found => ?_
    split
    · exact endpointCall_along hR hs hc he hx _ call hb
    · exact along_pure hR _

lemma move_along (move : Move) (hown : ∀ act ∈ ownAct move, P act)
    (hb : moveBounds move = true → ∀ act, Bounding act → P act) :
    Along R env (move.run : Op σ Answer) := by
  cases move with
  | call call => exact call_along hR hs hc hf he hx call hown hb
  | event event => exact fun s => hR.evolves (.report event (hown _ rfl))

/-- A move is a call or a report, and the deliveries after it. -/
lemma perform_along (move : Move) (hown : ∀ act ∈ ownAct move, P act)
    (hb : moveBounds move = true → ∀ act, Bounding act → P act) :
    Along R env (move.perform : Op σ Answer) :=
  along_bind hR (move_along hR hs hc hf he hx move hown hb) fun _ =>
    along_bind hR (along_attend hR) fun _ => along_pure hR _

end Calls

section Acts

variable (ho : Orderly P env) (ht : ∀ act, TagWork act → P act)

include ht in
omit hR hs hc in
lemma tagWork_follows (hR : Composes P env R) : FollowsSelection R env ∧ FollowsContent R env := by
  have hs := followsSelection hR fun act h => ht act (selecting_tagWork act h)
  exact ⟨hs, followsContent hR hs fun act h => ht act (handling_tagWork act h)⟩

include ho ht

lemma sessionCall_keepsTo (call : SessionCall) : KeepsTo P env (call.run : Op σ Answer) :=
  sessionCall_along ho.composes (tagWork_follows ht ho.composes).1 (tagWork_follows ht ho.composes).2
    (fun act h _ => ht act (handling_tagWork act h)) call fun _ act h => ht act (bounding_tagWork act h)

lemma endpoint_select_keepsTo (connected : Bool) (slot : Slot) :
    KeepsTo P env (Endpoint.select connected slot : Op σ Bool) :=
  endpoint_select_along ho.composes (tagWork_follows ht ho.composes).1 connected slot

lemma search_keepsTo (slots : List Slot) (formattable : Option Slot) :
    KeepsTo P env (Endpoint.search slots formattable : Op σ (Option (Slot × Extras))) :=
  search_along ho.composes (tagWork_follows ht ho.composes).1 (tagWork_follows ht ho.composes).2
    (fun act h _ => ht act (handling_tagWork act h)) slots formattable

lemma computeExtras_keepsTo (number : Nat) (slot : Slot) (besideNfcA : Bool) :
    KeepsTo P env (Endpoint.computeExtras number slot besideNfcA : Op σ Extras) :=
  computeExtras_along ho.composes (tagWork_follows ht ho.composes).2 number slot besideNfcA

lemma plainCall_keepsTo (he : ∀ number f, KeepsSlots f → P (.change (.endpoint number f)))
    (number : Nat) (call : EndpointCall) (hplain : addsNoSlot call = true) :
    KeepsTo P env (call.run number : Op σ Answer) :=
  plainCall_along ho.composes (tagWork_follows ht ho.composes).1 (tagWork_follows ht ho.composes).2
    (fun act h _ => ht act (handling_tagWork act h)) (fun number f hf => he number f hf.keepsSlots) number
    (extrasAt_along ho.composes (tagWork_follows ht ho.composes).2 he number) call hplain
    fun _ act h => ht act (bounding_tagWork act h)

omit ht in
lemma perform_keepsTo (ha : ∀ act, P act) (move : Move) :
    KeepsTo P env (move.perform : Op σ Answer) :=
  have ⟨hs, hc⟩ := tagWork_follows (fun act _ => ha act) ho.composes
  perform_along ho.composes hs hc (sparesMode_followsRouting ho.composes fun act _ => ha act)
    (followsEndpoints ho.composes hs hc (fun act _ _ => ha act) fun _ _ => ha _) (fun act _ _ => ha act) move
    (fun act _ => ha act) fun _ act _ => ha act

end Acts

end NfcStack.Proofs
