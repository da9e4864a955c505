import NfcStack.Proofs.Tidings

/-!
# Reports of secure elements

A secure element reports a transaction on its pipe, and the environments that are active at that moment
name it. Between two messages the controller may change its mind about its environments in any way.
-/

namespace NfcStack.Proofs

variable {σ : Type}

section Elements

/-- The first active environment among those with odd, or even, handles. -/
def firstActive (odd : Bool) (infos : List NfceeInfo) : Option NfceeInfo :=
  infos.find? fun info => info.status == 0x00 && (info.handle.code.toNat % 2 == 1) == odd

/-- Whether the first active environment of a family has an id. -/
def LedBy (odd : Bool) (id : UInt8) (infos : List NfceeInfo) : Prop :=
  ∃ info, firstActive odd infos = some info ∧ info.handle.id = id

instance (odd : Bool) (id : UInt8) (infos : List NfceeInfo) : Decidable (LedBy odd id infos) :=
  match h : firstActive odd infos with
  | none => .isFalse fun ⟨_, hsome, _⟩ => nomatch h.symm.trans hsome
  | some info =>
    if hid : info.handle.id = id then .isTrue ⟨info, h, hid⟩
    else .isFalse fun ⟨_, hsome, hother⟩ =>
      hid (Option.some.inj (h.symm.trans hsome) ▸ hother)

/-- The environments that a controller knows of. -/
def knownOf : Except Status (List NfceeInfo) → List NfceeInfo
  | .ok infos => infos
  | .error _ => []

/-- The name of the element that reports on a pipe. -/
def elementOn (pipes : PipeConfig) (infos : List NfceeInfo) (pipe : UInt8) : Option String :=
  if pipe = pipes.ese then some (if LedBy false 0x84 infos then "DHSE1" else "eSE1")
  else if pipe = pipes.sim then some (if LedBy true 0x81 infos then "SIM1" else "SIM2")
  else none

/-- The transaction that a message reports, if it reports one. -/
def reportOf (pipes : PipeConfig) (infos : List NfceeInfo) (pipe code : UInt8) (payload : Bytes) :
    Option OffHostTransaction :=
  if code = 0x12 then do
    let transaction ← (Transaction.decode payload).toOption
    let element ← elementOn pipes infos pipe
    return ⟨transaction.aid, transaction.data, element⟩
  else none

lemma isOdd_eq (handle : NfceeHandle) : handle.isOdd = (handle.code.toNat % 2 == 1) := by
  have hmod : (handle.code &&& 1).toNat = handle.code.toNat % 2 := by
    rw [UInt16.toNat_and]
    exact Nat.and_one_is_mod _
  have hlow : handle.code &&& 1 = 0 ↔ handle.code.toNat % 2 = 0 := by
    rw [← UInt16.toNat_inj, hmod]
    rfl
  unfold NfceeHandle.isOdd
  rw [Bool.eq_iff_iff, bne_iff_ne, beq_iff_eq, ne_eq, hlow]
  omega

lemma connectedId_iff {selector : UInt8} {odd : Bool} (hfamily : NfceeInfo.family? selector = some odd)
    {id : UInt8} (hid : id ≠ hostRoute) (infos : List NfceeInfo) :
    NfceeInfo.connectedId infos selector = id ↔ LedBy odd id infos := by
  have hfirst : infos.find? (fun info => info.isActive && info.handle.isOdd == odd) =
      firstActive odd infos := by
    unfold firstActive
    simp only [isOdd_eq]
    rfl
  unfold NfceeInfo.connectedId LedBy
  rw [hfamily]
  dsimp only
  rw [hfirst]
  cases firstActive odd infos with
  | none =>
    refine ⟨fun h => absurd h.symm hid, ?_⟩
    rintro ⟨_, h, -⟩
    exact absurd h nofun
  | some info =>
    refine ⟨fun h => ⟨info, rfl, h⟩, ?_⟩
    rintro ⟨other, h, hother⟩
    rw [Option.some.inj h]
    exact hother

lemma eseName_eq (infos : List NfceeInfo) :
    OffHostTransaction.eseName infos = if LedBy false 0x84 infos then "DHSE1" else "eSE1" := by
  have hled : NfceeInfo.connectedId infos 0x82 = 0x84 ↔ LedBy false 0x84 infos :=
    connectedId_iff rfl (by decide) infos
  unfold OffHostTransaction.eseName
  simp only [hled]

lemma simName_eq (infos : List NfceeInfo) :
    OffHostTransaction.simName infos = if LedBy true 0x81 infos then "SIM1" else "SIM2" := by
  have hled : NfceeInfo.connectedId infos 0x81 = 0x81 ↔ LedBy true 0x81 infos :=
    connectedId_iff rfl (by decide) infos
  unfold OffHostTransaction.simName
  simp only [hled]

lemma elementOn_eq (pipes : PipeConfig) (infos : List NfceeInfo) (pipe : UInt8) :
    elementOn pipes infos pipe =
      (OffHostTransaction.family? pipes pipe).map fun family => family.name infos := by
  unfold elementOn OffHostTransaction.family?
  split
  · rw [← eseName_eq]
    rfl
  · split
    · rw [← simName_eq]
      rfl
    · rfl

lemma decode_toOption (pipes : PipeConfig) (infos : Except Status (List NfceeInfo)) (pipe : UInt8)
    (payload : Bytes) :
    (OffHostTransaction.decode pipes infos pipe payload).toOption =
      (Transaction.decode payload).toOption.bind fun transaction =>
        (elementOn pipes (knownOf infos) pipe).map fun element =>
          ⟨transaction.aid, transaction.data, element⟩ := by
  rw [elementOn_eq]
  unfold OffHostTransaction.decode
  cases OffHostTransaction.family? pipes pipe with
  | none => cases Transaction.decode payload <;> rfl
  | some family =>
    cases infos with
    | error status => cases Transaction.decode payload <;> rfl
    | ok known => cases Transaction.decode payload <;> rfl

lemma pipeTidings_eq (pipes : PipeConfig) (infos : Except Status (List NfceeInfo))
    (pipe code : UInt8) (payload : Bytes) :
    pipeTidings pipes infos pipe code payload =
      ((reportOf pipes (knownOf infos) pipe code payload).map .transaction).toList := by
  have hread := decode_toOption pipes infos pipe payload
  unfold pipeTidings reportOf
  by_cases hcode : code = 0x12
  · have hevent : code = OffHostTransaction.eventCode := hcode
    have hreport : (do
        let transaction ← (Transaction.decode payload).toOption
        let element ← elementOn pipes (knownOf infos) pipe
        return ⟨transaction.aid, transaction.data, element⟩ : Option OffHostTransaction) =
          (OffHostTransaction.decode pipes infos pipe payload).toOption := by
      rw [hread]
      cases (Transaction.decode payload).toOption with
      | none => rfl
      | some transaction => cases elementOn pipes (knownOf infos) pipe <;> rfl
    rw [if_pos hevent, if_pos hcode, hreport]
    cases OffHostTransaction.decode pipes infos pipe payload <;> rfl
  · have hevent : ¬code = OffHostTransaction.eventCode := hcode
    rw [if_neg hevent, if_neg hcode]
    rfl

end Elements

section Messages

/-- A message of a secure element or of its host controller, or a change of the controller. -/
inductive PipeStep (σ : Type) where
  | message (pipe code : UInt8) (payload : Bytes)
  | other (code : UInt8)
  | becomes (x : σ)

/-- The transactions that messages report, when the controller begins in a state. -/
def reportsFrom (c : Controller σ) (pipes : PipeConfig) : σ → List (PipeStep σ) → List OffHostTransaction
  | _, [] => []
  | x, .message pipe code payload :: rest =>
    (reportOf pipes (knownOf (c.nfcees x)) pipe code payload).toList ++ reportsFrom c pipes x rest
  | x, .other _ :: rest => reportsFrom c pipes x rest
  | _, .becomes y :: rest => reportsFrom c pipes y rest

/-- Does a step, given how the controller reports an event. -/
def PipeStep.take (report : Event → System σ → System σ) : PipeStep σ → System σ → System σ
  | .message pipe code payload, s => report (.hciReceived pipe code payload) s
  | .other code, s => report (.hciOther code) s
  | .becomes x, s => { s with controller := x }

/-- A system after steps, each event of which is delivered as it comes. -/
def afterMessages (c : Controller σ) (steps : List (PipeStep σ)) (s : System σ) : System σ :=
  steps.foldl (fun s step => step.take (fun event => c.deliver (.event event)) s) s

/-- A system after steps whose events are reported as moves. -/
def afterMessageMoves (c : Controller σ) (steps : List (PipeStep σ)) (s : System σ) : System σ :=
  steps.foldl (fun s step => step.take (fun event => afterDeeds c (reports [event])) s) s

variable {c : Controller σ} {s : System σ}

/-- A message is heard and told of, and that is all. -/
lemma message_delivered (hr : s.receiver = .host) (hl : s.host.listener = .recording)
    (pipe code : UInt8) (payload : Bytes) :
    let t := c.deliver (.event (.hciReceived pipe code payload)) s
    t.host = s.host ∧ OnlyHears s t ∧
      System.notificationsOf t.trace = System.notificationsOf s.trace ++
        ((reportOf s.host.config.pipes (knownOf (c.nfcees s.controller)) pipe code payload).map
          .transaction).toList := by
  refine ⟨(deliver_host c hr _).host, deliver_onlyHears rfl s, ?_⟩
  rw [deliver_tells c hr, hl, ← pipeTidings_eq]
  rfl

lemma other_delivered (hr : s.receiver = .host) (code : UInt8) :
    let t := c.deliver (.event (.hciOther code)) s
    t.host = s.host ∧ OnlyHears s t ∧
      System.notificationsOf t.trace = System.notificationsOf s.trace := by
  refine ⟨(deliver_host c hr _).host, deliver_onlyHears rfl s, ?_⟩
  rw [deliver_tells c hr]
  have hnothing : tidings (c.nfcees s.controller) (.hciOther code) s.host = [] := rfl
  rw [hnothing, heardBy_nil, List.append_nil]

lemma afterMessages_tells (hr : s.receiver = .host) (hl : s.host.listener = .recording)
    (steps : List (PipeStep σ)) :
    (afterMessages c steps s).host = s.host ∧
      System.notificationsOf (afterMessages c steps s).trace = System.notificationsOf s.trace ++
        (reportsFrom c s.host.config.pipes s.controller steps).map .transaction := by
  induction steps generalizing s with
  | nil => exact ⟨rfl, (List.append_nil _).symm⟩
  | cons step rest ih =>
    cases step with
    | message pipe code payload =>
      obtain ⟨hhost, hheard, htold⟩ := message_delivered (c := c) hr hl pipe code payload
      obtain ⟨hafter, htells⟩ := ih (hheard.receiver.trans hr) ((congrArg Host.listener hhost).trans hl)
      refine ⟨hafter.trans hhost, htells.trans ?_⟩
      rw [htold, hhost, hheard.controller, reportsFrom, List.map_append, List.append_assoc]
      cases reportOf s.host.config.pipes (knownOf (c.nfcees s.controller)) pipe code payload <;> rfl
    | other code =>
      obtain ⟨hhost, hheard, htold⟩ := other_delivered (c := c) hr code
      obtain ⟨hafter, htells⟩ := ih (hheard.receiver.trans hr) ((congrArg Host.listener hhost).trans hl)
      refine ⟨hafter.trans hhost, htells.trans ?_⟩
      rw [htold, hhost, hheard.controller, reportsFrom]
    | becomes x => exact ih (s := { s with controller := x }) hr hl

/-- Where nothing is in flight, moves deliver the events and do nothing else. -/
lemma afterMessageMoves_eq (hr : s.receiver = .host) (hq : s.queue = []) (hl : s.late = none)
    (steps : List (PipeStep σ)) : afterMessageMoves c steps s = afterMessages c steps s := by
  -- No message is answered with a request, so nothing is in flight before the next step either.
  induction steps generalizing s with
  | nil => rfl
  | cons step rest ih =>
    have hreport (event : Event) (hasks : asksBack (.event event) = false) :
        afterMessageMoves c rest (afterDeeds c (reports [event]) s) =
          afterMessages c rest (c.deliver (.event event) s) := by
      have hmove : afterDeeds c (reports [event]) s = c.deliver (.event event) s :=
        report_still hr hq hl hasks
      have hheard : OnlyHears s (c.deliver (.event event) s) := deliver_onlyHears hasks s
      rw [hmove]
      exact ih (hheard.receiver.trans hr) (hheard.queue.trans hq) (hheard.late.trans hl)
    cases step with
    | message pipe code payload => exact hreport _ rfl
    | other code => exact hreport _ rfl
    | becomes x => exact ih (s := { s with controller := x }) hr hq hl

end Messages

/-- Whatever state the host is in, and however the controller changes its mind in between, the listener
is told of the transactions that the messages report, named by the environments of their moment, and of
nothing else. Where nothing is in flight the same comes of the controller's reports. -/
theorem transactions_reported (c : Controller σ) (s : System σ) (hr : s.receiver = .host)
    (hl : s.host.listener = .recording) (steps : List (PipeStep σ)) :
    let t := afterMessages c steps s
    t.host = s.host ∧
      System.notificationsOf t.trace = System.notificationsOf s.trace ++
        (reportsFrom c s.host.config.pipes s.controller steps).map .transaction ∧
      (s.queue = [] → s.late = none → afterMessageMoves c steps s = t) := by
  obtain ⟨hhost, htold⟩ := afterMessages_tells (c := c) hr hl steps
  exact ⟨hhost, htold, fun hq hlate => afterMessageMoves_eq hr hq hlate steps⟩

def withEnvironment (id : UInt8) : Script := { nfcees := .ok [⟨.ofId id, 0x00, []⟩] }

def simMessage : PipeStep Script := .message 0x0a 0x12 [0x81, 3, 0xa0, 0, 9]

/-- The same element is named twice, before and after another environment became active. -/
theorem sim_named_twice :
    listeningStack.receiver = .host ∧ listeningStack.host.listener = .recording ∧
      System.notificationsOf (afterMessageMoves Script.controller
          [.becomes (withEnvironment 0x81), simMessage, .other 3, .becomes (withEnvironment 0x83),
            simMessage] listeningStack).trace =
        [.transaction ⟨[0xa0, 0, 9], [], "SIM1"⟩, .transaction ⟨[0xa0, 0, 9], [], "SIM2"⟩] := by
  obtain ⟨-, htold, hmoves⟩ := transactions_reported Script.controller listeningStack rfl rfl
    [.becomes (withEnvironment 0x81), simMessage, .other 3, .becomes (withEnvironment 0x83), simMessage]
  refine ⟨rfl, rfl, ?_⟩
  rw [hmoves rfl rfl, htold]
  rfl

end NfcStack.Proofs
