import NfcStack.Proofs.TagDiscoveries

/-!
# Bounds on waits

A timeout table gives the bound that was set last since it was last reset, and otherwise the configured
one. Which configured bounds may be zero is decided by the check of a configuration, which looks at the
fallback alone and at no bound of a single technology.
-/

namespace NfcStack.Proofs

section Tables

/-- What is done to a timeout table. -/
inductive TableStep where
  | set (technology : Technology) (bound : UInt64)
  | reset
  deriving DecidableEq

namespace TableStep

/-- Setting the bound of a technology that has none leaves the table as it is. -/
def apply : TableStep → TimeoutTable → TimeoutTable
  | .set technology bound, table => (table.set? technology bound).getD table
  | .reset, table => table.reset

def isReset : TableStep → Bool
  | .reset => true
  | .set _ _ => false

/-- The bound that a technology gets. The unknown one gets none. -/
def boundFor? (technology : Technology) : TableStep → Option UInt64
  | .set other bound => if other = technology ∧ other ≠ .unknown then some bound else none
  | .reset => none

end TableStep

def afterSteps (steps : List TableStep) (table : TimeoutTable) : TimeoutTable :=
  steps.foldl (fun table step => step.apply table) table

/-- The bound of a technology by what was done: the one set last since the last reset, or else the
configured one. -/
def boundBy (defaults : TagTimeouts) (steps : List TableStep) (technology : Technology) : UInt64 :=
  (((sinceLast TableStep.isReset steps).filterMap (TableStep.boundFor? technology)).getLast?).getD
    (defaults.forTechnology technology)

variable {table next : TimeoutTable} {technology : Technology} {bound : UInt64}

lemma index_ofIndex {index : Fin Technology.tableSize} (h : technology.index? = some index) :
    Technology.ofIndex index = technology := by
  cases technology <;> cases h <;> rfl

lemma index_inj {other : Technology} {index : Fin Technology.tableSize}
    (h : technology.index? = some index) (hother : other.index? = some index) : other = technology :=
  (index_ofIndex hother).symm.trans (index_ofIndex h)

lemma index_none (h : technology.index? = none) : technology = .unknown := by
  cases technology with
  | unknown => rfl
  | _ => exact absurd h nofun

@[simp] lemma ofDefaults_defaults (defaults : TagTimeouts) :
    (TimeoutTable.ofDefaults defaults).defaults = defaults := rfl

lemma ofDefaults_get (defaults : TagTimeouts) (technology : Technology) :
    (TimeoutTable.ofDefaults defaults).get technology = defaults.forTechnology technology := by
  unfold TimeoutTable.get
  cases hindex : technology.index? with
  | none =>
    rw [index_none hindex]
    rfl
  | some index =>
    have hentry : (TimeoutTable.ofDefaults defaults).entries.get index =
        defaults.forTechnology (Technology.ofIndex index) := Vector.getElem_ofFn index.isLt
    exact hentry.trans (congrArg defaults.forTechnology (index_ofIndex hindex))

/-- Only the unknown technology has no entry. -/
lemma set_none_iff : table.set? technology bound = none ↔ technology = .unknown := by
  unfold TimeoutTable.set?
  cases hindex : technology.index? with
  | none => exact iff_of_true rfl (index_none hindex)
  | some index =>
    refine iff_of_false nofun fun hunknown => ?_
    rw [hunknown] at hindex
    exact absurd hindex nofun

lemma set_defaults (h : table.set? technology bound = some next) : next.defaults = table.defaults := by
  unfold TimeoutTable.set? at h
  split at h
  · rw [← Option.some.inj h]
  · exact absurd h nofun

/-- Setting the bound of one technology leaves those of the others as they are. -/
lemma set_get (h : table.set? technology bound = some next) (other : Technology) :
    next.get other = if technology = other then bound else table.get other := by
  unfold TimeoutTable.set? at h
  split at h
  · next index hindex =>
    rw [← Option.some.inj h]
    unfold TimeoutTable.get
    cases hother : other.index? with
    | none =>
      have hne : technology ≠ other := by
        intro heq
        rw [heq, hother] at hindex
        exact absurd hindex nofun
      rw [if_neg hne]
    | some place =>
      by_cases heq : technology = other
      · subst heq
        rw [if_pos rfl, Option.some.inj (hother.symm.trans hindex)]
        exact Vector.getElem_set_self index.isLt
      · have hplace : index.val ≠ place.val := fun hsame =>
          heq (index_inj hother (hindex.trans (congrArg some (Fin.ext hsame))))
        rw [if_neg heq]
        exact Vector.getElem_set_ne index.isLt place.isLt hplace
  · exact absurd h nofun

lemma apply_defaults (step : TableStep) (table : TimeoutTable) :
    (step.apply table).defaults = table.defaults := by
  cases step with
  | reset => rfl
  | set technology bound =>
    change ((table.set? technology bound).getD table).defaults = table.defaults
    cases hset : table.set? technology bound with
    | none => rfl
    | some next => exact set_defaults hset

lemma apply_get (step : TableStep) (table : TimeoutTable) (technology : Technology) :
    (step.apply table).get technology =
      if step.isReset then table.defaults.forTechnology technology
      else (step.boundFor? technology).getD (table.get technology) := by
  cases step with
  | reset => exact ofDefaults_get table.defaults technology
  | set other bound =>
    change ((table.set? other bound).getD table).get technology =
      (if other = technology ∧ other ≠ .unknown then some bound else none).getD (table.get technology)
    cases hset : table.set? other bound with
    | none =>
      rw [if_neg fun h => h.2 (set_none_iff.mp hset)]
      rfl
    | some next =>
      have hknown : other ≠ .unknown := fun h => by
        rw [set_none_iff.mpr h] at hset
        exact absurd hset nofun
      change next.get technology = _
      rw [set_get hset]
      by_cases heq : other = technology
      · rw [if_pos heq, if_pos ⟨heq, hknown⟩]
        rfl
      · rw [if_neg heq, if_neg fun h => heq h.1]
        rfl

lemma afterSteps_append (first rest : List TableStep) (table : TimeoutTable) :
    afterSteps (first ++ rest) table = afterSteps rest (afterSteps first table) :=
  List.foldl_append

lemma afterSteps_defaults (steps : List TableStep) (table : TimeoutTable) :
    (afterSteps steps table).defaults = table.defaults := by
  induction steps generalizing table with
  | nil => rfl
  | cons step rest ih => exact (ih (step.apply table)).trans (apply_defaults step table)

lemma boundBy_append (defaults : TagTimeouts) (steps : List TableStep) (step : TableStep)
    (technology : Technology) :
    boundBy defaults (steps ++ [step]) technology =
      if step.isReset then defaults.forTechnology technology
      else (step.boundFor? technology).getD (boundBy defaults steps technology) := by
  unfold boundBy
  cases hreset : step.isReset with
  | true =>
    rw [sinceLast_self hreset]
    rfl
  | false =>
    rw [sinceLast_other hreset, List.filterMap_append, List.getLast?_append, if_neg Bool.false_ne_true]
    cases hbound : step.boundFor? technology with
    | none => simp [hbound]
    | some bound => simp [hbound]

/-- A table refines the map from technologies to the bounds that were set last. -/
lemma afterSteps_get (defaults : TagTimeouts) (steps : List TableStep) (technology : Technology) :
    (afterSteps steps (TimeoutTable.ofDefaults defaults)).get technology =
      boundBy defaults steps technology := by
  induction steps using List.reverseRecOn with
  | nil => exact ofDefaults_get defaults technology
  | append_singleton steps step ih =>
    rw [afterSteps_append, boundBy_append, ← ih]
    change (step.apply (afterSteps steps (TimeoutTable.ofDefaults defaults))).get technology = _
    rw [apply_get, afterSteps_defaults, ofDefaults_defaults]

/-- No bound is ever set for the unknown technology. -/
lemma boundBy_unknown (defaults : TagTimeouts) (steps : List TableStep) :
    boundBy defaults steps .unknown = defaults.fallback := by
  have hnone (steps : List TableStep) : steps.filterMap (TableStep.boundFor? .unknown) = [] := by
    refine List.filterMap_eq_nil_iff.mpr fun step _ => ?_
    cases step with
    | reset => rfl
    | set other bound => exact if_neg fun h => h.2 h.1
  unfold boundBy
  rw [hnone]
  rfl

end Tables

section Configurations

variable {config : Config} {host : Host}

/-- A configuration is accepted exactly if the four bounds that are looked at are positive and the pipes
differ. -/
lemma validate_iff : config.validate = .ok () ↔
    config.waitTimeout ≠ 0 ∧ config.routingTimeout ≠ 0 ∧ config.tagTimeouts.fallback ≠ 0 ∧
      config.presenceDelay ≠ 0 ∧ config.pipes.ese ≠ config.pipes.sim := by
  unfold Config.validate
  by_cases hwait : config.waitTimeout = 0 ∨ config.routingTimeout = 0
  · rw [if_pos hwait]
    exact iff_of_false nofun fun h => hwait.elim h.1 h.2.1
  rw [if_neg hwait]
  obtain ⟨hwait, hrouting⟩ := not_or.mp hwait
  by_cases hfallback : config.tagTimeouts.fallback = 0
  · rw [if_pos hfallback]
    exact iff_of_false nofun fun h => h.2.2.1 hfallback
  rw [if_neg hfallback]
  by_cases hdelay : config.presenceDelay = 0
  · rw [if_pos hdelay]
    exact iff_of_false nofun fun h => h.2.2.2.1 hdelay
  rw [if_neg hdelay]
  by_cases hpipes : config.pipes.ese = config.pipes.sim
  · rw [if_pos hpipes]
    exact iff_of_false nofun fun h => h.2.2.2.2 hpipes
  · rw [if_neg hpipes]
    exact iff_of_true rfl ⟨hwait, hrouting, hfallback, hdelay, hpipes⟩

lemma build_iff : Host.build config = .ok host ↔ config.validate = .ok () ∧ host = Host.fresh config := by
  unfold Host.build
  cases hvalid : config.validate with
  | error fault => exact iff_of_false nofun fun h => absurd h.1 nofun
  | ok accepted => exact ⟨fun h => ⟨rfl, (Except.ok.inj h).symm⟩, fun h => congrArg Except.ok h.2.symm⟩

/-- The technologies that have a bound of their own in a configuration. -/
def hasOwnBound (technology : Technology) : Bool :=
  technology ≠ .kovioBarcode && technology ≠ .unknown

/-- Other timeouts, with another bound for one technology. -/
def withBound (timeouts : TagTimeouts) (technology : Technology) (bound : UInt64) : TagTimeouts :=
  match technology with
  | .iso14443A => { timeouts with iso14443A := bound }
  | .iso14443B => { timeouts with iso14443B := bound }
  | .iso14443Part4 => { timeouts with iso14443Part4 := bound }
  | .felica => { timeouts with felica := bound }
  | .iso15693 => { timeouts with iso15693 := bound }
  | .ndef => { timeouts with ndef := bound }
  | .ndefFormatable => { timeouts with ndefFormatable := bound }
  | .mifareClassic => { timeouts with mifareClassic := bound }
  | .mifareUltralight => { timeouts with mifareUltralight := bound }
  | .kovioBarcode | .unknown => { timeouts with fallback := bound }

lemma withBound_forTechnology (timeouts : TagTimeouts) (technology : Technology) (bound : UInt64) :
    (withBound timeouts technology bound).forTechnology technology = bound := by
  cases technology <;> rfl

lemma withBound_fallback (timeouts : TagTimeouts) {technology : Technology}
    (h : hasOwnBound technology = true) (bound : UInt64) :
    (withBound timeouts technology bound).fallback = timeouts.fallback := by
  cases technology with
  | kovioBarcode => exact absurd h nofun
  | unknown => exact absurd h nofun
  | _ => rfl

lemma forTechnology_shared (timeouts : TagTimeouts) {technology : Technology}
    (h : hasOwnBound technology = false) : timeouts.forTechnology technology = timeouts.fallback := by
  cases technology with
  | kovioBarcode => rfl
  | unknown => rfl
  | _ => exact absurd h nofun

/-- The bound of one technology alone decides nothing about a configuration. -/
lemma withBound_accepted {technology : Technology} (h : hasOwnBound technology = true) (bound : UInt64)
    (haccepted : config.validate = .ok ()) :
    let changed := { config with tagTimeouts := withBound config.tagTimeouts technology bound }
    changed.validate = .ok () := by
  have hbounds := validate_iff.mp haccepted
  rw [← withBound_fallback config.tagTimeouts h bound] at hbounds
  exact validate_iff.mpr hbounds

lemma presenceDelay_ne_zero {requested : Int} {fallback : UInt64} (hrange : requested < 0x8000000000000000)
    (h : fallback ≠ 0) : presenceDelay requested fallback ≠ 0 := by
  unfold presenceDelay
  split
  · exact h
  · next hpositive =>
    intro hzero
    have hvalue := congrArg UInt64.toNat hzero
    simp [UInt64.ofInt] at hvalue
    omega

/-- Over every host that is built from a configuration, waits and presence loops have a positive bound. Of the
bounds of exchanges, that a fresh table or one that was reset gives, the configured ones, those of the
technologies that share the fallback are positive; all are exactly if none of the others was configured as
zero, and every bound of those is accepted. -/
theorem accepted_bounds (config : Config) (host : Host) (hbuilt : Host.build config = .ok host) :
    (host.waitBound ≠ 0 ∧ host.routingBound ≠ 0 ∧ host.config.presenceDelay ≠ 0 ∧
      ∀ requested : Int, requested < 0x8000000000000000 → presenceDelay requested host.config.presenceDelay ≠ 0) ∧
    (∀ technology,
      host.session.timeouts.get technology = config.tagTimeouts.forTechnology technology ∧
        (∀ steps, (afterSteps steps host.session.timeouts).reset.get technology =
          config.tagTimeouts.forTechnology technology) ∧
        (hasOwnBound technology = false → host.session.timeouts.get technology ≠ 0)) ∧
    ((∀ technology, host.session.timeouts.get technology ≠ 0) ↔
      ∀ technology, hasOwnBound technology = true → config.tagTimeouts.forTechnology technology ≠ 0) ∧
    ∀ technology bound, hasOwnBound technology = true → ∃ other,
      Host.build { config with tagTimeouts := withBound config.tagTimeouts technology bound } = .ok other ∧
        other.session.timeouts.get technology = bound := by
  obtain ⟨haccepted, rfl⟩ := build_iff.mp hbuilt
  obtain ⟨hwait, hrouting, hfallback, hdelay, -⟩ := validate_iff.mp haccepted
  have hget (technology : Technology) : (Host.fresh config).session.timeouts.get technology =
      config.tagTimeouts.forTechnology technology := ofDefaults_get config.tagTimeouts technology
  have hshared (technology : Technology) (h : hasOwnBound technology = false) :
      config.tagTimeouts.forTechnology technology ≠ 0 := by
    rw [forTechnology_shared config.tagTimeouts h]
    exact hfallback
  refine ⟨⟨hwait, hrouting, hdelay, fun requested hrange => presenceDelay_ne_zero hrange hdelay⟩,
    fun technology => ⟨hget technology, fun steps => ?_, fun h => ?_⟩,
    ⟨fun h technology _ => ?_, fun h technology => ?_⟩, fun technology bound h => ?_⟩
  · have hdefaults := afterSteps_defaults steps (Host.fresh config).session.timeouts
    change (TimeoutTable.ofDefaults _).get technology = _
    rw [ofDefaults_get, hdefaults]
    rfl
  · rw [hget]
    exact hshared technology h
  · rw [← hget]
    exact h technology
  · rw [hget]
    cases hown : hasOwnBound technology with
    | true => exact h technology hown
    | false => exact hshared technology hown
  · refine ⟨_, build_iff.mpr ⟨withBound_accepted h bound haccepted, rfl⟩, ?_⟩
    exact (ofDefaults_get _ technology).trans (withBound_forTechnology config.tagTimeouts technology bound)

/-- With the usual configuration no bound is zero. -/
theorem usual_bounds_positive :
    Host.build {} = .ok (Host.fresh {}) ∧ ∀ technology, (Host.fresh {}).session.timeouts.get technology ≠ 0 := by
  obtain ⟨-, -, hpositive, -⟩ := accepted_bounds {} (Host.fresh {}) rfl
  refine ⟨rfl, hpositive.mpr fun technology _ => ?_⟩
  cases technology <;> decide

/-- A configuration that leaves exchanges with FeliCa targets no time. -/
def hasty : Config := { tagTimeouts := { felica := 0 } }

/-- A host with that configuration that selected a FeliCa target. -/
def hastyHost : Host :=
  (ran Script.controller [] hasty {} (firstBringUp ++ reports [.activated (Sample.felica 1 0x0003)] ++
    [.move (.call (.session (.connect ⟨1, Protocol.t3t, .felica⟩)))])).host

/-- The configuration is accepted, and every exchange with the selected target is over at once. -/
theorem accepted_without_time :
    hasty.validate = .ok () ∧ hastyHost.session.connection = some ⟨1, Protocol.t3t, .felica⟩ ∧
      hastyHost.session.timeouts.get .felica = 0 ∧ hastyHost.exchangeBound = 0 := by
  decide +kernel

end Configurations

end NfcStack.Proofs
