import NfcStack.Proofs.Footing

/-!
# Reader mode

Listening and the duration of discovery are switched only when the mode changes that the stack remembers.
What it remembers may differ from what its controller was told: disabling discovery makes the stack forget
the mode and tells the controller nothing, and bringing the stack up tells the controller to begin anew
and lets the stack remember.
-/

namespace NfcStack.Proofs

variable {σ α : Type}

section Standings

/-- Calls that concern discovery and the life cycle of the stack. -/
inductive ModeCall where
  | enable (mask : Option TechMask) (readerMode hostRouting restart : Bool)
  | disable
  | takeDown
  | bringUp
  deriving DecidableEq

def ModeCall.call : ModeCall → HostCall
  | .enable mask readerMode hostRouting restart =>
    .enableDiscovery mask readerMode hostRouting restart
  | .disable => .disableDiscovery
  | .takeDown => .takeDown
  | .bringUp => .bringUp

def deedsOf (calls : List ModeCall) : List Deed :=
  calls.map fun call => .move (.call (.host call.call))

/-- What a run of such calls leads to with a controller that completes them. -/
structure Standing where
  up : Bool := false
  discovering : Bool := false
  /-- The mode that the stack remembers. -/
  remembered : Bool := false
  /-- The mode that the controller was told. -/
  told : Bool := false

namespace Standing

def switch (readerMode : Bool) (standing : Standing) : Standing :=
  if standing.remembered = readerMode then standing
  else { standing with remembered := readerMode, told := readerMode }

def configure (mask : TechMask) (readerMode : Bool) (standing : Standing) : Standing :=
  if mask.isEmpty then standing else standing.switch readerMode

def enable (mask : TechMask) (readerMode restart : Bool) (standing : Standing) : Standing :=
  if !standing.up || (standing.discovering && !restart) then standing
  else { standing.configure mask readerMode with discovering := true }

def disable (standing : Standing) : Standing :=
  if !standing.up || !standing.discovering then standing
  else { standing with discovering := false, remembered := false }

def takeDown (standing : Standing) : Standing :=
  if standing.up then { standing with up := false, discovering := false } else standing

def bringUp (standing : Standing) : Standing :=
  if standing.up then standing else { standing with up := true, told := false }

def next (standing : Standing) : ModeCall → Standing
  | .enable mask readerMode _ restart => standing.enable (Discovery.pollMask mask) readerMode restart
  | .disable => standing.disable
  | .takeDown => standing.takeDown
  | .bringUp => standing.bringUp

def after (standing : Standing) (calls : List ModeCall) : Standing := calls.foldl next standing

def bearing (config : Config) (standing : Standing) : Bearing where
  config := config
  enabled := standing.up
  disabling := false
  discovery := standing.discovering
  readerMode := standing.remembered

end Standing

variable {c : Controller σ} {P : σ → Prop} {s t : System σ} {config : Config} {standing : Standing}

/-- A composed system with a host as it is after a run of calls, and a controller that was told so. -/
def Stands (P : σ → Prop) (config : Config) (standing : Standing) (s : System σ) : Prop :=
  ∃ footing, Stance P (standing.bearing config) footing s ∧
    (standing.up = true → InStep config standing.told footing)

lemma Completing.spares_stands (hc : Completing c P) {op : Op σ α} (h : KeepsTo SparesMode c.alone op) :
    Leads c (Stands P config standing) op fun _ => Stands P config standing := by
  rintro s ⟨footing, hstance, htold⟩
  exact ⟨footing, hc.spares_leads h s hstance, htold⟩

lemma lifecycle_stands {op : Op σ α} {next : Standing}
    (h : Leads c (Stands P config standing) op fun _ => Stands P config next) :
    Leads c (fun s => Stands P config standing s ∧ s.host.inUse = []) (Op.reserving .lifecycle op)
      fun _ => Stands P config next := by
  refine lifecycle_leads ?_ ?_ h
  · rintro s ⟨footing, hstance, htold⟩
    exact ⟨footing, ⟨hstance.mapHost _, hstance.stands, hstance.told, hstance.hears⟩, htold⟩
  · rintro _ t ⟨footing, hstance, htold⟩
    exact ⟨hstance.late, footing,
      ⟨hstance.mapHost _, hstance.stands, hstance.told, hstance.hears⟩, htold⟩

lemma stands_leads {op : Op σ α} {B : α → System σ → Prop}
    (h : ∀ footing, (standing.up = true → InStep config standing.told footing) →
      Leads c (Stance P (standing.bearing config) footing) op B) :
    Leads c (Stands P config standing) op B := by
  rintro s ⟨footing, hstance, htold⟩
  exact h footing htold s hstance

lemma Completing.switch_stands (hc : Completing c P) (readerMode : Bool) :
    Leads c (Stands P config standing) (Discovery.switchReaderMode readerMode) fun _ =>
      Stands P config (standing.switch readerMode) := by
  refine stands_leads fun footing htold => ?_
  refine leads_known standing.remembered (fun s hs => congrArg Bearing.readerMode hs.stands) ?_
  unfold Standing.switch
  by_cases hsame : standing.remembered = readerMode
  · rw [if_pos hsame, if_pos hsame]
    exact leads_pure () fun s hs => ⟨footing, hs, htold⟩
  · have hlistening : Routine (.request (listeningRequest readerMode)) := by
      cases readerMode
      · trivial
      · trivial
    have hduration : Routine (.request (.setDiscoveryDuration (modeDuration config readerMode))) :=
      trivial
    rw [if_neg hsame, if_neg hsame]
    refine leads_known config (fun s hs => congrArg Bearing.config hs.stands) ?_
    refine (hc.send_leads hlistening).bind fun _ => (hc.send_leads hduration).bind fun _ => ?_
    intro s hs
    have hswitched := update_leads (fun bearing => { bearing with readerMode })
      (f := (Change.readerMode readerMode (modeDuration config readerMode)).apply) (c := c)
      (fun _ => rfl) (fun h => h) s hs
    exact ⟨_, hswitched, fun _ => inStep_switched config readerMode footing⟩

lemma Completing.configure_stands (hc : Completing c P) (mask : TechMask) (readerMode : Bool)
    (hup : standing.up = true) :
    Leads c (Stands P config standing) (Discovery.configurePolling mask readerMode) fun _ =>
      Stands P config (standing.configure mask readerMode) := by
  have ho : Orderly SparesMode c.alone := orderly_alone SparesMode c
  have hpolls : Leads c (Stands P config standing) (Radio.startPolling mask) fun _ t =>
      Stands P config standing t ∧ t.host.flags.polling = true := by
    intro s hs
    refine ⟨hc.spares_stands (startPolling_keepsTo ho (fun _ h => h) mask) s hs, ?_⟩
    obtain ⟨footing, hstance, -⟩ := hs
    exact hc.startPolling_polls mask hstance.toComposed (hstance.hears hup)
  refine (hc.spares_stands (stopPolling_keepsTo ho fun _ h => h)).bind fun _ => ?_
  unfold Standing.configure
  by_cases hempty : mask.isEmpty = true
  · rw [if_pos hempty, if_pos hempty]
    exact leads_pure () fun _ h => h
  · rw [if_neg hempty, if_neg hempty]
    refine hpolls.bind fun _ => leads_known true (fun s hs => hs.2) ?_
    rw [if_pos rfl]
    exact fun s hs => hc.switch_stands readerMode s hs.1

lemma Stands.enabled (hs : Stands P config standing s) : s.host.flags.enabled = standing.up := by
  obtain ⟨footing, hstance, -⟩ := hs
  exact congrArg Bearing.enabled hstance.stands

lemma Stands.active (hs : Stands P config standing s) : s.host.flags.active = standing.up := by
  have henabled := hs.enabled
  obtain ⟨footing, hstance, -⟩ := hs
  have hdisabling : s.host.flags.disabling = false := congrArg Bearing.disabling hstance.stands
  simp [Flags.active, henabled, hdisabling]

lemma Stands.discovery (hs : Stands P config standing s) :
    s.host.flags.discovery = standing.discovering := by
  obtain ⟨footing, hstance, -⟩ := hs
  exact congrArg Bearing.discovery hstance.stands

/-- Of the flags that an operation reads, where the stack stands tells these two. -/
lemma leads_flags {next : Flags → Op σ α} {B : α → System σ → Prop}
    (h : ∀ flags, flags.active = standing.up → flags.discovery = standing.discovering →
      Leads c (Stands P config standing) (next flags) B) :
    Leads c (Stands P config standing) (Op.read (·.flags) >>= next) B :=
  leads_read_of (φ := fun flags => flags.active = standing.up ∧ flags.discovery = standing.discovering)
    (fun _ hs => ⟨hs.active, hs.discovery⟩) fun flags hflags => h flags hflags.1 hflags.2

lemma Standing.up_of_taken {skips : Bool} (h : ¬(!standing.up || skips) = true) :
    standing.up = true := by
  by_contra hdown
  simp [hdown] at h

lemma Completing.enable_stands (hc : Completing c P) (mask : Option TechMask)
    (readerMode hostRouting restart : Bool) :
    Leads c (fun s => Stands P config standing s ∧ s.host.inUse = [])
      (Discovery.enable mask readerMode hostRouting restart) fun _ =>
        Stands P config (standing.enable (Discovery.pollMask mask) readerMode restart) := by
  have ho : Orderly SparesMode c.alone := orderly_alone SparesMode c
  have hbegun {standing : Standing} :
      Leads c (Stands P config standing) (Op.update Change.discoveryBegun.apply) fun _ =>
        Stands P config { standing with discovering := true } := by
    rintro s ⟨footing, hstance, htold⟩
    exact ⟨footing, update_leads (fun bearing => { bearing with discovery := true }) (fun _ => rfl)
      (fun h => h) s hstance, htold⟩
  refine lifecycle_stands (leads_flags fun flags hactive hdiscovery => ?_)
  rw [hactive, hdiscovery]
  unfold Standing.enable
  by_cases hskip : (!standing.up || (standing.discovering && !restart)) = true
  · rw [if_pos hskip, if_pos hskip]
    exact leads_pure () fun _ h => h
  · have hup : standing.up = true := Standing.up_of_taken hskip
    have hrest : Leads c (Stands P config standing) (do
        Discovery.configurePolling (Discovery.pollMask mask) readerMode
        CardEmulation.setHostRouting hostRouting
        let _ ← CardEmulation.commit
        let _ ← Radio.startDiscovery
        Op.update Change.discoveryBegun.apply : Op σ Unit) fun _ =>
          Stands P config
            { standing.configure (Discovery.pollMask mask) readerMode with discovering := true } := by
      refine (hc.configure_stands (Discovery.pollMask mask) readerMode hup).bind fun _ => ?_
      refine (hc.spares_stands (setHostRouting_keepsTo ho (fun _ h => h) hostRouting)).bind fun _ => ?_
      refine (hc.spares_stands (commit_keepsTo ho fun _ h => h)).bind fun _ => ?_
      exact (hc.spares_stands (startDiscovery_keepsTo ho fun _ h => h)).bind fun _ => hbegun
    rw [if_neg hskip, if_neg hskip]
    -- Whether discovery runs makes no difference to what follows once it is stopped.
    cases flags.rf with
    | false => exact hrest
    | true =>
      exact (hc.spares_stands (stopDiscovery_keepsTo ho fun _ h => h)).bind fun _ => hrest

lemma Completing.disable_stands (hc : Completing c P) :
    Leads c (fun s => Stands P config standing s ∧ s.host.inUse = []) (Discovery.disable : Op σ Unit)
      fun _ => Stands P config (standing.disable) := by
  have ho : Orderly SparesMode c.alone := orderly_alone SparesMode c
  have hended : Leads c (Stands P config standing) (Op.update Change.discoveryEnded.apply) fun _ =>
      Stands P config { standing with discovering := false, remembered := false } := by
    rintro s ⟨footing, hstance, htold⟩
    exact ⟨footing, update_leads (fun bearing => { bearing with discovery := false, readerMode := false })
      (fun _ => rfl) (fun h => h) s hstance, htold⟩
  refine lifecycle_stands (leads_flags fun flags hactive hdiscovery => ?_)
  rw [hactive, hdiscovery]
  unfold Standing.disable
  by_cases hskip : (!standing.up || !standing.discovering) = true
  · rw [if_pos hskip, if_pos hskip]
    exact leads_pure () fun _ h => h
  · rw [if_neg hskip, if_neg hskip]
    refine (hc.spares_stands (stopDiscovery_keepsTo ho fun _ h => h)).bind fun _ => ?_
    refine leads_read fun polling => ?_
    cases polling with
    | false => exact hended
    | true => exact (hc.spares_stands (stopPolling_keepsTo ho fun _ h => h)).bind fun _ => hended

/-- The end of the way down. Whatever the controller answers, the stack is down after it. -/
lemma Completing.falling_leads (hc : Completing c P) {bearing : Bearing} {footing : Footing}
    (henabled : bearing.enabled = true) :
    Leads c (Stance P bearing footing) (do
        let accepted ← Lifecycle.disableGracefully
        Op.update Change.down.apply
        let _ ← Op.send .adaptationClose
        return accepted : Op σ Bool) fun _ =>
      Stance P { bearing with enabled := false, disabling := false, discovery := false } footing := by
  have hdisable : Leads c (Stance P bearing footing) (Lifecycle.disableGracefully : Op σ Bool)
      fun _ t => ∃ enabled disabling, Stance P { bearing with enabled, disabling } footing t := by
    refine leads_known true (fun s hs => (congrArg Bearing.enabled hs.stands).trans henabled) ?_
    refine (hc.disabling_leads true henabled).bind fun outcome => ?_
    split
    · exact leads_pure _ fun _ h => h
    · exact leads_pure _ fun _ h => h
  have hdown : Leads c (fun t => ∃ enabled disabling,
      Stance P { bearing with enabled, disabling } footing t) (Op.update Change.down.apply : Op σ Unit)
        fun _ =>
          Stance P { bearing with enabled := false, disabling := false, discovery := false } footing := by
    rintro s ⟨enabled, disabling, hs⟩
    have hleads : Leads c (Stance P { bearing with enabled, disabling } footing)
        (Op.update Change.down.apply : Op σ Unit) fun _ =>
          Stance P { bearing with enabled := false, disabling := false, discovery := false } footing :=
      update_leads (fun bearing =>
        { bearing with enabled := false, disabling := false, discovery := false }) (fun _ => rfl) nofun
    exact hleads s hs
  have hclose : KeepsTo SparesMode c.alone (Op.send .adaptationClose : Op σ Status) :=
    keepsTo_send (orderly_alone SparesMode c) trivial nofun
  exact hdisable.bind fun _ => hdown.bind fun _ => (hc.spares_leads hclose).bind fun _ =>
    leads_pure _ fun _ h => h

lemma Completing.takeDown_stands (hc : Completing c P) :
    Leads c (fun s => Stands P config standing s ∧ s.host.inUse = []) (Lifecycle.takeDown : Op σ Bool)
      fun _ => Stands P config standing.takeDown := by
  have ho : Orderly SparesMode c.alone := orderly_alone SparesMode c
  refine leads_known standing.up (fun s hs => hs.1.active) ?_
  unfold Standing.takeDown
  by_cases hup : standing.up = true
  · rw [if_pos hup, if_pos hup]
    refine lifecycle_stands (stands_leads fun footing _ => ?_)
    have hbegun : Leads c (Stance P (standing.bearing config) footing)
        (Op.update Change.disabling.apply : Op σ Unit) fun _ =>
          Stance P { standing.bearing config with disabling := true } footing :=
      update_leads (fun bearing => { bearing with disabling := true }) (fun _ => rfl) fun h => h
    refine hbegun.bind fun _ => (hc.spares_leads (cards_takeDown_keepsTo ho fun _ h => h)).bind fun _ => ?_
    -- A stack that is down is in step with nothing, so what was told no longer matters.
    have hfallen (t : System σ)
        (ht : Stance P (Standing.bearing config { standing with up := false, discovering := false })
          footing t) : Stands P config { standing with up := false, discovering := false } t :=
      ⟨footing, ht, nofun⟩
    refine leads_read fun running => ?_
    cases running with
    | true =>
      refine (hc.spares_leads (stopDiscovery_keepsTo ho fun _ h => h)).bind fun _ => ?_
      exact (hc.falling_leads hup).mono fun _ => hfallen
    | false => exact (hc.falling_leads hup).mono fun _ => hfallen
  · rw [if_neg hup, if_neg hup]
    exact leads_pure true fun _ hs => hs.1

lemma Completing.establish_leads (hc : Completing c P) {bearing : Bearing} {footing : Footing} :
    Leads c (Stance P bearing footing) (Lifecycle.establish : Op σ Unit) fun _ =>
      Stance P bearing (footing.after (.setDiscoveryDuration bearing.config.discoveryDuration)) := by
  have ho : Orderly SparesMode c.alone := orderly_alone SparesMode c
  have hndef : KeepsTo SparesMode c.alone (Op.send .registerNdef : Op σ Status) :=
    keepsTo_send ho trivial nofun
  have hhci : KeepsTo SparesMode c.alone
      (Op.send (.registerHci OffHostTransaction.applicationName) : Op σ Status) :=
    keepsTo_send ho trivial nofun
  have hduration : Routine (.request (.setDiscoveryDuration bearing.config.discoveryDuration)) := trivial
  have hset : Leads c (Stance P bearing footing)
      (Op.update (Change.discoveryDuration bearing.config.discoveryDuration).apply) fun _ =>
        Stance P bearing footing := update_leads id (fun _ => rfl) fun h => h
  refine (hc.spares_leads hndef).bind fun _ => ?_
  refine (hc.spares_leads (cards_bringUp_keepsTo ho fun _ h => h)).bind fun _ => ?_
  refine (hc.spares_leads hhci).bind fun _ => ?_
  refine leads_known bearing.config.discoveryDuration (fun s hs => ?_) ?_
  · exact congrArg (fun bearing => bearing.config.discoveryDuration) hs.stands
  refine hset.bind fun _ => ?_
  exact (hc.send_leads hduration).bind fun _ => leads_pure () fun _ h => h

lemma Completing.bringUp_stands (hc : Completing c P) :
    Leads c (fun s => Stands P config standing s ∧ s.host.inUse = []) (Lifecycle.bringUp : Op σ Bool)
      fun _ => Stands P config (standing.bringUp) := by
  have hopen : KeepsTo SparesMode c.alone (Op.send .adaptationOpen : Op σ Status) :=
    keepsTo_send (orderly_alone SparesMode c) trivial nofun
  refine lifecycle_stands ?_
  refine leads_known standing.up (fun s hs => hs.enabled) ?_
  unfold Standing.bringUp
  by_cases hup : standing.up = true
  · rw [if_pos hup, if_pos hup]
    exact leads_pure true fun _ h => h
  · rw [if_neg hup, if_neg hup]
    refine (hc.spares_stands hopen).bind fun _ => ?_
    refine stands_leads fun footing _ => ?_
    refine hc.enabling_leads.bind fun outcome => leads_given fun houtcome => ?_
    refine leads_known true (fun s hs => congrArg Bearing.enabled hs.stands) ?_
    rw [houtcome, if_pos rfl]
    refine hc.establish_leads.bind fun _ => leads_pure true fun s hs => ?_
    exact ⟨_, hs, fun _ => inStep_begun config footing⟩

lemma Completing.call_stands (hc : Completing c P) (call : ModeCall) :
    Leads c (fun s => Stands P config standing s ∧ s.host.inUse = []) (hostMove call.call)
      fun _ => Stands P config (standing.next call) := by
  have hcall : Leads c (fun s => Stands P config standing s ∧ s.host.inUse = [])
      (call.call.run : Op σ Answer) fun _ => Stands P config (standing.next call) := by
    cases call with
    | enable mask readerMode hostRouting restart =>
      exact fun s hs => hc.enable_stands mask readerMode hostRouting restart s hs
    | disable => exact fun s hs => hc.disable_stands s hs
    | takeDown => exact fun s hs => hc.takeDown_stands s hs
    | bringUp => exact fun s hs => hc.bringUp_stands s hs
  refine hcall.bind fun answer => ?_
  exact (hc.spares_stands keepsTo_attend).bind fun _ => leads_pure answer fun _ h => h

/-- A run of calls leads to where the stack is to stand after it. -/
lemma Completing.calls_stand (hc : Completing c P) (calls : List ModeCall)
    (hs : Stands P config standing s) (hidle : s.host.inUse = []) :
    Stands P config (standing.after calls) (afterDeeds c (deedsOf calls) s) := by
  induction calls generalizing standing s with
  | nil => exact hs
  | cons call rest ih =>
    have hnext := hc.call_stands call s ⟨hs, hidle⟩
    have hstill := (hostMove_inUse (c := c) call.call s).trans hidle
    exact ih hnext hstill

lemma booted_stands (config : Config) {x : σ} (hx : P x) : Stands P config {} (booted config x) := by
  refine ⟨footingOf [], ⟨⟨hx, ?_, ?_, .inr ⟨rfl, rfl⟩, rfl⟩, rfl, rfl, nofun⟩, nofun⟩
  · exact fun _ hmem => absurd hmem List.not_mem_nil
  · exact fun _ hmem => absurd hmem List.not_mem_nil

/-- Wherever a run of calls leads, the stack remembers what it should by them, and a stack that is up
is in step with the mode that its controller was told last. -/
lemma Completing.run_stands (hc : Completing c P) (config : Config) {x : σ} (hx : P x)
    (calls : List ModeCall) :
    let standing := Standing.after {} calls
    let s := ran c [] config x (deedsOf calls)
    bearingOf s.host = standing.bearing config ∧
      (standing.up = true → InStep config standing.told (footingOf (System.requestsOf s.trace))) := by
  obtain ⟨footing, hstance, htold⟩ := hc.calls_stand calls (booted_stands (P := P) config hx) rfl
  refine ⟨hstance.stands, fun hup => ?_⟩
  have hfooting : footingOf (System.requestsOf (ran c [] config x (deedsOf calls)).trace) = footing :=
    hstance.told
  rw [hfooting]
  exact htold hup

/-- An enabling that is not skipped and polls for something tells the controller the mode unless the
stack remembers that mode. -/
lemma Standing.enable_told {mask : TechMask} {restart : Bool} (readerMode : Bool) (hup : standing.up = true)
    (hrestart : standing.discovering = true → restart = true) (hmask : mask.isEmpty = false) :
    (standing.enable mask readerMode restart).up = true ∧
      ((standing.enable mask readerMode restart).told = readerMode ↔
        (standing.remembered = readerMode → standing.told = readerMode)) := by
  have htaken : ¬(!standing.up || (standing.discovering && !restart)) = true := by
    cases hdiscovering : standing.discovering with
    | false => simp [hup]
    | true => simp [hup, hrestart hdiscovering]
  unfold Standing.enable Standing.configure Standing.switch
  rw [if_neg htaken, hmask, if_neg Bool.false_ne_true]
  by_cases hsame : standing.remembered = readerMode
  · simp [hsame, hup]
  · simp [hsame, hup]

/-- A stack that remembers what its controller was told. -/
structure Standing.Agrees (standing : Standing) : Prop where
  told : standing.told = standing.remembered
  down : standing.up = false → standing.remembered = false

lemma Standing.Agrees.next (h : standing.Agrees) {call : ModeCall}
    (hcall : call ≠ .disable ∧ call ≠ .takeDown) : (standing.next call).Agrees := by
  -- Bringing the stack up makes the controller begin without reader mode, as the stack does if it was
  -- never up; a switch makes both agree anew.
  cases call with
  | disable => exact absurd rfl hcall.1
  | takeDown => exact absurd rfl hcall.2
  | bringUp =>
    change (standing.bringUp).Agrees
    unfold Standing.bringUp
    split
    · exact h
    · next hdown => exact ⟨(h.down (Bool.eq_false_iff.mpr hdown)).symm, nofun⟩
  | enable mask readerMode hostRouting restart =>
    change (standing.enable (Discovery.pollMask mask) readerMode restart).Agrees
    unfold Standing.enable Standing.configure Standing.switch
    split
    · exact h
    · next htaken =>
      have hup : standing.up = true := Standing.up_of_taken htaken
      split
      · exact ⟨h.told, h.down⟩
      · split
        · exact ⟨h.told, h.down⟩
        · exact ⟨rfl, fun hdown => absurd (hup.symm.trans hdown) nofun⟩

lemma Standing.Agrees.after {calls : List ModeCall}
    (hcalls : ∀ call ∈ calls, call ≠ .disable ∧ call ≠ .takeDown) (h : standing.Agrees) :
    (standing.after calls).Agrees := by
  induction calls generalizing standing with
  | nil => exact h
  | cons call rest ih =>
    obtain ⟨hcall, hrest⟩ := List.forall_mem_cons.mp hcalls
    exact ih hrest (h.next hcall)

/-- After any run, an enabling that is not skipped and polls for something leaves listening and duration
in step with its mode exactly if the stack did not remember this mode already, or its controller was told
it last. That is so as long as the stack was not taken down and discovery not disabled. -/
theorem reader_mode_in_step_iff (hc : Completing c P) (config : Config) {x : σ} (hx : P x)
    (calls : List ModeCall) (mask : Option TechMask) (readerMode hostRouting restart : Bool)
    (hactive : (ran c [] config x (deedsOf calls)).host.flags.active = true)
    (hrestart : (ran c [] config x (deedsOf calls)).host.flags.discovery = true → restart = true)
    (hmask : (Discovery.pollMask mask).isEmpty = false) :
    let standing := Standing.after {} calls
    let requests := System.requestsOf (ran c [] config x
      (deedsOf (calls ++ [.enable mask readerMode hostRouting restart]))).trace
    (InStep config readerMode (footingOf requests) ↔
      (standing.remembered = readerMode → standing.told = readerMode)) ∧
    ((∀ call ∈ calls, call ≠ .disable ∧ call ≠ .takeDown) →
      InStep config readerMode (footingOf requests)) := by
  intro standing requests
  have hbefore : bearingOf (ran c [] config x (deedsOf calls)).host = standing.bearing config :=
    (hc.run_stands config hx calls).1
  have hup : standing.up = true := by
    have henabled := congrArg Bearing.enabled hbefore
    exact henabled.symm.trans (Bool.and_eq_true_iff.mp hactive).1
  have hdiscovering : standing.discovering = true → restart = true := by
    intro h
    exact hrestart ((congrArg Bearing.discovery hbefore).trans h)
  obtain ⟨hstill, htold⟩ := Standing.enable_told readerMode hup hdiscovering hmask
  have hafter : Standing.after {} (calls ++ [.enable mask readerMode hostRouting restart]) =
      standing.enable (Discovery.pollMask mask) readerMode restart := List.foldl_append
  have hnow := (hc.run_stands config hx (calls ++ [.enable mask readerMode hostRouting restart])).2
  rw [hafter] at hnow
  have hiff : InStep config readerMode (footingOf requests) ↔
      (standing.remembered = readerMode → standing.told = readerMode) := by
    rw [← htold]
    refine ⟨fun h => (hnow hstill).unique h, fun h => ?_⟩
    rw [← h]
    exact hnow hstill
  refine ⟨hiff, fun hcalls => hiff.mpr fun hsame => ?_⟩
  have hagrees : standing.Agrees := Standing.Agrees.after hcalls ⟨rfl, fun _ => rfl⟩
  exact hagrees.told.trans hsame

end Standings

section Scripted

lemma plain_empty : Plain {} := ⟨rfl, rfl, rfl, rfl⟩

/-- The controller takes every request and completes it with `ok`, and yet listening stays off in a
discovery without reader mode that follows one with it, and on in a discovery with reader mode that
follows one before the stack was taken down. -/
theorem listening_stays_behind :
    Completing Script.controller Plain ∧
      (∀ script, Plain script → ∀ request, (script.respond request).1.verdict = .ok ∧
        script.completion request.kind = .ok) ∧
      ¬InStep {} false (footingOf (System.requestsOf (ran Script.controller [] {} {} (deedsOf
        [.bringUp, .enable none true true false, .disable, .enable none false true false])).trace)) ∧
      ¬InStep {} true (footingOf (System.requestsOf (ran Script.controller [] {} {} (deedsOf
        [.bringUp, .enable none true true false, .takeDown, .bringUp,
          .enable none true true false])).trace)) := by
  refine ⟨plain_completing, fun _ h request => ⟨h.accepts request, h.completion request.kind⟩, ?_, ?_⟩
  · intro hstep
    have htold := (plain_completing.run_stands {} plain_empty
      [.bringUp, .enable none true true false, .disable, .enable none false true false]).2 rfl
    exact absurd (hstep.unique htold) nofun
  · intro hstep
    have htold := (plain_completing.run_stands {} plain_empty
      [.bringUp, .enable none true true false, .takeDown, .bringUp, .enable none true true false]).2 rfl
    exact absurd (hstep.unique htold) nofun

/-- Where discovery is restarted without reader mode, listening is switched on again. -/
theorem listening_comes_back :
    InStep {} false (footingOf (System.requestsOf (ran Script.controller [] {} {} (deedsOf
      [.bringUp, .enable none true true false, .enable none false true true])).trace)) := by
  refine (reader_mode_in_step_iff plain_completing {} plain_empty
    [.bringUp, .enable none true true false] none false true true rfl (fun _ => rfl) rfl).2 ?_
  simp

end Scripted

end NfcStack.Proofs
