import NfcStack.Proofs.RadioOrders
import NfcStack.Proofs.TagMemory

/-!
# What a session takes in

What a session takes in of the targets in its field depends on the host around it at that moment, so the
history of the session is followed along everything that can become of a host. What the session knows of its
tags goes by the activations that it took in since it was last reset.
-/

namespace NfcStack.Proofs

variable {σ : Type}

section Histories

/-- What a session may learn of the tag in its field. -/
inductive SessionNews where
  | accepted (act : Activation)
  | reset

namespace SessionNews

def isReset : SessionNews → Bool
  | .reset => true
  | .accepted _ => false

def activation? : SessionNews → Option Activation
  | .accepted act => some act
  | .reset => none

end SessionNews

/-- A session takes in an activation unless its list of slots is full. -/
def newsOfTarget (act : Activation) (session : Session) : List SessionNews :=
  if Technology.tableSize ≤ session.slots.length then [] else [.accepted act]

/-- A target that is none of the reader's business is not passed on to the session, nor is one that was put to
sleep to be selected again, nor any while the stack is on its way down. -/
def newsOfActivation (act : Activation) (host : Host) : List SessionNews :=
  if host.flags.disabling || isForeign act || host.flags.reconnecting then []
  else newsOfTarget act host.session

/-- What the session of a host learns from an event. -/
def newsAt (event : Event) (host : Host) : List SessionNews :=
  match event with
  | .activated act => newsOfActivation act host
  | .deactivated false => [.reset]
  | _ => []

/-- What the session learns from what a caller does. -/
def newsBy (change : Change) (host : Host) : List SessionNews :=
  match change with
  | .welcome act => newsOfTarget act host.session
  | .session .forget => [.reset]
  | _ => []

/-- What can become of a host, and what its session learned meanwhile. -/
inductive Lived (config : Config) : List SessionNews → Host → Prop
  | fresh : Lived config [] (Host.fresh config)
  | heard {news : List SessionNews} {host : Host} (event : Event) (h : Lived config news host) :
      Lived config (news ++ newsAt event host) (hear event host)
  /-- A session without a host around it takes in no activation by itself. -/
  | heardAlone {news : List SessionNews} {host : Host} (event : Event) (h : Lived config news host) :
      Lived config news (hearAlone event host)
  | changed {news : List SessionNews} {host : Host} (change : Change) (h : Lived config news host) :
      Lived config (news ++ newsBy change host) (change.apply host)
  | connected {news : List SessionNews} {host : Host} (target : DiscoveryNotice) (h : Lived config news host) :
      Lived config news (connectTo target host)
  | occupied {news : List SessionNews} {host : Host} (resources : List Resource) (h : Lived config news host) :
      Lived config news { host with inUse := resources }

/-- The activations that were taken in since the last reset. -/
def acceptedSince (news : List SessionNews) : List Activation :=
  (sinceLast SessionNews.isReset news).filterMap SessionNews.activation?

/-- The last activation that was taken in since the last reset. -/
def lastAccepted (news : List SessionNews) : Option Activation :=
  ((sinceLast SessionNews.isReset news).filterMap SessionNews.activation?).getLast?

lemma acceptedSince_accepted (news : List SessionNews) (act : Activation) :
    acceptedSince (news ++ [.accepted act]) = acceptedSince news ++ [act] := by
  unfold acceptedSince
  rw [sinceLast_other rfl, List.filterMap_append]
  rfl

lemma acceptedSince_reset (news : List SessionNews) : acceptedSince (news ++ [.reset]) = [] := by
  unfold acceptedSince
  rw [sinceLast_self rfl]
  rfl

lemma lastAccepted_accepted (news : List SessionNews) (act : Activation) :
    lastAccepted (news ++ [.accepted act]) = some act := by
  change (acceptedSince (news ++ [.accepted act])).getLast? = some act
  rw [acceptedSince_accepted, List.getLast?_append]
  rfl

variable {c : Controller σ} {s t u : System σ} {config : Config}

/-- From one system to another the session went on learning. -/
def LivesOn (config : Config) (s t : System σ) : Prop :=
  ∀ news, Lived config news s.host → ∃ more, Lived config (news ++ more) t.host

lemma livesOn_by {more : List SessionNews} (h : ∀ news, Lived config news s.host →
    Lived config (news ++ more) t.host) : LivesOn config s t :=
  fun news hnews => ⟨more, h news hnews⟩

lemma livesOn_quietly (h : ∀ news, Lived config news s.host → Lived config news t.host) :
    LivesOn config s t :=
  livesOn_by fun news hnews => (List.append_nil news).symm ▸ h news hnews

lemma LivesOn.trans (h₁ : LivesOn config s t) (h₂ : LivesOn config t u) : LivesOn config s u := by
  intro news hnews
  obtain ⟨first, hfirst⟩ := h₁ news hnews
  obtain ⟨rest, hrest⟩ := h₂ _ hfirst
  exact ⟨first ++ rest, List.append_assoc news first rest ▸ hrest⟩

lemma livesOn_waits {f : Host → Host} (hf : OnlyWaits f) (s : System σ) :
    LivesOn config s (s.mapHost f) :=
  livesOn_by fun _ h => h.changed (.waits f hf)

lemma deliver_livesOn (happening : Happening) (s : System σ) :
    LivesOn config s (c.deliver happening s) := by
  cases happening with
  | abortAll => exact livesOn_waits waits_only_abortAll s
  | abortSession => exact livesOn_waits waits_only_abortSession s
  | event event =>
    cases hr : s.receiver with
    | nobody =>
      rw [deliver_nobody c hr]
      exact livesOn_quietly fun _ h => h
    | host =>
      rintro news h
      refine ⟨newsAt event s.host, ?_⟩
      rw [(deliver_host c hr event).host]
      exact h.heard event
    | session =>
      refine livesOn_quietly fun _ h => ?_
      rw [(deliver_session c hr event).host]
      exact h.heardAlone event

lemma steps_livesOn (c : Controller σ) (config : Config) :
    FollowsSteps c (fun _ => True) (LivesOn config) where
  refl _ := livesOn_quietly fun _ h => h
  trans := LivesOn.trans
  queue _ _ := livesOn_quietly fun _ h => h
  deliver s happening _ := deliver_livesOn happening s
  request _ _ _ _ := livesOn_quietly fun _ h => h
  query _ := livesOn_quietly fun _ h => h
  change change _ _ := livesOn_by fun _ h => h.changed change
  inUse resources _ := livesOn_quietly fun _ h => h.occupied resources
  heldUp _ := livesOn_quietly fun _ h => h
  late _ _ _ := livesOn_quietly fun _ h => h
  selects notice _ _ := livesOn_quietly fun _ h => h.connected notice.target

end Histories

section Memories

variable {config : Config} {news : List SessionNews} {host : Host}

/-- What the session knows of the tags that it took in. -/
@[ext]
structure TagRecord where
  protocol : UInt8
  signatures : Signatures
  slots : List Slot

def recordOf (session : Session) : TagRecord := ⟨session.protocol, session.signatures, session.slots⟩

/-- The slots of the targets of activations. -/
def slotsOf (accepted : List Activation) : List Slot := accepted.flatMap Slot.ofActivation

/-- Protocol and signatures are those of the last target, the slots are those of all. -/
def recordBy (accepted : List Activation) : TagRecord :=
  match accepted.getLast? with
  | none => ⟨Protocol.unknown, {}, slotsOf accepted⟩
  | some act => ⟨act.protocol, Signatures.ofActivation act, slotsOf accepted⟩

lemma recordBy_snoc (accepted : List Activation) (act : Activation) :
    recordBy (accepted ++ [act]) =
      ⟨act.protocol, Signatures.ofActivation act, slotsOf accepted ++ Slot.ofActivation act⟩ := by
  unfold recordBy slotsOf
  rw [List.getLast?_concat, List.flatMap_append, List.flatMap_singleton]

lemma recordBy_slots (accepted : List Activation) : (recordBy accepted).slots = slotsOf accepted := by
  unfold recordBy
  split
  · rfl
  · rfl

lemma recordOf_memory {session other : Session} (h : memoryOf session = memoryOf other) :
    recordOf session = recordOf other :=
  TagRecord.ext (congrArg TagMemory.protocol h) (congrArg TagMemory.signatures h)
    (congrArg TagMemory.slots h)

lemma admit_record {session other : Session} {act : Activation} (hadmitted : session.admit? act = some other)
    {accepted : List Activation} (h : recordOf session = recordBy accepted) :
    recordOf other = recordBy (accepted ++ [act]) := by
  have hslots : session.slots = slotsOf accepted :=
    (congrArg TagRecord.slots h).trans (recordBy_slots accepted)
  unfold Session.admit? at hadmitted
  split at hadmitted
  · exact absurd hadmitted nofun
  · rw [← Option.some.inj hadmitted, recordBy_snoc, ← hslots]
    rfl

lemma admit_news (session : Session) (act : Activation) :
    newsOfTarget act session = if (session.admit? act).isSome then [.accepted act] else [] := by
  unfold newsOfTarget Session.admit?
  split
  · rfl
  · rfl

lemma hearActivation_record (act : Activation) (h : recordOf host.session = recordBy (acceptedSince news)) :
    recordOf (hearActivation act host).session =
      recordBy (acceptedSince (news ++ newsOfActivation act host)) := by
  unfold hearActivation newsOfActivation
  by_cases hignored : (host.flags.disabling || isForeign act) = true
  · rw [if_pos hignored, hignored, Bool.true_or, if_pos rfl, List.append_nil]
    exact h
  · rw [if_neg hignored, Bool.eq_false_iff.mpr hignored, Bool.false_or]
    by_cases hagain : host.flags.reconnecting = true
    · have hmarked : (host.mapFlags fun flags => { flags with tagActive := true }).flags.reconnecting = true :=
        hagain
      dsimp only
      rw [if_pos hmarked, if_pos hagain, List.append_nil]
      exact h
    · have hmarked :
          ¬(host.mapFlags fun flags => { flags with tagActive := true }).flags.reconnecting = true := hagain
      dsimp only
      rw [if_neg hmarked, if_neg hagain, admit_news]
      split
      · next hfull =>
        have hfull : host.session.admit? act = none := hfull
        rw [hfull]
        exact (List.append_nil news).symm ▸ h
      · next session hadmitted =>
        have hadmitted : host.session.admit? act = some session := hadmitted
        rw [hadmitted, Option.isSome_some, if_pos rfl, acceptedSince_accepted, keepEndpoint_session]
        exact admit_record hadmitted h

lemma hearNotice_record (notice : DiscoveryNotice) (host : Host) :
    recordOf (hearNotice notice host).session = recordOf host.session := by
  have hcollected : recordOf (host.session.collect notice).2 = recordOf host.session := by
    obtain ⟨notices, hcollected⟩ := collect_shape host.session notice
    rw [hcollected]
    rfl
  unfold hearNotice
  dsimp only
  split
  · exact hcollected
  · split
    · exact hcollected
    · exact hcollected

lemma discovered_record (status : Status) (notice : DiscoveryNotice) (host : Host) :
    recordOf (if status.isOk then hearNotice notice host else host).session = recordOf host.session := by
  split
  · exact hearNotice_record notice host
  · rfl

lemma hear_record (event : Event) (h : recordOf host.session = recordBy (acceptedSince news)) :
    recordOf (hear event host).session = recordBy (acceptedSince (news ++ newsAt event host)) := by
  have hother {event : Event} (hnews : tagNews event = none) (hnothing : newsAt event host = []) :
      recordOf (hear event host).session = recordBy (acceptedSince (news ++ newsAt event host)) := by
    rw [hnothing, List.append_nil, recordOf_memory (hear_memory hnews host)]
    exact h
  cases event with
  | activated act => exact hearActivation_record act h
  | discovered status notice =>
    rw [show newsAt (.discovered status notice) host = [] from rfl, List.append_nil, ← h]
    exact discovered_record status notice host
  | deactivated sleep =>
    cases sleep with
    | false =>
      rw [show newsAt (.deactivated false) host = [.reset] from rfl, acceptedSince_reset]
      rfl
    | true => exact hother rfl rfl
  | _ => exact hother rfl rfl

lemma hearAlone_record (event : Event) (host : Host) :
    recordOf (hearAlone event host).session = recordOf host.session := by
  cases event with
  | discovered status notice => exact discovered_record status notice host
  | data status bytes => exact recordOf_memory (receive_memory host.session (.data status bytes))
  | _ => rfl

lemma change_record (change : Change) (h : recordOf host.session = recordBy (acceptedSince news)) :
    recordOf (change.apply host).session = recordBy (acceptedSince (news ++ newsBy change host)) := by
  have hkept {change : Change} (hsame : recordOf (change.apply host).session = recordOf host.session)
      (hnothing : newsBy change host = []) :
      recordOf (change.apply host).session = recordBy (acceptedSince (news ++ newsBy change host)) := by
    rw [hnothing, List.append_nil, hsame]
    exact h
  cases change with
  | waits f hf => exact hkept (recordOf_memory (hf.memory host)) rfl
  | session change =>
    cases change with
    | forget =>
      rw [show newsBy (.session .forget) host = [.reset] from rfl, acceptedSince_reset]
      rfl
    | _ => exact hkept rfl rfl
  | welcome act =>
    change recordOf (welcomed act host).session =
      recordBy (acceptedSince (news ++ newsOfTarget act host.session))
    unfold welcomed
    rw [admit_news]
    cases hadmitted : host.session.admit? act with
    | none => exact (List.append_nil news).symm ▸ h
    | some session =>
      rw [Option.isSome_some, if_pos rfl, acceptedSince_accepted]
      exact admit_record hadmitted h
  | _ => exact hkept rfl rfl

/-- The session knows of its tags what the activations told that it took in since the last reset. -/
lemma Lived.record (h : Lived config news host) :
    recordOf host.session = recordBy (acceptedSince news) := by
  induction h with
  | fresh => rfl
  | heard event _ ih => exact hear_record event ih
  | heardAlone event _ ih => exact (hearAlone_record event _).trans ih
  | changed change _ ih => exact change_record change ih
  | connected target _ ih => exact ih
  | occupied resources _ ih => exact ih

end Memories

/-- Whoever joins in, a run that begins with a fresh host leads to a host that lived. -/
theorem runs_lived (c : Controller σ) (config : Config) (companions : List (Companion σ)) (deeds : List Deed)
    (start : System σ) : ∃ news, Lived config news ((Deed.runAll deeds).run (company c companions)
      { start with host := Host.fresh config }).2.host := by
  have hevolves : Evolves c (fun _ => True) { start with host := Host.fresh config } _ :=
    (follows_evolves (fun _ => trivial) c).runs companions
      (fun companion _ => within_of_all (fun _ _ _ => trivial) companion) deeds (fun _ _ _ _ => trivial) _
  exact (steps_livesOn c config).evolves hevolves [] .fresh

end NfcStack.Proofs
