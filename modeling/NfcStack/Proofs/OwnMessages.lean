import NfcStack.Proofs.MessageWrites
import NfcStack.Proofs.OwnRequests
import NfcStack.Proofs.Tidings

/-!
# Whose message a read gives

A read empties the buffer, looks at the last check, opens its wait and makes its request, one after the other,
and at any moment between these something may come in. Which message it gives is therefore told by the events
since it emptied the buffer, and whether it gives one by those since it opened its wait.
-/

namespace NfcStack.Proofs

variable {σ : Type} {c : Controller σ} {s t u : System σ}

section Brought

/-- From one system to another the buffer took in all that was delivered. -/
def CollectsMessages (s t : System σ) : Prop :=
  ∃ new, t.trace = s.trace ++ new ∧
    t.host.session.message = (eventsOf new).foldl fillBy s.host.session.message

/-- So did the wait for the end of a read, if it was open. -/
def AwaitsEnd (s t : System σ) : Prop :=
  ∃ new, t.trace = s.trace ++ new ∧
    Keeps readOf (eventsOf new) s.host.session.read t.host.session.read

lemma CollectsMessages.trans (h₁ : CollectsMessages s t) (h₂ : CollectsMessages t u) : CollectsMessages s u := by
  obtain ⟨new₁, htrace₁, hmessage₁⟩ := h₁
  obtain ⟨new₂, htrace₂, hmessage₂⟩ := h₂
  refine ⟨new₁ ++ new₂, by rw [htrace₂, htrace₁, List.append_assoc], ?_⟩
  rw [hmessage₂, hmessage₁, eventsOf_append, List.foldl_append]

lemma AwaitsEnd.trans (h₁ : AwaitsEnd s t) (h₂ : AwaitsEnd t u) : AwaitsEnd s u := by
  obtain ⟨new₁, htrace₁, hkeeps₁⟩ := h₁
  obtain ⟨new₂, htrace₂, hkeeps₂⟩ := h₂
  refine ⟨new₁ ++ new₂, by rw [htrace₂, htrace₁, List.append_assoc], ?_⟩
  rw [eventsOf_append]
  exact keeps_append hkeeps₁ hkeeps₂

lemma CollectsMessages.message (h : CollectsMessages s t) :
    t.host.session.message = (eventsSince s t).foldl fillBy s.host.session.message := by
  obtain ⟨new, htrace, hmessage⟩ := h
  rw [eventsSince_eq htrace, hmessage]

lemma AwaitsEnd.keeps (h : AwaitsEnd s t) :
    Keeps readOf (eventsSince s t) s.host.session.read t.host.session.read := by
  obtain ⟨new, htrace, hkeeps⟩ := h
  rw [eventsSince_eq htrace]
  exact hkeeps

lemma Stirs.keeps {event : Event} {woken : Bool} {r r' : Rendezvous Status}
    (h : Stirs (readOf event).toList woken r r') : Keeps readOf [event] r r' := by
  intro harmed
  obtain ⟨harmed', hvalue, -⟩ := h harmed
  refine ⟨harmed', hvalue.trans ?_⟩
  cases hread : readOf event <;> simp [hread]

end Brought

section Courses

variable (env : Environment σ)

/-- The course of a read that finds a tag. -/
structure ReadCourse (σ : Type) where
  /-- It has the radio field and has just emptied the buffer. -/
  emptied : System σ
  /-- It looks at the last check. -/
  looked : System σ
  /-- It has just opened its wait. -/
  opened : System σ
  verdict : Status
  /-- Its wait is over, or its request was refused. -/
  ended : System σ
  /-- It takes out what is in the buffer. -/
  taken : System σ

def readCourse (s : System σ) : ReadCourse σ :=
  let emptied := unread (Procedure.heldFrom env Host.waitBound s)
  let looked := env.meantime emptied
  let opened := looked.mapHost (Venue.read.map .arm)
  let asked := (Op.issue .readNdef : Op σ Status).run env (env.meantime opened)
  let ended := if asked.1.isOk then ((Op.pass : Op σ Unit).run env asked.2).2 else asked.2
  { emptied, looked, opened, verdict := asked.1, ended
    taken := env.meantime (ended.mapHost (Venue.read.map .disarm)) }

lemma readCall_run (s : System σ) :
    let r := readCourse env s
    (Op.call Venue.read .readNdef).run env r.looked =
      (if r.verdict.isOk then r.ended.host.session.read.outcome else .rejected r.verdict,
        r.ended.mapHost (Venue.read.map .disarm)) := by
  intro r
  let asked := (Op.issue .readNdef : Op σ Status).run env (env.meantime r.opened)
  have hended : r.ended = if asked.1.isOk then ((Op.pass : Op σ Unit).run env asked.2).2 else asked.2 := rfl
  have hverdict : r.verdict = asked.1 := rfl
  have hcall : (Op.call Venue.read .readNdef).run env r.looked =
      (if asked.1.isOk then Op.await Venue.read
        else do
          Op.update (Venue.read.map .disarm)
          return .rejected asked.1 : Op σ (Outcome Status)).run env asked.2 := rfl
  rw [hcall, hended, hverdict]
  cases asked.1.isOk with
  | true => rfl
  | false => rfl

/-- What a read gives that finds a tag and a message. -/
lemma readFound_gives (s : System σ) :
    let r := readCourse env s
    ((do
      match ← Op.call Venue.read .readNdef with
      | .completed .ok => do
        Op.elapse
        let message ← Op.read (·.session.message)
        Tag.clearMessage
        return if message.isEmpty then none else some message
      | _ => do
        Tag.clearMessage
        return none : Op σ (Option Bytes)).run env r.looked).1 =
      if r.verdict.isOk = true ∧ r.ended.host.session.read.value = some .ok ∧
          r.taken.host.session.message ≠ [] then
        some r.taken.host.session.message
      else none := by
  intro r
  rw [Op.run_bind, readCall_run]
  have htaken : env.meantime (r.ended.mapHost (Venue.read.map .disarm)) = r.taken := rfl
  by_cases hok : r.verdict.isOk = true
  · unfold Rendezvous.outcome
    dsimp only
    rw [if_pos hok]
    cases hvalue : r.ended.host.session.read.value with
    | none =>
      have hnone : (none : Option Bytes) = if r.verdict.isOk = true ∧ (none : Option Status) = some .ok ∧
          r.taken.host.session.message ≠ [] then some r.taken.host.session.message else none :=
        (if_neg fun h => nomatch h.2.1).symm
      cases r.ended.host.session.read.aborted with
      | true => exact hnone
      | false => exact hnone
    | some status =>
      cases status with
      | ok =>
        change (if r.taken.host.session.message.isEmpty then none else some r.taken.host.session.message) = _
        cases hmessage : r.taken.host.session.message with
        | nil => exact (if_neg fun h => h.2.2 rfl).symm
        | cons first rest => exact (if_pos ⟨hok, rfl, nofun⟩).symm
      | _ => exact (if_neg fun h => nomatch h.2.1).symm
  · dsimp only
    rw [if_neg hok]
    exact (if_neg fun h => hok h.1).symm

/-- What a read gives, going by its course. -/
lemma readNdef_gives (s : System σ) (message : Bytes) :
    let r := readCourse env s
    ((Tag.readNdef : Op σ (Option Bytes)).run env s).1 = some message ↔
      s.host.flags.tagReady = true ∧ Promises r.looked.host.session.lastCheck ∧ r.verdict.isOk = true ∧
        r.ended.host.session.read.value = some .ok ∧ r.taken.host.session.message = message ∧
        message ≠ [] := by
  intro r
  rw [← promises_iff]
  by_cases hready : s.host.flags.tagReady = true
  · have hread : ((Tag.readNdef : Op σ (Option Bytes)).run env s).1 =
        if r.looked.host.session.lastCheck.any NdefCheck.hasMessage = true then
          if r.verdict.isOk = true ∧ r.ended.host.session.read.value = some .ok ∧
              r.taken.host.session.message ≠ [] then
            some r.taken.host.session.message
          else none
        else none := by
      rw [← readFound_gives]
      change ((if s.host.flags.tagReady = true then _ else _ : Op σ (Option Bytes)).run env s).1 = _
      rw [if_pos hready, Procedure.holdingField_fst]
      change ((if r.looked.host.session.lastCheck.any NdefCheck.hasMessage = true then _
        else _ : Op σ (Option Bytes)).run env r.looked).1 = _
      split
      · rfl
      · rfl
    rw [hread]
    constructor
    · intro h
      split at h
      · next hcheck =>
        split at h
        · next hall =>
          obtain ⟨hok, hvalue, hsome⟩ := hall
          have hmessage := Option.some.inj h
          exact ⟨hready, hcheck, hok, hvalue, hmessage, hmessage ▸ hsome⟩
        · exact absurd h nofun
      · exact absurd h nofun
    · rintro ⟨-, hcheck, hok, hvalue, rfl, hsome⟩
      rw [if_pos hcheck, if_pos ⟨hok, hvalue, hsome⟩]
  · have hread : (Tag.readNdef : Op σ (Option Bytes)).run env s = (none, s) := by
      change (if s.host.flags.tagReady = true then _ else _ : Op σ (Option Bytes)).run env s = _
      rw [if_neg hready]
      rfl
    rw [hread]
    exact ⟨fun h => absurd h nofun, fun h => absurd h.1 hready⟩

variable {env}

end Courses

section Histories

/-- What the controller reports of messages: one that was read, or how a read ended. -/
inductive MessageReport where
  | data (message : Bytes)
  | done (status : Status)
  deriving DecidableEq, Repr

def MessageReport.event : MessageReport → Event
  | .data message => .ndefData message
  | .done status => .readDone status

/-- What reports leave behind: a message in the buffer, and a wait that may have ended. -/
def Lingers (s t : System σ) : Prop :=
  ∃ message read trace, t =
    { s with host := s.host.mapSession (fun session => { session with message, read }), trace }

lemma Lingers.trans {u : System σ} (h₁ : Lingers s t) (h₂ : Lingers t u) : Lingers s u := by
  obtain ⟨message, read, trace, rfl⟩ := h₁
  obtain ⟨message', read', trace', rfl⟩ := h₂
  exact ⟨message', read', trace', rfl⟩

/-- A read finds nothing of what reports left behind. -/
lemma Lingers.readNdef (h : Lingers s t) (c : Controller σ) :
    ((Tag.readNdef : Op σ (Option Bytes)).run c.alone t).1 =
      ((Tag.readNdef : Op σ (Option Bytes)).run c.alone s).1 := by
  let begun (u : System σ) : System σ := (unread (entered Host.waitBound u)).mapHost (Venue.read.map .arm)
  have hbegun : Alike (begun s) (begun t) := by
    have huses : t.host.usesField = s.host.usesField := by
      obtain ⟨message, read, trace, rfl⟩ := h
      rfl
    by_cases hused : s.host.usesField = true
    · change Alike ((unread (entered _ s)).mapHost _) ((unread (entered _ t)).mapHost _)
      rw [entered_held _ hused, entered_held _ (huses.trans hused)]
      obtain ⟨message, read, trace, rfl⟩ := h
      exact ⟨trace, rfl⟩
    · change Alike ((unread (entered _ s)).mapHost _) ((unread (entered _ t)).mapHost _)
      rw [entered_free _ hused, entered_free _ (by rw [huses]; exact hused)]
      obtain ⟨message, read, trace, rfl⟩ := h
      exact ⟨trace, rfl⟩
  -- Arming the venue once more changes nothing, so both begin the same exchange.
  have hsame (u : System σ) : readExchange c u = exchange c Venue.read .readNdef (begun u) := rfl
  have hverdict : (readExchange c t).verdict = (readExchange c s).verdict := by
    rw [hsame, hsame]
    exact (hbegun.exchange c Venue.read .readNdef).1
  have harrived : arrivalsOf c (readExchange c t) = arrivalsOf c (readExchange c s) := by
    rw [hsame, hsame]
    exact hbegun.arrivalsOf c Venue.read .readNdef
  have hreadable : readable t.host = readable s.host := by
    obtain ⟨message, read, trace, rfl⟩ := h
    rfl
  rw [read_gives, read_gives, hreadable, hverdict, harrived]

end Histories

section Company

variable {P : Act → Prop}

end Company

end NfcStack.Proofs
