import NfcStack.System.Delivery
/-!
# Operations

An operation runs in an environment, the controller and whoever else acts on the system, and changes
the system. Every wait follows one pattern: arm a venue, make a request, and if it was accepted take in
what arrives before looking at the venue. Something may come in before the request is made. What one
caller at a time may use is reserved while an operation runs; others who need it wait until it is free
again.
-/

namespace NfcStack

structure Environment (σ : Type) where
  controller : Controller σ
  /-- What comes in while a caller makes ready for an answer and has not made its request yet. -/
  meantime : System σ → System σ
  /-- What others do right after a request was made, before its caller goes on. -/
  interlude : Request → System σ → System σ
  /-- What those do who were held up, when they may be able to go on. -/
  goOn : System σ → System σ
  /-- What others use who do not go on before the caller is done. -/
  taken : List Resource

/-- The environment in which nobody else acts. -/
def Controller.alone {σ : Type} (c : Controller σ) : Environment σ :=
  { controller := c
    meantime := fun s => s
    interlude := fun _ s => s
    goOn := fun s => s
    taken := [] }

def Op (σ α : Type) : Type := Environment σ → System σ → α × System σ

namespace Op

variable {σ α β : Type}

instance : Monad (Op σ) where
  pure a := fun _ s => (a, s)
  bind op next := fun env s =>
    let result := op env s
    next result.1 env result.2

instance : LawfulMonad (Op σ) :=
  LawfulMonad.mk' (Op σ) (fun _ => rfl) (fun _ _ => rfl) (fun _ _ _ => rfl)

def run (op : Op σ α) (env : Environment σ) (s : System σ) : α × System σ := op env s

@[simp] theorem run_pure (a : α) (env : Environment σ) (s : System σ) :
    (pure a : Op σ α).run env s = (a, s) := rfl

@[simp] theorem run_bind (op : Op σ α) (next : α → Op σ β) (env : Environment σ) (s : System σ) :
    (op >>= next).run env s = (next (op.run env s).1).run env (op.run env s).2 := rfl

def host : Op σ Host := fun _ s => (s.host, s)

def read (f : Host → α) : Op σ α := fun _ s => (f s.host, s)

def update (f : Host → Host) : Op σ Unit := fun _ s => ((), s.mapHost f)

def updateFlags (f : Flags → Flags) : Op σ Unit := update (Host.mapFlags f)

def updateSession (f : Session → Session) : Op σ Unit := update (Host.mapSession f)

def updateRouter (f : Router → Router) : Op σ Unit := update (Host.mapRouter f)

@[simp] theorem run_host (env : Environment σ) (s : System σ) :
    (host : Op σ Host).run env s = (s.host, s) := rfl

@[simp] theorem run_read (f : Host → α) (env : Environment σ) (s : System σ) :
    (read f).run env s = (f s.host, s) := rfl

@[simp] theorem run_update (f : Host → Host) (env : Environment σ) (s : System σ) :
    (update f).run env s = ((), s.mapHost f) := rfl

@[simp] theorem run_updateFlags (f : Flags → Flags) (env : Environment σ) (s : System σ) :
    (updateFlags f).run env s = ((), s.mapHost (Host.mapFlags f)) := rfl

@[simp] theorem run_updateSession (f : Session → Session) (env : Environment σ) (s : System σ) :
    (updateSession f).run env s = ((), s.mapHost (Host.mapSession f)) := rfl

@[simp] theorem run_updateRouter (f : Router → Router) (env : Environment σ) (s : System σ) :
    (updateRouter f).run env s = ((), s.mapHost (Host.mapRouter f)) := rfl

def version : Op σ UInt8 := fun env s => (env.controller.version s.controller, s)

def tableSize : Op σ UInt16 := fun env s => (env.controller.tableSize s.controller, s)

def queryNfcees : Op σ (Except Status (List NfceeInfo)) := fun env s =>
  let (answer, s) := env.controller.queryNfcees .caller s
  (answer, env.interlude .queryNfcees s)

/-- A moment passes in which something may come in. -/
def elapse : Op σ Unit := fun env s => ((), env.meantime s)

/-- Makes a request; others may act before the caller goes on. -/
def issue (request : Request) : Op σ Status := fun env s =>
  let (verdict, s) := env.controller.issue .caller request s
  (verdict, env.interlude request s)

def attend : Op σ Unit := fun env s => ((), env.controller.attend s)

@[simp] theorem run_version (env : Environment σ) (s : System σ) :
    (version : Op σ UInt8).run env s = (env.controller.version s.controller, s) := rfl

@[simp] theorem run_tableSize (env : Environment σ) (s : System σ) :
    (tableSize : Op σ UInt16).run env s = (env.controller.tableSize s.controller, s) := rfl

@[simp] theorem run_queryNfcees (env : Environment σ) (s : System σ) :
    (queryNfcees : Op σ _).run env s =
      ((env.controller.queryNfcees .caller s).1,
        env.interlude .queryNfcees (env.controller.queryNfcees .caller s).2) := rfl

@[simp] theorem run_elapse (env : Environment σ) (s : System σ) :
    (elapse : Op σ Unit).run env s = ((), env.meantime s) := rfl

@[simp] theorem run_issue (request : Request) (env : Environment σ) (s : System σ) :
    (issue request).run env s =
      ((env.controller.issue .caller request s).1,
        env.interlude request (env.controller.issue .caller request s).2) := rfl

@[simp] theorem run_attend (env : Environment σ) (s : System σ) :
    (attend : Op σ Unit).run env s = ((), env.controller.attend s) := rfl

/-- Makes a request and does not wait for a completion. -/
def send (request : Request) : Op σ Status := do
  let verdict ← issue request
  attend
  return verdict

/-- Lets the time of a wait pass. A late notice keeps back what arrives until its patience is at its
end; a wait that ends before that takes in nothing. -/
def pass : Op σ Unit := fun env s =>
  match s.late with
  | none => ((), env.controller.attend s)
  | some notice =>
    if s.host.fieldBound ≤ notice.patience then
      let patience := notice.patience - s.host.fieldBound
      ((), { s with late := some { notice with patience } })
    else ((), env.goOn (env.controller.attend { s with late := none }))

def await (venue : Venue α) : Op σ (Outcome α) := do
  pass
  let outcome ← read fun host => (venue.view host).outcome
  update (venue.map .disarm)
  return outcome

/-- Waits at an armed venue without a bound and closes it. -/
def awaitForever (venue : Venue α) : Op σ (Outcome α) := do
  attend
  let outcome ← read fun host => (venue.view host).unboundedOutcome
  update (venue.map .disarm)
  return outcome

/-- Arms a venue, makes a request, and waits if the request was accepted. -/
def call (venue : Venue α) (request : Request) : Op σ (Outcome α) := do
  update (venue.map .arm)
  elapse
  let verdict ← issue request
  if verdict.isOk then await venue
  else do
    update (venue.map .disarm)
    return .rejected verdict

/-- As `call`, with a wait that has no bound. -/
def callForever (venue : Venue α) (request : Request) : Op σ (Outcome α) := do
  update (venue.map .arm)
  elapse
  let verdict ← issue request
  if verdict.isOk then awaitForever venue
  else do
    update (venue.map .disarm)
    return .rejected verdict

/-- Those who were held up go on if they can. -/
def yieldTurn : Op σ Unit := fun env s => ((), env.goOn s)

/-- A late notice is taken up if the radio field is free. -/
def release : Op σ Unit := fun env s => ((), env.controller.release s)

/-- Whether others use a resource who do not go on before the caller is done. -/
def isTaken (resource : Resource) : Op σ Bool := fun env s => (env.taken.contains resource, s)

/-- The caller cannot go on. -/
def holdUp : Op σ Unit := fun _ s => ((), { s with heldUp := true })

@[simp] theorem run_yieldTurn (env : Environment σ) (s : System σ) :
    (yieldTurn : Op σ Unit).run env s = ((), env.goOn s) := rfl

@[simp] theorem run_release (env : Environment σ) (s : System σ) :
    (release : Op σ Unit).run env s = ((), env.controller.release s) := rfl

@[simp] theorem run_isTaken (resource : Resource) (env : Environment σ) (s : System σ) :
    (isTaken resource : Op σ Bool).run env s = (env.taken.contains resource, s) := rfl

@[simp] theorem run_holdUp (env : Environment σ) (s : System σ) :
    (holdUp : Op σ Unit).run env s = ((), { s with heldUp := true }) := rfl

/-- Takes a resource while an operation runs. Those who waited for it go first. -/
def occupying (resource : Resource) (op : Op σ α) : Op σ α := do
  yieldTurn
  let before ← read (·.inUse)
  update fun host => { host with inUse := resource :: before }
  let result ← op
  update fun host => { host with inUse := before }
  release
  return result

/-- Runs an operation that has a resource for itself. Inside another one that has it, it need not ask;
where another caller has it, it is held up. -/
def reserving (resource : Resource) (op : Op σ α) : Op σ α := do
  if ← isTaken resource then do
    holdUp
    op
  else if (← read (·.inUse)).contains resource then op
  else occupying resource op

/-- Runs an operation that uses the radio field and waits at most so long each time. -/
def holdingField (bound : Host → UInt64) (op : Op σ α) : Op σ α :=
  reserving .field do
    let outer ← read (·.fieldBound)
    update fun host => { host with fieldBound := bound host }
    let result ← op
    update fun host => { host with fieldBound := outer }
    return result

end Op

end NfcStack
