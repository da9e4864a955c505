import NfcStack.Bench.Step
/-!
# Runs on the bench

A run is a list of steps over a prepared host or session. For each step a report tells what came of it,
what was asked of the controller, and what the listener was told.
-/

namespace NfcStack.Bench

structure Report where
  result : Result
  requests : List Request
  notifications : List Notification
  flags : Flags

def report (step : Step) (s : System Bench) : Report × System Bench :=
  let (result, after) := step.run ⟨s.trace.length, 0⟩ quiet s
  let trace := after.trace.drop s.trace.length
  ({ result
     requests := System.requestsOf trace
     notifications := System.notificationsOf trace
     flags := after.host.flags }, after)

def reports : List Step → System Bench → List Report
  | [], _ => []
  | step :: rest, s =>
    let (first, s) := report step s
    first :: reports rest s

/-- How far a host is brought before the first step. -/
inductive Setup where
  | fresh
  | broughtUp
  | discovering
  /-- There is no controller to build a host over. -/
  | noController

/-- Runs an operation before the first step; nothing of it is reported. -/
def prepare (op : Op Bench Unit) (s : System Bench) : System Bench :=
  let s := (op quiet s).2
  { controller.attend s with trace := [] }

def bringUp : Op Bench Unit := do
  let _ ← Lifecycle.bringUp
  Op.attend

def listen : Op Bench Unit :=
  Op.update fun host => { host with listener := .recording }

/-- The bench with a host. The listener is there once the host is up. -/
def withHost (config : Config) (setup : Setup) : Except Failure (System Bench) :=
  match setup with
  | .noController => .error .noController
  | _ => match Host.build config with
    | .error failure => .error failure
    | .ok host =>
      let s : System Bench := { host, controller := {} }
      match setup with
      | .broughtUp => .ok (prepare (do bringUp; listen) s)
      | .discovering => .ok (prepare (do bringUp; listen; Discovery.enable none false true false) s)
      | _ => .ok (prepare listen s)

/-- The bench with a tag session by itself, on an active stack with a tag. Its events reach it unless it
is deaf. -/
def withSession (config : Config) (deaf : Bool) : System Bench :=
  let host := Host.fresh config
  { host := { host with flags := { host.flags with enabled := true, tagActive := true } }
    receiver := if deaf then .nobody else .session
    controller := { hasHost := false } }

end NfcStack.Bench
