import NfcStack.Bench.Script
import NfcStack.Call.Run
/-!
# Actions on the bench

The bench joins a host, or a tag session by itself, to a scripted controller. An action is a move, a
change of the script, or something that the outside world does. After every action all that is in
flight is delivered.
-/

namespace NfcStack

inductive Bench.Result where
  | answer (answer : Answer)
  | during (result : Result) (meanwhile : List Result)
  | watched (started : Bool) (meanwhile : List Result) (ending : Endpoint.WatchEnd)

/-- How far a party has got that has begun to act. -/
structure Bench.Progress where
  /-- What came of its steps so far. -/
  results : List Bench.Result := []
  /-- The flags at the moment when it came to a step that it could not take at once. -/
  found : Option Flags := none

structure Bench where
  script : Script := {}
  hasHost : Bool := true
  /-- The parties that wait for their moments, the first one first. -/
  parties : List (Option Bench.Progress) := []
  /-- The flags as they are, while a party that waited is back at the moment when it came to its step. -/
  actual : Option Flags := none

namespace Bench

/-- The bench answers requests as its script says. -/
def controller : Controller Bench :=
  { respond := fun request bench =>
      let (response, script) := Script.respond request bench.script
      (response, { bench with script })
    version := fun bench => bench.script.version
    nfcees := fun bench => bench.script.nfcees
    tableSize := fun bench => bench.script.tableSize }

/-- Nobody acts while a call waits. -/
def quiet : Environment Bench := controller.alone

def updateBench (f : Bench → Bench) : Op Bench Unit := fun _ s =>
  ((), { s with controller := f s.controller })

def updateScript (f : Script → Script) : Op Bench Unit :=
  updateBench fun bench => { bench with script := f bench.script }

def ask {α : Type} (f : Bench → α) : Op Bench α := fun _ s => (f s.controller, s)

inductive Action where
  | move (move : Move)
  | edit (edit : Script.Edit)
  | activate (act : Activation)
  | setFlags (enabled disabling tagActive reconnecting : Option Bool)
  /-- The host is given up: it is taken down, and from then on events reach nobody. -/
  | dropHost

/-- A call on the host needs one. -/
def runMove (move : Move) : Op Bench Answer := do
  let hasHost ← ask Bench.hasHost
  match move with
  | .call (.host call) => if hasHost then call.run else return .noHost
  | other => other.run

def giveUpHost : Op Bench Answer := do
  if ← ask Bench.hasHost then do
    let _ ← Lifecycle.takeDown
    updateBench fun bench => { bench with hasHost := false }
    fun _ s => (Answer.done, { s with receiver := .nobody })
  else return .noHost

def putFlags (enabled disabling tagActive reconnecting : Option Bool) : Op Bench Answer := do
  Op.updateFlags fun flags =>
    { flags with
      enabled := enabled.getD flags.enabled
      disabling := disabling.getD flags.disabling
      tagActive := tagActive.getD flags.tagActive
      reconnecting := reconnecting.getD flags.reconnecting }
  let flags ← Op.read (·.flags)
  return .readiness flags.active flags.tagReady

def Action.run : Action → Op Bench Answer
  | .move next => runMove next
  | .edit change => (fun _ => Answer.done) <$> updateScript fun script => script.edit change
  | .activate act => do
    updateScript fun script => { script with lastTarget := some act }
    runMove (.event (.activated act))
  | .setFlags enabled disabling tagActive reconnecting =>
    putFlags enabled disabling tagActive reconnecting
  | .dropHost => giveUpHost

/-- Runs an action and delivers what is in flight after it. -/
def perform (action : Action) : Op Bench Answer := do
  let answer ← action.run
  Op.attend
  return answer

end Bench

end NfcStack
