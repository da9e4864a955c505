import NfcStack.Bench.Action
/-!
# Steps on the bench

A step is an action, a step during which a party acts that waited for its moment, or a presence loop with
what happens before its first turn. Steps nest: whoever acts in between takes steps of its own.
-/

namespace NfcStack.Bench

inductive Step where
  | act (action : Action)
  /-- Right after so many requests of a kind, and before the step goes on, a party acts. If there are
  never so many, it does not. -/
  | during (step : Step) (kind : RequestKind) (count : Nat) (meanwhile : List Step)
  /-- A presence loop of an endpoint runs to its end; others act before its first turn. -/
  | watch (endpoint : Option Nat) (meanwhile : List Step)

/-- Where in a run a step stands. -/
structure Scene where
  /-- The length that the trace had at the beginning. -/
  start : Nat
  /-- How many requests the parties around the step wait for, all together. -/
  reach : Nat

def countOf (kind : RequestKind) (trace : List Entry) : Nat :=
  (System.requestsOf trace).countP (fun request => request.kind == kind)

/-- How far a party has got, if it has begun to act. -/
def begun? (place : Nat) (s : System Bench) : Option Progress :=
  (s.controller.parties[place]?).join

/-- Whether a party at a place has waited for a request and has not acted yet. -/
def isMoment (scene : Scene) (place : Nat) (kind : RequestKind) (count : Nat) (request : Request)
    (s : System Bench) : Bool :=
  request.kind == kind && count ≤ countOf kind (s.trace.drop scene.start) &&
    (s.controller.parties[place]? matches some none)

/-- A party at a place acts, as far as it can, and how far it gets is kept. -/
def intervene (place : Nat) (party : Progress → Op Bench Progress) : Op Bench Unit := fun env s =>
  let (progress, s) := party ((begun? place s).getD {}) env s
  updateBench (fun bench =>
    { bench with parties := bench.parties.set place (some progress) }) env s

/-- A party that was held up goes on, as far as it can. -/
def intervenesAgain (place : Nat) (party : Progress → Op Bench Progress) : Op Bench Unit :=
  fun env s => if (begun? place s).isSome then intervene place party env s else ((), s)

/-- The surroundings in which a party acts as well when its moment has come. -/
def joinedBy (scene : Scene) (place : Nat) (kind : RequestKind) (count : Nat)
    (party : Progress → Op Bench Progress) (env : Environment Bench) : Environment Bench :=
  { env with
    interlude := fun request s =>
      env.interlude request <|
        if isMoment scene place kind count request s then (intervene place party env s).2
        else (intervenesAgain place party env s).2
    goOn := fun s => env.goOn (intervenesAgain place party env s).2 }

/-- Runs an operation while a party waits for its moment. What the party could not do meanwhile it does
afterwards. -/
def withParty (scene : Scene) (kind : RequestKind) (count : Nat)
    (party : Progress → Op Bench Progress) (op : Op Bench Result) : Op Bench Result := do
  let place ← ask (·.parties.length)
  updateBench fun bench => { bench with parties := bench.parties ++ [none] }
  let result ← (fun env => op (joinedBy scene place kind count party env) : Op Bench Result)
  intervenesAgain place party
  let outcome ← ask (·.parties[place]?)
  updateBench fun bench => { bench with parties := bench.parties.take place }
  return .during result (outcome.join.getD {}).results

/-- The flags are again what they are. -/
def comeBack (s : System Bench) : System Bench :=
  match s.controller.actual with
  | some flags =>
    { s with host := { s.host with flags }, controller := { s.controller with actual := none } }
  | none => s

/-- Takes a step, given the flags at the moment when its party came to it. What it looks at before it needs
something for itself it has seen then; from then on it goes by the flags as they are. -/
def takeFrom {α : Type} (found : Option Flags) (op : Op Bench α) : Op Bench α := fun env s =>
  match found with
  | none => op env s
  | some flags =>
    let (result, s) := op { env with goOn := fun s => env.goOn (comeBack s) }
      { s with
        host := { s.host with flags }
        controller := { s.controller with actual := some s.host.flags } }
    (result, comeBack s)

/-- How many turns of a presence loop can differ: each refusal is used up by a turn, and after the last
one every turn is like the one before. -/
def turnLimit (script : Script) : Nat := script.refusals.length + 1

/-- Runs a presence loop to its end. A party that waits for its requests can change what comes after, so
the loop goes on until none can wait any more. -/
def watchOut (number loop : Nat) : Nat → Op Bench Endpoint.WatchEnd
  | 0 => do
    let turns ← ask fun bench => turnLimit bench.script
    Endpoint.watch number loop turns
  | reach + 1 => do
    let turns ← ask fun bench => turnLimit bench.script
    match ← Endpoint.watch number loop turns with
    | .watching => watchOut number loop reach
    | ending => return ending

/-- Runs a presence loop after others have acted. -/
def runWatch (scene : Scene) (endpoint : Option Nat) (others : Op Bench (List Result)) :
    Op Bench Result := do
  match ← Op.read fun host => Call.endpointNumber? host endpoint with
  | none => return .answer .noEndpoint
  | some number => do
    let loop ← Endpoint.startWatch number true
    let results ← others
    match loop with
    | none => return .watched false results .silent
    | some loop => do
      let ending ← watchOut number loop scene.reach
      Op.attend
      if ending = .watching && (← Op.isTaken .field) then Op.holdUp
      return .watched true results ending

mutual
def Step.run (scene : Scene) : Step → Op Bench Result
  | .act action => Result.answer <$> perform action
  | .during step kind count meanwhile =>
    withParty scene kind count
      (fun progress => Step.proceed scene meanwhile progress.results.length progress)
      (Step.run { scene with reach := scene.reach + count } step)
  | .watch endpoint meanwhile => runWatch scene endpoint (Step.runAll scene meanwhile)

def Step.runAll (scene : Scene) : List Step → Op Bench (List Result)
  | [] => return []
  | step :: rest => do
    let result ← Step.run scene step
    let results ← Step.runAll scene rest
    return result :: results

/-- Takes the steps after the first few, as long as deliveries go on and no step needs what is in use. A
step that cannot be taken to its end leaves everything as it was, and its party keeps in mind when it came
to it. -/
def Step.proceed (scene : Scene) : List Step → Nat → Progress → Op Bench Progress
  | [], _, progress => return progress
  | _ :: rest, skipped + 1, progress => Step.proceed scene rest skipped progress
  | step :: rest, 0, progress => fun env s =>
    if s.late.isSome then (progress, s)
    else
      let (result, after) := takeFrom progress.found (Step.run scene step)
        { env with taken := env.taken ++ s.host.inUse } s
      if after.heldUp then
        ({ progress with found := some (progress.found.getD s.host.flags) }, s)
      else Step.proceed scene rest 0 ⟨progress.results ++ [result], none⟩ env after
end

end NfcStack.Bench
