import NfcStack.Tag.Endpoint.Watch
/-!
# Presence loops side by side

Loops that were stopped may still be on their way out while later ones are started, and whoever starts, stops
or ends a loop takes several steps to do so. All share the number of the current loop. A step is what nobody
can come in between of, and the steps of all callers and loops may follow each other in any order.
-/

namespace NfcStack

/-- How far a request for a presence loop has got, or the loop that came of it. -/
inductive LoopStage where
  /-- It has its number, and has not tried yet to become the current one. -/
  | asking
  /-- It became the current one. -/
  | starting
  /-- The loop is to be brought under way. -/
  | spawning
  /-- The loop is under way and begins to wait. -/
  | arming
  | waiting
  /-- It got hold of the endpoint for a turn. -/
  | awake
  /-- It still has its place, and looks whether the tag counts as present. -/
  | doubting
  /-- It asks for the tag. -/
  | probing
  /-- It found a reason to end. -/
  | leaving
  /-- It let go of the tag, and gives up its place next. -/
  | retiring
  /-- It retired itself as the current one and reports next. -/
  | reporting
  | ended
  deriving DecidableEq, Repr

/-- Whether the endpoint cannot go away meanwhile. A loop that waits does not keep it. -/
def LoopStage.keeps : LoopStage → Bool
  | .arming | .waiting | .ended => false
  | _ => true

structure LoopRequest where
  number : Nat
  stage : LoopStage
  deriving DecidableEq, Repr

inductive LoopEvent where
  | asked (number : Nat)
  | claimed (number : Nat)
  | denied (number : Nat)
  /-- The loop is under way, which is what its caller is told. -/
  | spawned (number : Nat)
  | unspawned (number : Nat)
  /-- The loop went one step on, which is nothing to others. -/
  | moved (number : Nat)
  /-- The loop lets go of the tag. -/
  | left (number : Nat)
  /-- The loop finds no endpoint any more. -/
  | vanished (number : Nat)
  /-- The loop is not the current one any more, if it was. -/
  | retired (number : Nat)
  | reported (number : Nat) (handle : UInt8)
  | silent (number : Nat)
  | stopped
  /-- The last owner lets the endpoint go. -/
  | released
  | destroyed
  /-- Something else about the endpoint changes. -/
  | altered
  deriving DecidableEq, Repr

/-- What a step finds apart from the endpoint. -/
structure LoopChance where
  /-- Whether a loop can be brought under way. -/
  spawned : Bool := true
  /-- Whether the wait of a loop was ended before its delay had run out. -/
  woken : Bool := false
  /-- Whether an operation of the endpoint is under way. -/
  paused : Bool := false
  /-- Whether the tag is there when a loop asks for it. -/
  there : Bool := true
  deriving DecidableEq, Repr

/-- A step of a request or its loop. -/
structure LoopTurn where
  event : LoopEvent
  stage : LoopStage
  endpoint : Endpoint
  deriving DecidableEq, Repr

/-- The next step of a request or its loop. A loop gets hold of its endpoint as long as somebody keeps it. -/
def LoopRequest.turn (request : LoopRequest) (kept : Bool) (chance : LoopChance) (endpoint : Endpoint) :
    LoopTurn :=
  let number := request.number
  match request.stage with
  | .asking =>
    let (claimed, endpoint) := endpoint.claimLoop number
    if claimed then ⟨.claimed number, .starting, endpoint⟩ else ⟨.denied number, .ended, endpoint⟩
  | .starting => ⟨.moved number, .spawning, endpoint.setPresent true⟩
  | .spawning =>
    if chance.spawned then ⟨.spawned number, .arming, endpoint⟩
    else ⟨.unspawned number, .ended, endpoint.giveUpLoop⟩
  | .arming => ⟨.moved number, .waiting, endpoint.arm⟩
  | .waiting =>
    if kept then ⟨.moved number, .awake, endpoint⟩ else ⟨.vanished number, .ended, endpoint⟩
  | .awake =>
    ⟨.moved number, if endpoint.missesPlace number chance.woken then .leaving else .doubting, endpoint⟩
  | .doubting =>
    ⟨.moved number, if !endpoint.present then .leaving else if chance.paused then .arming else .probing,
      endpoint⟩
  | .probing => ⟨.moved number, if chance.there then .arming else .leaving, endpoint⟩
  | .leaving => ⟨.left number, .retiring, endpoint.setPresent false⟩
  | .retiring =>
    let (held, endpoint) := endpoint.leaveLoop number
    ⟨.retired number, if held then .reporting else .ended, endpoint⟩
  | .reporting =>
    match endpoint.lostHandle? with
    | some handle => ⟨.reported number handle, .ended, endpoint⟩
    | none => ⟨.silent number, .ended, endpoint⟩
  | .ended => ⟨.moved number, .ended, endpoint⟩

/-- A change that has nothing to do with presence loops. Slots are only added behind the first one. -/
structure Endpoint.Alters (endpoint after : Endpoint) : Prop where
  currentLoop : after.currentLoop = endpoint.currentLoop
  lastLoop : after.lastLoop = endpoint.lastLoop
  owned : after.owned = endpoint.owned
  first : after.slots.head? = endpoint.slots.head?

/-- An endpoint and everyone who asked it for a presence loop, in the order of their numbers. -/
structure LoopScene where
  endpoint : Endpoint
  requests : List LoopRequest := []

namespace LoopScene

/-- Whether the endpoint cannot go away. -/
def isKept (scene : LoopScene) : Bool :=
  scene.endpoint.owned || scene.requests.any fun request => request.stage.keeps

/-- Somebody takes a number for a loop. -/
def ask (scene : LoopScene) : LoopScene :=
  ⟨scene.endpoint.takeNumber.2, scene.requests ++ [⟨scene.endpoint.takeNumber.1, .asking⟩]⟩

/-- The next step of the request at a place. -/
def advance (scene : LoopScene) (place : Nat) (request : LoopRequest) (chance : LoopChance) : LoopScene :=
  let turn := request.turn scene.isKept chance scene.endpoint
  ⟨turn.endpoint, scene.requests.set place ⟨request.number, turn.stage⟩⟩

end LoopScene

/-- One step of whoever's turn it is. -/
inductive LoopStep : LoopScene → LoopEvent → LoopScene → Prop
  | asks (scene : LoopScene) (h : scene.endpoint.owned = true) :
      LoopStep scene (.asked scene.endpoint.takeNumber.1) scene.ask
  | advances (scene : LoopScene) (chance : LoopChance) {place : Nat} {request : LoopRequest}
      (hat : scene.requests[place]? = some request) :
      LoopStep scene (request.turn scene.isKept chance scene.endpoint).event
        (scene.advance place request chance)
  | stops (scene : LoopScene) : LoopStep scene .stopped { scene with endpoint := scene.endpoint.stopLoop }
  | releases (scene : LoopScene) : LoopStep scene .released { scene with endpoint := scene.endpoint.release }
  /-- The endpoint goes away once nobody keeps it. -/
  | goesAway (scene : LoopScene) (h : scene.isKept = false) :
      LoopStep scene .destroyed { scene with endpoint := scene.endpoint.destroy }
  | alters (scene : LoopScene) {endpoint : Endpoint} (h : scene.endpoint.Alters endpoint) :
      LoopStep scene .altered { scene with endpoint }

/-- Steps that follow each other. -/
inductive LoopRun (start : LoopScene) : List LoopEvent → LoopScene → Prop
  | nil : LoopRun start [] start
  | snoc {events : List LoopEvent} {scene after : LoopScene} {event : LoopEvent}
      (h : LoopRun start events scene) (hstep : LoopStep scene event after) :
      LoopRun start (events ++ [event]) after

end NfcStack
