import NfcStack.Host.Radio
/-!
# Card emulation and routing

Bringing card emulation up and down, and edits of the controller's routing table. Only a refused
registration stops the bring-up; every later failure is passed over.
-/

namespace NfcStack.CardEmulation

variable {σ : Type}

def forEach {α : Type} (items : List α) (op : α → Op σ Unit) : Op σ Unit :=
  match items with
  | [] => return ()
  | item :: rest => do
    op item
    forEach rest op

def connectedId (selector : UInt8) : Op σ UInt8 := do
  match ← Op.queryNfcees with
  | .ok infos => return NfceeInfo.connectedId infos selector
  | .error _ => return hostRoute

/-- One edit of default routing; true if it completed with `ok`. -/
def routingCall (request : Request) : Op σ Bool := do
  match ← Op.call Venue.routing request with
  | .completed status => return status.isOk
  | _ => return false

/-- One edit of an identifier's route; true if it completed with `ok`. -/
def aidCall (request : Request) : Op σ Bool := do
  match ← Op.call Venue.aid request with
  | .completed status => return status.isOk
  | _ => return false

/-- Asks for a mode of an execution environment and passes over how that ends. -/
def setMode (handle : NfceeHandle) (mode : UInt8) : Op σ Unit := do
  let _ ← Op.call Venue.mode (.setNfceeMode handle mode)
  return ()

def activateMode : UInt8 := 0x01

def deactivateMode : UInt8 := 0x00

def activateInactive : Op σ Unit := do
  match ← Op.queryNfcees with
  | .ok infos =>
    forEach (infos.filter fun info => info.status == NfceeInfo.inactiveStatus) fun info =>
      setMode info.handle activateMode
  | .error _ => return ()

/-- Whether an environment has to be put to rest. The first version of the controller interface tells
it by the interfaces it has, later ones by its status, and leave out those behind the host controller
interface. -/
def isRunning (firstVersion : Bool) (info : NfceeInfo) : Bool :=
  if firstVersion then !info.interfaces.isEmpty
  else info.interfaces.head? != some NfceeInfo.hostControllerAccess && info.isActive

/-- Deactivates the environments that run, if there is a route off the host at all. -/
def deactivateRunning : Op σ Unit := do
  if (← Op.read (·.config.routing.offHostRoute)) = hostRoute then return ()
  else
    match ← Op.queryNfcees with
    | .ok infos =>
      let version ← Op.version
      forEach (infos.filter (isRunning (version == Controller.version1))) fun info =>
        setMode info.handle deactivateMode
    | .error _ => return ()

def offeredTech (announced : NfceeAnnouncement) : TechMask :=
  (if announced.protocolA = 0 then ∅ else TechMask.a) ∪
    (if announced.protocolB = 0 then ∅ else TechMask.b)

/-- Routes what each environment offers to it, and adds up what was asked for. -/
def routeOffered (secure : Bool) : List NfceeAnnouncement → TechMask → Op σ TechMask
  | [], routed => return routed
  | announced :: rest, routed => do
    let offered := offeredTech announced
    if offered.isEmpty then routeOffered secure rest routed
    else do
      let _ ← routingCall (.clearTechRouting announced.handle offered)
      let _ ← routingCall (.setTechRouting announced.handle (PowerRouting.offHost offered secure))
      routeOffered secure rest (routed ∪ offered)

def hostTechs : List TechMask := [TechMask.a, TechMask.b]

/-- Routes technologies to the configured environment, withdraws them from the host, and returns
them. -/
def routeTechOffHost : Op σ TechMask := do
  let host ← Op.host
  let routing := host.config.routing
  if routing.offHostRoute = hostRoute then return ∅
  else do
    let target := NfceeHandle.ofId routing.offHostRoute
    let routed ← routeOffered host.router.secure
      (host.router.announced.filter fun announced => announced.handle = target) ∅
    forEach
      (hostTechs.filter fun tech => routing.hostListenTech.contains tech && routed.contains tech)
      fun tech => do
        let _ ← routingCall (.clearTechRouting NfceeHandle.host tech)
        return ()
    return routed

def hostPowerState : UInt8 := 0x11

def securePowerState : UInt8 := 0x01

def powerState (host : Host) (route : UInt8) : UInt8 :=
  if host.router.secure then securePowerState
  else if route ≠ hostRoute then host.config.routing.offHostPowerState
  else hostPowerState

/-- Routes the empty identifier. Only the second version of the controller interface knows it. -/
def routeDefault : Op σ Unit := do
  let version ← Op.version
  if version = Controller.version2 then do
    let route ← connectedId (← Op.read (·.config.routing.defaultRoute))
    let host ← Op.host
    let _ ← aidCall (.addAid
      { aid := Aid.empty
        route := routeHandle route
        powerState := powerState host route
        info := AidInfo.leading })
    return ()
  else return ()

/-- Routes ISO-DEP to the environment that is connected, the host if there is none. -/
def routeIsoDep : Op σ Unit := do
  let secure ← Op.read (·.router.secure)
  let route ← connectedId (← Op.read (·.config.routing.offHostRoute))
  let handle := routeHandle route
  let _ ← routingCall (.clearProtocolRouting handle ProtocolMask.isoDep)
  let powers :=
    if route ≠ hostRoute then PowerRouting.offHost ProtocolMask.isoDep secure
    else PowerRouting.host ProtocolMask.isoDep secure
  let _ ← routingCall (.setProtocolRouting handle powers)
  return ()

def establish : Op σ Unit := do
  activateInactive
  let routed ← routeTechOffHost
  Op.updateRouter fun router => { router with offHostTech := routed }
  let listen ← Op.read (·.config.routing.hostListenTech)
  let _ ← Op.send (.setIsoDepListenTech (listen ∩ (TechMask.a ∪ TechMask.b)))
  let _ ← Op.send (.registerAidOnHost Aid.empty)
  routeDefault
  routeIsoDep

/-- Registers for the environments' events and establishes the default routes; false only if the
registration is refused. -/
def bringUp : Op σ Bool := do
  match ← Op.call Venue.register .registerNfcees with
  | .rejected _ => return false
  | _ => do
    establish
    return true

def takeDown : Op σ Unit := do
  deactivateRunning
  let _ ← Op.send .deregisterNfcees
  return ()

def addAid (aid : Aid) (route : UInt8) (info : AidInfo) : Op σ Bool := do
  let host ← Op.host
  aidCall (.addAid { aid, route := routeHandle route, powerState := powerState host route, info })

def removeAid (aid : Aid) : Op σ Bool := aidCall (.removeAid aid.bytes)

def everyAid : Bytes := List.replicate 8 0xff

def clearAids : Op σ Bool := aidCall (.removeAid everyAid)

/-- Makes pending edits effective. The controller takes no commit while discovery runs, so a running
discovery is stopped before and started again after it. -/
def commit : Op σ Bool :=
  Op.holdingField Host.routingBound do
    let running ← Op.read (·.flags.rf)
    let stopped ← if running then Radio.stopDiscovery else pure true
    if stopped then do
      let outcome ← Op.call Venue.commit .commitRouting
      if running then do
        let _ ← Radio.startDiscovery
        return outcome.isCompleted
      else return outcome.isCompleted
    else return false

def hostTechRequest (enable secure : Bool) (tech : TechMask) : Request :=
  if enable then .setTechRouting NfceeHandle.host (PowerRouting.host tech secure)
  else .clearTechRouting NfceeHandle.host tech

def hostIsoDepRequest (enable secure : Bool) : Request :=
  if enable then
    .setProtocolRouting NfceeHandle.host (PowerRouting.host ProtocolMask.isoDep secure)
  else .clearProtocolRouting NfceeHandle.host ProtocolMask.isoDep

/-- Routes ISO-DEP and the technologies in which the host listens to the host, or withdraws them.
Technologies routed off the host are left alone. -/
def setHostRouting (enable : Bool) : Op σ Unit := do
  let host ← Op.host
  let routing := host.config.routing
  let secure := host.router.secure
  if routing.isoDepRoute = hostRoute then do
    let _ ← routingCall (hostIsoDepRequest enable secure)
  forEach
    (hostTechs.filter fun tech =>
      routing.hostListenTech.contains tech && !host.router.offHostTech.contains tech)
    fun tech => do
      let _ ← routingCall (hostTechRequest enable secure tech)
      return ()

def setSecure (secure : Bool) : Op σ Unit :=
  Op.updateRouter fun router => { router with secure }

/-- The room left in the routing table, zero if the controller does not tell. -/
def remaining : Op σ UInt16 := do
  let outcome ← Op.call Venue.remaining .queryRemaining
  return outcome.value?.getD 0

end NfcStack.CardEmulation
