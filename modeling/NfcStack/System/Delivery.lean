import NfcStack.System.Basic
/-!
# Delivery of events

How the host reacts to each event. A reaction asks for nothing it would have to wait for: what its own
requests bring about joins the queue and is delivered later. Only a notice of a discovery can come too
early, while an operation uses the radio field; it then keeps back all that follows until it is settled.
-/

namespace NfcStack.Controller

variable {σ : Type} (c : Controller σ)

/-- The controller failed. Whoever waits for it is woken, and a stack that is up is forced down. -/
def reactToFailure (s : System σ) : System σ :=
  let s := s.mapHost fun host =>
    { host with
      session := host.session.abort
      polling := host.polling.abort
      enable := host.enable.abort
      disable := host.disable.abort
      flags := { host.flags with discovery := false, polling := false } }
  if s.host.flags.active then
    -- The verdict is not looked at: a stack whose controller refuses counts as being on its way down.
    (c.issue .reaction (.disable false) s).2.mapHost (Host.mapFlags fun flags => { flags with disabling := true })
  else
    s.mapHost (Host.mapFlags fun flags => { flags with enabled := false, disabling := false })

/-- A target became active. Peer devices and targets of a listening mode or of a secure element are
none of the reader's business. A target that was put to sleep to be selected again completes that wait;
any other is a new tag. -/
def reactToActivation (act : Activation) (s : System σ) : System σ :=
  if s.host.flags.disabling || act.protocol == Protocol.nfcDep || !RadioMode.isPoll act.mode
      || act.interface == RadioInterface.direct then s
  else
    let s := s.mapHost (Host.mapFlags fun flags => { flags with tagActive := true })
    if s.host.flags.reconnecting then
      s.mapHost (Host.mapSession fun session =>
        { session with activated := session.activated.notify () })
    else match s.host.session.admit? act with
      | none => s
      | some session =>
        (s.mapHost (Host.mapSession fun _ => session)).announce (Endpoint.ofSession session act)

/-- Selects a discovered target, and takes it for connected whatever the controller answers. -/
def selectDiscovered (target : DiscoveryNotice) (s : System σ) : System σ :=
  (c.issue .reaction (.select target.target target.protocol
      (RadioInterface.forProtocol target.protocol)) s).2.mapHost
    (Host.mapSession fun session =>
      { session with connection := some ⟨target.target, target.protocol, .unknown⟩ })

/-- A notice of a discovery with several targets. The last one selects a target. While an operation uses
the radio field it waits as long as other waits do, and is in vain if the operation waits longer. -/
def reactToNotice (notice : DiscoveryNotice) (s : System σ) : System σ :=
  let (found, session) := s.host.session.collect notice
  let s := s.mapHost (Host.mapSession fun _ => session)
  match found with
  | none => s
  | some target =>
    if s.host.usesField then
      if s.host.fieldBound ≤ s.host.waitBound then
        { s with late := some { target, patience := s.host.waitBound } }
      else s
    else c.selectDiscovered target s

/-- A message on a pipe. Only transactions that can be read are passed on. -/
def reactToPipe (pipe code : UInt8) (payload : Bytes) (s : System σ) : System σ :=
  if code = OffHostTransaction.eventCode then
    let (infos, s) :=
      if (OffHostTransaction.family? s.host.config.pipes pipe).isSome then c.queryNfcees .reaction s
      else (.ok [], s)
    match OffHostTransaction.decode s.host.config.pipes infos pipe payload with
    | .ok found => s.notify (.transaction found)
    | .error _ => s
  else s

def reactToCardData (status : Status) (bytes : Bytes) (s : System σ) : System σ :=
  let (command, apdu) := s.host.router.apdu.push status bytes
  let s := s.mapHost (Host.mapRouter fun router => { router with apdu })
  match command with
  | some command => s.notify (.cardData TechMask.a command)
  | none => s

def react (event : Event) (s : System σ) : System σ :=
  match event with
  | .enabled status => s.mapHost fun host =>
    { host with
      flags := { host.flags with enabled := status.isOk, disabling := false }
      enable := host.enable.notify status }
  | .disabled => s.mapHost fun host =>
    { host with
      flags := { host.flags with enabled := false, disabling := false }
      disable := host.disable.notify () }
  | .field status on => if status.isOk then s.notify (if on then .fieldOn else .fieldOff) else s
  | .transportError => c.reactToFailure s
  | .controllerTimeout => c.reactToFailure s
  | .parameterSet status => s.mapHost (Venue.parameter.map (·.notify status))
  | .powerSubStateSet status => s.mapHost (Venue.powerSubState.map (·.notify status))
  | .pollingEnabled status => s.mapHost (Venue.polling.map (·.notify status))
  | .pollingDisabled status => s.mapHost (Venue.polling.map (·.notify status))
  | .discoveryStarted status => s.mapHost (Venue.polling.map (·.notify status))
  | .discoveryStopped status => s.mapHost (Venue.polling.map (·.notify status))
  | .activated act => reactToActivation act s
  | .deactivated true => s.mapHost fun host =>
    { host with
      flags := { host.flags with reconnecting := true }
      session := { host.session with deactivated := host.session.deactivated.notify () } }
  | .deactivated false => s.mapHost fun host =>
    { host with
      flags := { host.flags with tagActive := false, reconnecting := false }
      session := host.session.forget }
  | .discovered status notice => if status.isOk then c.reactToNotice notice s else s
  | .nfceesRegistered status => s.mapHost (Venue.register.map (·.notify status))
  | .techRouted status => s.mapHost (Venue.routing.map (·.notify status))
  | .techCleared status => s.mapHost (Venue.routing.map (·.notify status))
  | .protocolRouted status => s.mapHost (Venue.routing.map (·.notify status))
  | .protocolCleared status => s.mapHost (Venue.routing.map (·.notify status))
  | .aidAdded status => s.mapHost (Venue.aid.map (·.notify status))
  | .aidRemoved status => s.mapHost (Venue.aid.map (·.notify status))
  | .routingCommitted => s.mapHost (Venue.commit.map (·.notify ()))
  | .nfceesAnnounced _ announced =>
    (s.mapHost (Host.mapRouter fun router => { router with announced })).notify .nfceesChanged
  | .nfceeModeSet status => s.mapHost (Venue.mode.map (·.notify status))
  | .remaining size => s.mapHost (Venue.remaining.map (·.notify size))
  | .cardActivated _ =>
    (s.mapHost (Host.mapRouter fun router => { router with apdu := router.apdu.reset })).notify
      (.cardActivated TechMask.a)
  | .cardDeactivated =>
    (s.mapHost (Host.mapRouter fun router => { router with apdu := router.apdu.reset })).notify
      (.cardDeactivated TechMask.a)
  | .cardData status bytes => reactToCardData status bytes s
  | .hciReceived pipe code payload => c.reactToPipe pipe code payload s
  | .hciOther _ => s
  | other => s.mapHost (Host.mapSession (·.receive other))

def reactAlone (event : Event) (s : System σ) : System σ :=
  match event with
  | .activated _ => s.mapHost (Venue.activated.map (·.notify ()))
  | .deactivated _ => s.mapHost (Venue.deactivated.map (·.notify ()))
  | .discovered status notice => if status.isOk then c.reactToNotice notice s else s
  | other => s.mapHost (Host.mapSession (·.receive other))

def deliver (happening : Happening) (s : System σ) : System σ :=
  match happening with
  | .abortAll => s.mapHost Host.abortAll
  | .abortSession => s.mapHost (Host.mapSession Session.abort)
  | .event event => match s.receiver with
    | .nobody => s
    | .host => c.react event (s.record (.delivered event))
    | .session => c.reactAlone event (s.record (.delivered event))

/-- Takes in happenings in order, as far as no late notice holds up the rest. -/
def takeIn : List Happening → System σ → System σ
  | [], s => s
  | happening :: rest, s =>
    if s.late.isSome then { s with queue := happening :: rest ++ s.queue }
    else takeIn rest (c.deliver happening s)

def round (s : System σ) : System σ := c.takeIn s.queue { s with queue := [] }

/-- What happens while a caller waits: all that was in the queue is delivered, and then what the
reactions brought about. -/
def attend (s : System σ) : System σ := c.round (c.round s)

/-- A late notice selects its target as soon as the radio field is free, and deliveries go on. -/
def release (s : System σ) : System σ :=
  match s.late with
  | some notice =>
    if s.host.usesField then s
    else c.attend (c.selectDiscovered notice.target { s with late := none })
  | none => s

end NfcStack.Controller
