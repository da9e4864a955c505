import NfcStack.Controller.Basic
/-!
# Scripted controllers

A controller that does as it is told. Unless its script says otherwise it accepts every request and
completes it with `ok`; the script refuses requests, keeps completions back, or gives them another
status.
-/

namespace NfcStack

structure Script where
  /-- Refusals of one request each, oldest first. -/
  refusals : List (RequestKind × Status) := []
  /-- Refusals of every request of a kind, newest first. -/
  standing : List (RequestKind × Status) := []
  /-- The status that completions of a kind carry, newest first. -/
  completions : List (RequestKind × Status) := []
  /-- The kinds that are accepted and never completed. -/
  silenced : List RequestKind := []
  version : UInt8 := Controller.version2
  tableSize : UInt16 := 0
  remaining : UInt16 := 0
  nfcees : Except Status (List NfceeInfo) := .ok []
  /-- The environments that announce themselves when the host registers for them. -/
  announced : List NfceeAnnouncement := []
  /-- Answers to the next frames. A frame without an answer is not completed. -/
  answers : List Bytes := []
  present : Bool := true
  /-- The report of detections, and those that go before it. -/
  detection : NdefDetection := ⟨.failed, Protocol.unknown, 0, 0, ⟨0⟩⟩
  detections : List NdefDetection := []
  message : Bytes := []
  /-- The target that was brought into the field last. -/
  lastTarget : Option Activation := none
  reactivates : Bool := false

namespace Script

/-- Orders that are carried out without a verdict. -/
def isUnconditional (kind : RequestKind) : Bool :=
  match kind with
  | .adaptationOpen | .adaptationClose | .downloadFirmware | .dump | .factoryReset | .shutdown => true
  | _ => false

/-- The verdict on a request of a kind. A single refusal is used up and goes before a standing one. -/
def verdict (script : Script) (kind : RequestKind) : Status × Script :=
  match script.refusals.lookup kind with
  | some status =>
    (status, { script with refusals := script.refusals.eraseP (fun refusal => refusal.1 == kind) })
  | none => ((script.standing.lookup kind).getD .ok, script)

def completion (script : Script) (kind : RequestKind) : Status :=
  (script.completions.lookup kind).getD .ok

/-- What a confirmed selection of a target brings about. -/
def reactivation (script : Script) (target protocol interface : UInt8) : List Event :=
  match script.lastTarget with
  | some act =>
    if script.reactivates then [.activated { act with target, protocol, interface }] else []
  | none => []

/-- The report of the next detection. The protocol is that of the target in the field. -/
def nextDetection (script : Script) : NdefDetection × Script :=
  let protocol := (script.lastTarget.map Activation.protocol).getD Protocol.unknown
  match script.detections with
  | report :: detections => ({ report with protocol }, { script with detections })
  | [] => ({ script.detection with protocol }, script)

def announcement (script : Script) : List Event :=
  if script.announced.isEmpty then [] else [.nfceesAnnounced .ok script.announced]

/-- The events that complete an accepted request, and the script after it. -/
def complete (script : Script) (request : Request) : List Event × Script :=
  let status := script.completion request.kind
  match request with
  | .enable => ([.enabled status], script)
  | .disable _ => ([.disabled], script)
  | .enablePolling _ => ([.pollingEnabled status], script)
  | .disablePolling => ([.pollingDisabled status], script)
  | .startDiscovery => ([.discoveryStarted status], script)
  | .stopDiscovery => ([.discoveryStopped status], script)
  | .setPowerSubState _ => ([.powerSubStateSet status], script)
  | .setParameter _ _ => ([.parameterSet status], script)
  | .select target protocol interface =>
    (.selected status ::
      (if status.isOk then script.reactivation target protocol interface else []), script)
  | .deactivate sleep => ([.deactivated sleep], script)
  | .sendFrame _ =>
    match script.answers with
    | answer :: answers => ([.data status answer], { script with answers })
    | [] => ([], script)
  | .registerNdef => ([.ndefRegistered status], script)
  | .detectNdef =>
    let (report, script) := script.nextDetection
    ([.detected report], script)
  | .readNdef => ([.ndefData script.message, .readDone status], script)
  | .writeNdef message =>
    ([.writeDone status], if status.isOk then { script with message } else script)
  | .presenceCheck _ => ([.presence (if script.present then .ok else .failed)], script)
  | .format => ([.formatDone status], script)
  | .lock _ => ([.lockDone status], script)
  | .registerNfcees => (script.announcement ++ [.nfceesRegistered status], script)
  | .setTechRouting _ _ => ([.techRouted status], script)
  | .clearTechRouting _ _ => ([.techCleared status], script)
  | .setProtocolRouting _ _ => ([.protocolRouted status], script)
  | .clearProtocolRouting _ _ => ([.protocolCleared status], script)
  | .addAid _ => ([.aidAdded status], script)
  | .removeAid _ => ([.aidRemoved status], script)
  | .commitRouting => ([.routingCommitted], script)
  | .setNfceeMode _ _ => ([.nfceeModeSet status], script)
  | .queryRemaining => ([.remaining script.remaining], script)
  | _ => ([], script)

def respond (request : Request) (script : Script) : Response × Script :=
  if isUnconditional request.kind then (⟨.ok, []⟩, script)
  else
    let (verdict, script) := script.verdict request.kind
    if verdict.isOk then
      let (events, script) := script.complete request
      let kept := script.silenced.contains request.kind
      (⟨.ok, if kept then [] else events.map .event⟩, script)
    else (⟨verdict, []⟩, script)

def controller : Controller Script :=
  { respond, version := Script.version, nfcees := Script.nfcees, tableSize := Script.tableSize }

inductive Edit where
  | refuse (kind : RequestKind) (status : Status)
  | refuseOnce (kind : RequestKind) (status : Status)
  | acceptAll
  | silence (kind : RequestKind)
  | unsilence (kind : RequestKind)
  | completeWith (kind : RequestKind) (status : Status)
  | version (version : UInt8)
  | tableSize (size : UInt16)
  | remaining (size : UInt16)
  | nfcees (answer : Except Status (List NfceeInfo))
  | announced (announced : List NfceeAnnouncement)
  | answer (response : Bytes)
  | present (present : Bool)
  | detection (report : NdefDetection)
  | nextDetection (report : NdefDetection)
  | message (message : Bytes)
  | reactivates (reactivates : Bool)

def edit (script : Script) : Edit → Script
  | .refuse kind status => { script with standing := (kind, status) :: script.standing }
  | .refuseOnce kind status => { script with refusals := script.refusals ++ [(kind, status)] }
  | .acceptAll => { script with standing := [], refusals := [] }
  | .silence kind => { script with silenced := kind :: script.silenced }
  | .unsilence kind => { script with silenced := script.silenced.filter (fun other => other != kind) }
  | .completeWith kind status => { script with completions := (kind, status) :: script.completions }
  | .version version => { script with version }
  | .tableSize tableSize => { script with tableSize }
  | .remaining remaining => { script with remaining }
  | .nfcees nfcees => { script with nfcees }
  | .announced announced => { script with announced }
  | .answer response => { script with answers := script.answers ++ [response] }
  | .present present => { script with present }
  | .detection detection => { script with detection }
  | .nextDetection report => { script with detections := script.detections ++ [report] }
  | .message message => { script with message }
  | .reactivates reactivates => { script with reactivates }

end Script

end NfcStack
