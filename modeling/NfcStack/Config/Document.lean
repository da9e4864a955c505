import NfcStack.Config
/-!
# Configuration documents

The written form of a configuration: a tree of fields, each of which may be left out. What is left out
has its usual value, fields of other names are passed over, and a field that is there must have the
right shape and lie in range. A record may also be written as the list of its leading fields.
-/

namespace NfcStack

inductive Document where
  | null
  | flag (value : Bool)
  | number (value : Int)
  | fraction
  | text (value : String)
  | list (items : List Document)
  | record (fields : List (String × Document))
  deriving Repr, Inhabited

namespace Document

/-- The value of the field that has a position and a name, if it is written. -/
def field? (document : Document) (position : Nat) (name : String) : Option Document :=
  match document with
  | .record fields => fields.lookup name
  | .list items => items[position]?
  | _ => none

def fits (document : Document) (size : Nat) : Bool :=
  match document with
  | .record _ => true
  | .list items => items.length ≤ size
  | _ => false

/-- Reads a field; one that is not written has its usual value. -/
def get {α : Type} (document : Document) (position : Nat) (name : String)
    (read : Document → Option α) (usual : α) : Option α :=
  match document.field? position name with
  | some value => read value
  | none => some usual

/-- A whole number below a limit. -/
def below? (limit : Nat) : Document → Option Nat
  | .number (.ofNat value) => if value < limit then some value else none
  | _ => none

def byte? (document : Document) : Option UInt8 := (document.below? 256).map UInt8.ofNat

def word? (document : Document) : Option UInt16 := (document.below? 65536).map UInt16.ofNat

def long? (document : Document) : Option UInt64 :=
  (document.below? 18446744073709551616).map UInt64.ofNat

def bytes? : Document → Option Bytes
  | .list items => items.mapM byte?
  | _ => none

def mask? : Document → Option TechMask
  | .text value => TechMask.ofText? value
  | _ => none

def ofByte (byte : UInt8) : Document := .number byte.toNat

def ofWord (word : UInt16) : Document := .number word.toNat

def ofLong (long : UInt64) : Document := .number long.toNat

def ofBytes (bytes : Bytes) : Document := .list (bytes.map ofByte)

end Document

def AidMatching.names : List (String × AidMatching) :=
  [("ExactOnly", .exactOnly), ("ExactOrPrefix", .exactOrLeading), ("PrefixOnly", .leadingOnly),
    ("ExactOrSubsetOrPrefix", .exactOrSubsetOrLeading)]

def AidMatching.name : AidMatching → String
  | .exactOnly => "ExactOnly"
  | .exactOrLeading => "ExactOrPrefix"
  | .leadingOnly => "PrefixOnly"
  | .exactOrSubsetOrLeading => "ExactOrSubsetOrPrefix"

/-- A kind of matching is written as its name, or as a record of that one name with nothing in it. -/
def AidMatching.ofDocument? : Document → Option AidMatching
  | .text name => names.lookup name
  | .record [(name, .null)] => names.lookup name
  | _ => none

def TagTimeouts.ofDocument? (document : Document) : Option TagTimeouts := do
  guard (document.fits 10)
  let usual : TagTimeouts := {}
  let fallback ← document.get 0 "default_ms" Document.long? usual.fallback
  let iso14443A ← document.get 1 "iso14443_3a_ms" Document.long? usual.iso14443A
  let iso14443B ← document.get 2 "iso14443_3b_ms" Document.long? usual.iso14443B
  let iso14443Part4 ← document.get 3 "iso14443_4_ms" Document.long? usual.iso14443Part4
  let felica ← document.get 4 "felica_ms" Document.long? usual.felica
  let iso15693 ← document.get 5 "iso15693_ms" Document.long? usual.iso15693
  let ndef ← document.get 6 "ndef_ms" Document.long? usual.ndef
  let ndefFormatable ← document.get 7 "ndef_formatable_ms" Document.long? usual.ndefFormatable
  let mifareClassic ← document.get 8 "mifare_classic_ms" Document.long? usual.mifareClassic
  let mifareUltralight ←
    document.get 9 "mifare_ultralight_ms" Document.long? usual.mifareUltralight
  return { fallback, iso14443A, iso14443B, iso14443Part4, felica, iso15693, ndef, ndefFormatable,
           mifareClassic, mifareUltralight }

def TagTimeouts.toDocument (timeouts : TagTimeouts) : Document :=
  .record [
    ("default_ms", .ofLong timeouts.fallback),
    ("iso14443_3a_ms", .ofLong timeouts.iso14443A),
    ("iso14443_3b_ms", .ofLong timeouts.iso14443B),
    ("iso14443_4_ms", .ofLong timeouts.iso14443Part4),
    ("felica_ms", .ofLong timeouts.felica),
    ("iso15693_ms", .ofLong timeouts.iso15693),
    ("ndef_ms", .ofLong timeouts.ndef),
    ("ndef_formatable_ms", .ofLong timeouts.ndefFormatable),
    ("mifare_classic_ms", .ofLong timeouts.mifareClassic),
    ("mifare_ultralight_ms", .ofLong timeouts.mifareUltralight)]

def RoutingConfig.ofDocument? (document : Document) : Option RoutingConfig := do
  guard (document.fits 8)
  let usual : RoutingConfig := {}
  let defaultRoute ← document.get 0 "default_route" Document.byte? usual.defaultRoute
  let offHostRoute ← document.get 1 "default_offhost_route" Document.byte? usual.offHostRoute
  let isoDepRoute ← document.get 2 "default_isodep_route" Document.byte? usual.isoDepRoute
  let matching ← document.get 3 "aid_matching_mode" AidMatching.ofDocument? usual.matching
  let offHostPowerState ←
    document.get 4 "offhost_aid_power_state" Document.byte? usual.offHostPowerState
  let hostListenTech ← document.get 5 "host_listen_tech" Document.mask? usual.hostListenTech
  let simRoutes ← document.get 6 "offhost_route_uicc" Document.bytes? usual.simRoutes
  let eseRoutes ← document.get 7 "offhost_route_ese" Document.bytes? usual.eseRoutes
  return { defaultRoute, offHostRoute, isoDepRoute, matching, offHostPowerState, hostListenTech,
           simRoutes, eseRoutes }

def RoutingConfig.toDocument (routing : RoutingConfig) : Document :=
  .record [
    ("default_route", .ofByte routing.defaultRoute),
    ("default_offhost_route", .ofByte routing.offHostRoute),
    ("default_isodep_route", .ofByte routing.isoDepRoute),
    ("aid_matching_mode", .text routing.matching.name),
    ("offhost_aid_power_state", .ofByte routing.offHostPowerState),
    ("host_listen_tech", .text routing.hostListenTech.text),
    ("offhost_route_uicc", .ofBytes routing.simRoutes),
    ("offhost_route_ese", .ofBytes routing.eseRoutes)]

def PipeConfig.ofDocument? (document : Document) : Option PipeConfig := do
  guard (document.fits 2)
  let usual : PipeConfig := {}
  let ese ← document.get 0 "ese_pipe" Document.byte? usual.ese
  let sim ← document.get 1 "sim_pipe" Document.byte? usual.sim
  return { ese, sim }

def PipeConfig.toDocument (pipes : PipeConfig) : Document :=
  .record [("ese_pipe", .ofByte pipes.ese), ("sim_pipe", .ofByte pipes.sim)]

def Config.ofDocument? (document : Document) : Option Config := do
  guard (document.fits 10)
  let usual : Config := {}
  let tagTimeouts ← document.get 0 "tag_timeouts" TagTimeouts.ofDocument? usual.tagTimeouts
  let waitTimeout ← document.get 1 "default_timeout_ms" Document.long? usual.waitTimeout
  let routingTimeout ← document.get 2 "ce_timeout_ms" Document.long? usual.routingTimeout
  let presenceDelay ← document.get 3 "presence_check_delay_ms" Document.long? usual.presenceDelay
  let discoveryDuration ←
    document.get 4 "discovery_duration_ms" Document.word? usual.discoveryDuration
  let readerModeDuration ←
    document.get 5 "reader_mode_discovery_duration_ms" Document.word? usual.readerModeDuration
  let isoDepLimit ← document.get 6 "iso_dep_max_transceive" Document.long? usual.isoDepLimit
  let presenceOption ← document.get 7 "presence_check_option" Document.byte? usual.presenceOption
  let routing ← document.get 8 "routing" RoutingConfig.ofDocument? usual.routing
  let pipes ← document.get 9 "hci" PipeConfig.ofDocument? usual.pipes
  return { tagTimeouts, waitTimeout, routingTimeout, presenceDelay, discoveryDuration,
           readerModeDuration, isoDepLimit, presenceOption, routing, pipes }

def Config.toDocument (config : Config) : Document :=
  .record [
    ("tag_timeouts", config.tagTimeouts.toDocument),
    ("default_timeout_ms", .ofLong config.waitTimeout),
    ("ce_timeout_ms", .ofLong config.routingTimeout),
    ("presence_check_delay_ms", .ofLong config.presenceDelay),
    ("discovery_duration_ms", .ofWord config.discoveryDuration),
    ("reader_mode_discovery_duration_ms", .ofWord config.readerModeDuration),
    ("iso_dep_max_transceive", .ofLong config.isoDepLimit),
    ("presence_check_option", .ofByte config.presenceOption),
    ("routing", config.routing.toDocument),
    ("hci", config.pipes.toDocument)]

end NfcStack
