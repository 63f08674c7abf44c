import HomeCore.Devices.Naming
import HomeCore.Types.Event
import HomeCore.Types.Text

/-! State reports: how the bridge turns a payload into a stored record and the
events that announce it. A report is handled at one instant, and the calls it
makes on the store succeed unless the report says which one fails. -/
namespace HomeCore

/-- The device table, by the id each record carries, and the removed devices. -/
structure DeviceStore where
  devices : Std.ExtTreeMap String DeviceState
  forgotten : List String
  keyed : ∀ (id : String) (device : DeviceState), devices[id]? = some device → device.deviceId = id

inductive DeviceWrite where
  | added
  | metadataChanged
  | stateOnly
  deriving DecidableEq

/-- Every field but those that a state report moves. -/
def DeviceState.sameMetadata (a b : DeviceState) : Bool :=
  a.deviceId == b.deviceId && a.canonicalName == b.canonicalName && a.statusIcon == b.statusIcon &&
  a.name == b.name && a.nameOverride == b.nameOverride && a.pluginId == b.pluginId &&
  a.area == b.area && a.areaOverride == b.areaOverride && a.deviceType == b.deviceType &&
  a.uiHint == b.uiHint && a.buttonNames == b.buttonNames && a.manufacturer == b.manufacturer &&
  a.model == b.model && a.swVersion == b.swVersion && a.parentDeviceId == b.parentDeviceId

namespace DeviceStore

theorem none_keyed (id : String) (device : DeviceState)
    (found : (∅ : Std.ExtTreeMap String DeviceState)[id]? = some device) : device.deviceId = id := by
  simp at found

def getDevice (store : DeviceStore) (deviceId : String) : Option DeviceState :=
  store.devices[deviceId]?

def isForgotten (store : DeviceStore) (deviceId : String) : Bool :=
  store.forgotten.contains deviceId

def listDevices (store : DeviceStore) : List DeviceState :=
  store.devices.toList.map (·.2)

def upsert (store : DeviceStore) (device : DeviceState) : DeviceStore where
  devices := store.devices.insert device.deviceId device
  forgotten := store.forgotten
  keyed := by
    intro id found lookup
    rw [Std.ExtTreeMap.getElem?_insert] at lookup
    split at lookup
    · rename_i same
      cases lookup
      exact Std.LawfulEqCmp.eq_of_compare same
    · exact store.keyed id found lookup

def delete (store : DeviceStore) (deviceId : String) : DeviceStore where
  devices := store.devices.erase deviceId
  forgotten := store.forgotten
  keyed := by
    intro id found lookup
    rw [Std.ExtTreeMap.getElem?_erase] at lookup
    split at lookup
    · cases lookup
    · exact store.keyed id found lookup

def writeKind (store : DeviceStore) (device : DeviceState) : DeviceWrite :=
  match store.devices[device.deviceId]? with
  | none => .added
  | some previous => if previous.sameMetadata device then .stateOnly else .metadataChanged

end DeviceStore

/-- The calls of a report on the store that can fail. -/
inductive StoreCall where
  | getDevice
  | isForgotten
  | listDevices
  | upsertDevice
  deriving DecidableEq

def attempt (failing : Option StoreCall) (call : StoreCall) : Except StoreCall Unit :=
  if failing = some call then .error call else .ok ()

/-- What is read by other crates: serde's reading of a change record, whose time
defaults to now, and chrono's of a timestamp. -/
structure ChangeReaders where
  change : DateTime → Json → Option DeviceChange
  rfc3339 : String → Option DateTime

section Provenance
variable (readers : ChangeReaders) (now : DateTime)

def parseChangedAt (value : Option Json) : DateTime :=
  ((value.bind Json.asStr).bind readers.rfc3339).getD now

def classifyLegacySource (source : String) : DeviceChangeKind :=
  if source ∈ ["physical", "manual"] then .physical
  else if source ∈ ["api", "rule", "scene", "script", "builtin"] then .homecore
  else if "homecore".toList.isPrefixOf source.toList then .homecore
  else .external

/-- Commands and states carry their provenance alike: nested under `_hc`, or in
legacy fields beside the payload. -/
def extractChange (nested legacy : String) (payload : Json) : Option DeviceChange :=
  match ((payload.get "_hc").bind (·.get nested)).bind (readers.change now) with
  | some change => some change
  | none => ((payload.get legacy).bind Json.asStr).map fun source =>
      { changedAt := parseChangedAt readers now (payload.get "timestamp")
        kind := classifyLegacySource source
        source := some source
        actorId := none
        actorName := none
        correlationId := (payload.get "correlation_id").bind Json.asStr }

def extractChangeFromCommandPayload (payload : Json) : Option DeviceChange :=
  extractChange readers now "command" "source" payload

def extractChangeFromStatePayload (payload : Json) : Option DeviceChange :=
  extractChange readers now "change" "origin" payload

def isGenericPluginExternalChange (change : DeviceChange) : Bool :=
  change.kind == .external && change.correlationId.isNone && change.actorId.isNone &&
    change.actorName.isNone

/-- A command's provenance stands for a report within five whole seconds of it,
unless the report says something more than that its plugin sent it. -/
def resolveStateChange (pending : Option DeviceChange) (incoming : Json) : DeviceChange :=
  let explicit := extractChangeFromStatePayload readers now incoming
  match pending.filter fun p => (now - p.changedAt).tdiv second ≤ 5 with
  | some pending => match explicit with
    | some explicit => if isGenericPluginExternalChange explicit then pending else explicit
    | none => pending
  | none => explicit.getD (.unknown now)

end Provenance

/-- The payload without its provenance. A `timestamp` alone is a reading. -/
def stripProvenance (attrs : AttrMap) : AttrMap :=
  let stripped := ((attrs.erase "_hc").erase "origin").erase "correlation_id"
  if attrs.contains "origin" then stripped.erase "timestamp" else stripped

def applyPartialMergePatch (target patch : AttrMap) : AttrMap :=
  patch.foldl (fun target key value =>
    if value = .null then target.erase key else target.insert key value) target

def provenanceKeys : List String := ["_hc", "origin", "correlation_id"]

/-- The attributes after a report, with provenance stored by older versions dropped. -/
def reportedAttributes (stored payload : AttrMap) (isPartial : Bool) : AttrMap :=
  let readings := stripProvenance payload
  let merged := if isPartial then applyPartialMergePatch stored readings else readings
  provenanceKeys.foldl (·.erase ·) merged

/-- Attribute names that moved: added, updated or removed. -/
def changedKeys (previous current : AttrMap) : List String :=
  let changed := current.keys.filter fun key => previous[key]? != current[key]?
  changed ++ previous.keys.filter fun key => !current.contains key && !changed.contains key

def stampChanged (now : DateTime) (changed : List String) (attributes : AttrMap)
    (changedAt : Std.ExtTreeMap String DateTime) : Std.ExtTreeMap String DateTime :=
  if changed.isEmpty then changedAt
  else (changed.foldl (fun stamps key => stamps.insert key now) changedAt).filter
    fun key _ => attributes.contains key

/-- `DeviceState` as a report leaves it, before its canonical name is settled. -/
def reportedDevice (now : DateTime) (device : DeviceState) (payload : AttrMap) (isPartial : Bool)
    (change : DeviceChange) : DeviceState :=
  let attributes := reportedAttributes device.attributes payload isPartial
  { device with
    attributes := attributes
    lastSeen := now
    available := true
    lastChange := some change
    name := (((stripProvenance payload)["name"]?).bind Json.asStr).getD device.name
    attributesChangedAt :=
      stampChanged now (changedKeys device.attributes attributes) attributes
        device.attributesChangedAt }

def withCanonicalName (devices : List DeviceState) (device : DeviceState) : DeviceState :=
  if device.canonicalName.isNone then
    { device with canonicalName := some (ensureUniqueCanonicalName device devices) }
  else device

def announcement (now : DateTime) (kind : DeviceWrite) (device : DeviceState) : List Event :=
  match kind with
  | .added => [.deviceAdded now device]
  | .metadataChanged => [.deviceMetadataChanged now device]
  | .stateOnly => []

/-- What a report publishes, in order, once its record is written. -/
def reportEvents (now : DateTime) (kind : DeviceWrite) (before after : DeviceState)
    (change : DeviceChange) : List Event :=
  let changed := changedKeys before.attributes after.attributes
  announcement now kind after ++
  (if before.available then []
    else [.deviceAvailabilityChanged now after.deviceId (some after.effectiveName) true]) ++
  (if after.name = before.name then []
    else [.deviceNameChanged now after.deviceId before.name after.name]) ++
  (if changed.isEmpty then []
    else [.deviceStateChanged now after.deviceId (some after.effectiveName) before.attributes
      after.attributes changed change])

structure StateBridge where
  store : DeviceStore
  pendingCommandChanges : Std.ExtTreeMap String DeviceChange

namespace StateBridge

def recordPendingCommandChange (readers : ChangeReaders) (now : DateTime) (bridge : StateBridge)
    (deviceId : String) (command : Json) : StateBridge :=
  match extractChangeFromCommandPayload readers now command with
  | none => bridge
  | some change =>
    { bridge with pendingCommandChanges := bridge.pendingCommandChanges.insert deviceId change }

/-- `shelly_abc` is taken to be a device of the plugin `shelly`. -/
def newDevice (now : DateTime) (deviceId : String) : DeviceState :=
  .new deviceId deviceId ((splitText '_' deviceId).headD "unknown") now

/-- The record a report is about: the stored one, a new one, or none when
someone removed the device. -/
def subject (store : DeviceStore) (now : DateTime) (failing : Option StoreCall)
    (deviceId : String) : Except StoreCall (Option DeviceState) := do
  attempt failing .getDevice
  match store.getDevice deviceId with
  | some device => pure (some device)
  | none =>
    attempt failing .isForgotten
    if store.isForgotten deviceId then pure none else pure (some (newDevice now deviceId))

/-- The store calls between the merge and the events. -/
def persist (failing : Option StoreCall) (device : DeviceState) : Except StoreCall Unit := do
  if device.canonicalName.isNone then attempt failing .listDevices
  attempt failing .upsertDevice

/-- `handle_state`: the bridge afterwards, and the events published or the store
call that failed. -/
def handleState (readers : ChangeReaders) (now : DateTime) (failing : Option StoreCall)
    (bridge : StateBridge) (deviceId : String) (incoming : Json) (isPartial : Bool) :
    StateBridge × Except StoreCall (List Event) :=
  match incoming.asObject with
  | none => (bridge, .ok [])
  | some attrs => match subject bridge.store now failing deviceId with
    | .error call => (bridge, .error call)
    | .ok none => (bridge, .ok [])
    | .ok (some device) =>
      let change :=
        resolveStateChange readers now bridge.pendingCommandChanges[deviceId]? incoming
      let pending := bridge.pendingCommandChanges.erase deviceId
      match persist failing device with
      | .error call => (⟨bridge.store, pending⟩, .error call)
      | .ok () =>
        let after := withCanonicalName bridge.store.listDevices
          (reportedDevice now device attrs isPartial change)
        (⟨bridge.store.upsert after, pending⟩,
          .ok (reportEvents now (bridge.store.writeKind after) device after change))

end StateBridge

/-- The report finds its record, or may make one, and every store call it needs succeeds. -/
def Handled (store : DeviceStore) (failing : Option StoreCall) (deviceId : String) : Prop :=
  failing ≠ some .getDevice ∧ failing ≠ some .upsertDevice ∧
  match store.getDevice deviceId with
  | some device => device.canonicalName = none → failing ≠ some .listDevices
  | none => failing ≠ some .isForgotten ∧ failing ≠ some .listDevices ∧
      store.isForgotten deviceId = false

end HomeCore
