import HomeCore.Devices.Rooms
import HomeCore.Devices.StateReports

/-! Messages about a device: its registration and unregistration by a plugin, its
schema, its state and its availability. Each is handled against the whole store,
whose calls succeed here. -/
namespace HomeCore

structure HistoryEntry where
  deviceId : String
  attr : String
  value : Json
  recordedAt : DateTime
  deriving DecidableEq

structure HomeStore (Schema : Type) where
  devices : DeviceStore
  areas : AreaStore
  schemas : Std.ExtTreeMap String Schema
  history : List HistoryEntry

/-- What other crates decide, the device types that were loaded at startup, and
the commands still awaiting their report. -/
structure BridgeEnv (Schema : Type) where
  readers : ChangeReaders
  /-- UUID v5 of a slug, in the URL namespace. -/
  legacyId : String → Uuid
  deviceTypes : Option (String → Option Schema)
  pendingCommandChanges : Std.ExtTreeMap String DeviceChange

/-! ## Registration payloads -/

def canonicalDeviceTypeName (typeName : String) : String :=
  match String.ofList ((trim typeName.toList).map Char.toLower) with
  | "vswitch" | "virtual_switch" => "virtual_switch"
  | "temp_sensor" => "temperature_sensor"
  | "motion" => "motion_sensor"
  | "occupancy_group" => "occupancy_sensor"
  | "shade" => "cover"
  | other => other

/-- Absent, null, empty and blank all mean that the plugin did not say. -/
def hardwareField (json : Json) (key : String) : Option String :=
  (((json.get key).bind Json.asStr).map fun text => String.ofList (trim text.toList)).filter (· ≠ "")

inductive RegistrationError where
  | missingDeviceId
  | missingName
  deriving DecidableEq

def RegistrationError.text : RegistrationError → String
  | .missingDeviceId => "registration missing device_id"
  | .missingName => "registration missing name"

structure Registration where
  deviceId : String
  name : String
  /-- As the plugin spells it. -/
  area : Option String
  manufacturer : Option String
  model : Option String
  swVersion : Option String
  parentDeviceId : Option String
  deviceType : Option String

def readRegistration (json : Json) : Except RegistrationError Registration := do
  let deviceId ← ((json.get "device_id").bind Json.asStr).elim (.error .missingDeviceId) .ok
  let name ← ((json.get "name").bind Json.asStr).elim (.error .missingName) .ok
  return {
    deviceId
    name
    area := (json.get "area").bind Json.asStr
    manufacturer := hardwareField json "manufacturer"
    model := hardwareField json "model"
    swVersion := hardwareField json "sw_version"
    -- A device cannot sit behind itself.
    parentDeviceId := (hardwareField json "parent_device_id").filter (· ≠ deviceId)
    deviceType := ((json.get "device_type").bind Json.asStr).map canonicalDeviceTypeName }

namespace Registration

/-- What a registration makes of the record it finds. -/
def update (reg : Registration) (pluginId : String) (area : Option String) (existing : DeviceState) :
    DeviceState :=
  { existing with
    pluginId := pluginId
    area := area.or existing.area
    deviceType := reg.deviceType.or existing.deviceType
    manufacturer := reg.manufacturer.or existing.manufacturer
    model := reg.model.or existing.model
    swVersion := reg.swVersion.or existing.swVersion
    parentDeviceId := reg.parentDeviceId.or existing.parentDeviceId
    name := reg.name }

def create (reg : Registration) (pluginId : String) (area : Option String) (now : DateTime) :
    DeviceState :=
  { DeviceState.new reg.deviceId reg.name pluginId now with
    area := area
    deviceType := reg.deviceType
    manufacturer := reg.manufacturer
    model := reg.model
    swVersion := reg.swVersion
    parentDeviceId := reg.parentDeviceId }

/-- The record that is written, unless someone removed the device. -/
def record (reg : Registration) (pluginId : String) (area : Option String) (now : DateTime)
    (store : DeviceStore) : Option DeviceState :=
  match store.getDevice reg.deviceId with
  | some existing => some (withCanonicalName store.listDevices (reg.update pluginId area existing))
  | none =>
    if store.isForgotten reg.deviceId then none
    else some (withCanonicalName store.listDevices (reg.create pluginId area now))

/-- The room reported for the device, made where the house has no such room. -/
def place (reg : Registration) (legacyId : String → Uuid) (random : Uuid) (store : AreaStore) :
    AreaStore × Option String × Bool :=
  match reg.area with
  | none => (store, none, false)
  | some raw => Rooms.placeReported legacyId random store raw

/-- The schema of the registered type, whose name the registry settles again. -/
def typedSchema {Schema : Type} (reg : Registration) (deviceTypes : Option (String → Option Schema)) :
    Option Schema :=
  reg.deviceType.bind fun deviceType =>
    deviceTypes.bind (· (canonicalDeviceTypeName deviceType))

end Registration

/-! ## The handlers -/

namespace HomeStore
variable {Schema : Type} (env : BridgeEnv Schema) (now : DateTime)

def putSchema (home : HomeStore Schema) (deviceId : String) (schema : Schema) : HomeStore Schema :=
  { home with schemas := home.schemas.insert deviceId schema }

/-- What the write of a registered record publishes. -/
def registeredEvents (store : DeviceStore) (device : DeviceState) : List Event :=
  announcement now (store.writeKind device) device ++
    match store.getDevice device.deviceId with
    | some existing => if existing.name = device.name then []
      else [.deviceNameChanged now device.deviceId existing.name device.name]
    | none => []

def handleDeviceRegistration (random : Uuid) (home : HomeStore Schema) (pluginId : String)
    (json : Json) : HomeStore Schema × Except RegistrationError (List Event) :=
  match readRegistration json with
  | .error missing => (home, .error missing)
  | .ok reg =>
    let (areas, area, announced) := reg.place env.legacyId random home.areas
    let roomEvents := if announced then [Event.roomChanged now] else []
    let (devices, deviceEvents) := match reg.record pluginId area now home.devices with
      | none => (home.devices, [])
      | some device => (home.devices.upsert device, registeredEvents now home.devices device)
    let registered := { home with areas := areas, devices := devices }
    match reg.typedSchema env.deviceTypes with
    | none => (registered, .ok (roomEvents ++ deviceEvents))
    | some schema =>
      (registered.putSchema reg.deviceId schema,
        .ok (roomEvents ++ deviceEvents ++ [Event.deviceSchemaChanged now reg.deviceId]))

/-- The payload as serde reads it; one that is no schema is an error. -/
def handleDeviceSchema (home : HomeStore Schema) (deviceId : String) (parsed : Option Schema) :
    HomeStore Schema × List Event :=
  match parsed with
  | none => (home, [])
  | some schema => (home.putSchema deviceId schema, [.deviceSchemaChanged now deviceId])

/-- Only the plugin that owns the device may unregister it. -/
def handleDeviceUnregistration (home : HomeStore Schema) (pluginId : String) (json : Json) :
    HomeStore Schema :=
  match (json.get "device_id").bind Json.asStr with
  | none => home
  | some deviceId =>
    if (home.devices.getDevice deviceId).any (·.pluginId != pluginId) then home
    else { home with
      devices := home.devices.delete deviceId
      schemas := home.schemas.erase deviceId }

def historyEntries (deviceId : String) (previous current : AttrMap) : List HistoryEntry :=
  (current.toList.filter fun (attr, value) => previous[attr]? != some value).map
    fun (attr, value) => ⟨deviceId, attr, value, now⟩

def handleState (home : HomeStore Schema) (deviceId : String) (incoming : Json) (isPartial : Bool) :
    HomeStore Schema :=
  let before : StateBridge := ⟨home.devices, env.pendingCommandChanges⟩
  let after := (before.handleState env.readers now none deviceId incoming isPartial).1
  { home with
    devices := after.store
    history := home.history ++
      historyEntries now deviceId (before.stored deviceId) (after.stored deviceId) }

def handleAvailability (home : HomeStore Schema) (deviceId : String) (available : Bool) :
    HomeStore Schema :=
  let seen := (home.devices.getDevice deviceId).or
    (if home.devices.isForgotten deviceId then none else some (StateBridge.newDevice now deviceId))
  match seen with
  | none => home
  | some device =>
    let device := { device with available := available, lastSeen := now }
    { home with devices := home.devices.upsert (withCanonicalName home.devices.listDevices device) }

end HomeStore

inductive BridgeMessage (Schema : Type) where
  | registration (pluginId : String) (json : Json)
  | unregistration (pluginId : String) (json : Json)
  | schema (deviceId : String) (parsed : Option Schema)
  | state (deviceId : String) (incoming : Json) (isPartial : Bool)
  | availability (deviceId : String) (available : Bool)

/-- The store after a message. -/
def HomeStore.handle {Schema : Type} (env : BridgeEnv Schema) (now : DateTime) (random : Uuid)
    (home : HomeStore Schema) : BridgeMessage Schema → HomeStore Schema
  | .registration pluginId json => (home.handleDeviceRegistration env now random pluginId json).1
  | .unregistration pluginId json => home.handleDeviceUnregistration pluginId json
  | .schema deviceId parsed => (home.handleDeviceSchema now deviceId parsed).1
  | .state deviceId incoming isPartial => home.handleState env now deviceId incoming isPartial
  | .availability deviceId available => home.handleAvailability now deviceId available

end HomeCore
