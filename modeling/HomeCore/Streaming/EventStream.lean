import HomeCore.Accounts.Users
import HomeCore.Devices.Registration
import HomeCore.Outputs

/-! The event stream of one connection: the house as it stands, for a client that asked for it or
that fell behind, and the events that pass its filters. A send that fails ends the stream as a
close does. -/
namespace HomeCore.EventStream
variable {Schema Room Scene Rest : Type}

/-- An event as the bus carries it; `rest` is what it holds beyond what is kept of it here, such
as the room or the scene it is about. -/
structure Published (Rest : Type) where
  event : Event
  rest : Rest

def eventDeviceId : Event → Option String
  | .deviceStateChanged _ deviceId _ _ _ _ _ | .deviceAvailabilityChanged _ deviceId _ _
  | .deviceNameChanged _ deviceId _ _ | .deviceSchemaChanged _ deviceId
  | .deviceCommandSent _ deviceId _ | .deviceBatteryLow _ deviceId _ _ _
  | .deviceBatteryRecovered _ deviceId _ _ | .deviceRemoved _ deviceId
  | .alertCleared _ _ deviceId _ => some deviceId
  | .alertRaised _ alert _ => some alert.deviceId
  | .deviceAdded _ device | .deviceMetadataChanged _ device => some device.deviceId
  | .timerStateChanged _ timerId _ => some timerId
  | _ => none

def eventTypeName : Event → String
  | .mqttMessage .. => "mqtt_message"
  | .deviceStateChanged .. => "device_state_changed"
  | .deviceAvailabilityChanged .. => "device_availability_changed"
  | .ruleFired .. => "rule_fired"
  | .sceneActivated .. => "scene_activated"
  | .pluginRegistered .. => "plugin_registered"
  | .pluginOffline .. => "plugin_offline"
  | .pluginHeartbeat .. => "plugin_heartbeat"
  | .pluginStatusChanged .. => "plugin_status_changed"
  | .deviceNameChanged .. => "device_name_changed"
  | .deviceSchemaChanged .. => "device_schema_changed"
  | .custom .. => "custom"
  | .systemAlert .. => "system_alert"
  | .ruleEvaluationFailed .. => "rule_evaluation_failed"
  | .actionFailed .. => "action_failed"
  | .deviceCommandSent .. => "device_command_sent"
  | .modeChanged .. => "mode_changed"
  | .timerStateChanged .. => "timer_state_changed"
  | .pluginCapabilities .. => "plugin_capabilities"
  | .deviceBatteryLow .. => "device_battery_low"
  | .deviceBatteryRecovered .. => "device_battery_recovered"
  | .deviceAdded .. => "device_added"
  | .deviceRemoved .. => "device_removed"
  | .deviceMetadataChanged .. => "device_metadata_changed"
  | .roomChanged .. => "room_changed"
  | .roomRemoved .. => "room_removed"
  | .sceneChanged .. => "scene_changed"
  | .sceneRemoved .. => "scene_removed"
  | .ruleChanged .. => "rule_changed"
  | .ruleRemoved .. => "rule_removed"
  | .alertRaised .. => "alert_raised"
  | .alertCleared .. => "alert_cleared"
  | .alertAcknowledged .. => "alert_acknowledged"
  | .pluginAlerts .. => "plugin_alerts"

def normalizeNativeDeviceType (device : DeviceState) : DeviceState :=
  { device with deviceType := device.deviceType.map canonicalDeviceTypeName }

/-- A device inside an event, shaped as `GET /devices` shapes it. -/
def normalizeEvent (published : Published Rest) : Published Rest :=
  match published.event with
  | .deviceAdded timestamp device =>
    { published with event := .deviceAdded timestamp (normalizeNativeDeviceType device) }
  | .deviceMetadataChanged timestamp device =>
    { published with event := .deviceMetadataChanged timestamp (normalizeNativeDeviceType device) }
  | _ => published

/-! ## The house as it stands -/

/-- What the reads of a snapshot find; `none` where a read fails, and no alerts where no engine
keeps them. -/
structure House (Schema Room Scene : Type) where
  schemas : Option (Std.ExtTreeMap String Schema)
  devices : Option (List DeviceState)
  rooms : Option (List Room)
  scenes : Option (List Scene)
  alerts : Option (List Alert)

structure Snapshot (Schema Room Scene : Type) where
  timestamp : DateTime
  devices : Option (List (DeviceState × Option Schema))
  rooms : Option (List Room)
  scenes : Option (List Scene)
  alerts : Option (List Alert)

structure EventStreamQuery where
  /-- Comma-separated. -/
  eventTypes : Option String
  deviceId : Option String
  snapshot : Bool

/-- What `handle_socket` is given. -/
structure Connection (Schema : Type) where
  claims : Claims
  query : EventStreamQuery
  /-- `DeviceSchema::fill_primary`. -/
  fillPrimary : Option String → Schema → Schema

/-- A section the caller may not read is left out, and not read. -/
def readSection {α : Type} (may : Bool) (read : Option α) : Option (Option α) :=
  if may then read.map some else some none

namespace Connection

def withSchema (c : Connection Schema) (schemas : Std.ExtTreeMap String Schema)
    (device : DeviceState) : DeviceState × Option Schema :=
  (device, schemas[device.deviceId]?.map (c.fillPrimary device.deviceType))

def readDevices (c : Connection Schema) (house : House Schema Room Scene) :
    Option (List (DeviceState × Option Schema)) := do
  let schemas ← house.schemas
  let devices ← house.devices
  return (devices.map normalizeNativeDeviceType).map (c.withSchema schemas)

def snapshot (c : Connection Schema) (now : DateTime) (house : House Schema Room Scene) :
    Option (Snapshot Schema Room Scene) := do
  let devices ← readSection (c.claims.hasScope "devices:read") (c.readDevices house)
  let rooms ← readSection (c.claims.hasScope "areas:read") house.rooms
  let scenes ← readSection (c.claims.hasScope "scenes:read") house.scenes
  return {
    timestamp := now
    devices
    rooms
    scenes
    alerts := if c.claims.hasScope "devices:read" then house.alerts else none }

/-! ## The filters -/

def typeFilter (c : Connection Schema) : Option (List String) :=
  c.query.eventTypes.map fun names =>
    ((splitText ',' names).map fun name => String.ofList (trim name.toList)).filter (· ≠ "")

/-- Heartbeats, and what plugins report as alerts, are for those who asked for them. -/
def isNoisy : Event → Bool
  | .pluginHeartbeat .. | .pluginAlerts .. => true
  | _ => false

def passes (c : Connection Schema) (event : Event) : Bool :=
  !(isNoisy event && c.typeFilter.isNone)
    && c.query.deviceId.all (fun wanted => eventDeviceId event == some wanted)
    && c.typeFilter.all (·.contains (eventTypeName event))

end Connection

/-! ## The socket -/

inductive Frame (Schema Room Scene Rest : Type) where
  | snapshot (missed : Option Nat) (shown : Snapshot Schema Room Scene)
  | event (published : Published Rest)
  | lagged (missed : Nat)
  | ping

/-- What the loop of the socket meets, and the changes of the house. A client that lags is told how
many events it lost, of which there is at least one. -/
inductive Input (Schema Room Scene Rest : Type) where
  | house (house : House Schema Room Scene)
  | event (published : Published Rest)
  | lagged (lost : List (Published Rest)) (now : DateTime)
  | tick
  | pong
  | ends

structure State (Schema Room Scene : Type) where
  house : House Schema Room Scene
  outstandingPing : Bool
  streaming : Bool

namespace Connection

/-- The first frame, for a client that asked for it. -/
def opening (c : Connection Schema) (now : DateTime) (house : House Schema Room Scene) :
    List (Frame Schema Room Scene Rest) :=
  if c.query.snapshot then (c.snapshot now house).toList.map (.snapshot none) else []

/-- A snapshot that cannot be read ends the stream before it began. -/
def begin (c : Connection Schema) (now : DateTime) (house : House Schema Room Scene) :
    State Schema Room Scene where
  house := house
  outstandingPing := false
  streaming := !c.query.snapshot || (c.snapshot now house).isSome

def behind (c : Connection Schema) (now : DateTime) (house : House Schema Room Scene) (missed : Nat) :
    Frame Schema Room Scene Rest :=
  match if c.query.snapshot then c.snapshot now house else none with
  | some shown => .snapshot (some missed) shown
  | none => .lagged missed

def sends (c : Connection Schema) (s : State Schema Room Scene) :
    Input Schema Room Scene Rest → List (Frame Schema Room Scene Rest)
  | .event published =>
    if s.streaming && c.passes published.event then [.event (normalizeEvent published)] else []
  | .lagged lost now =>
    if s.streaming && !lost.isEmpty then [c.behind now s.house lost.length] else []
  | .tick => if s.streaming && !s.outstandingPing then [.ping] else []
  | _ => []

end Connection

def State.step (s : State Schema Room Scene) :
    Input Schema Room Scene Rest → State Schema Room Scene
  | .house house => { s with house := house }
  | .tick =>
    -- No pong since the last ping: the socket is taken to be dead.
    if s.outstandingPing then { s with streaming := false } else { s with outstandingPing := true }
  | .pong => { s with outstandingPing := false }
  | .ends => { s with streaming := false }
  | _ => s

structure Run (Schema Room Scene Rest : Type) where
  openedAt : DateTime
  house : House Schema Room Scene
  inputs : List (Input Schema Room Scene Rest)

/-- Every frame that is sent over a run. -/
def Connection.frames (c : Connection Schema) (run : Run Schema Room Scene Rest) :
    List (Frame Schema Room Scene Rest) :=
  c.opening run.openedAt run.house ++
    Outputs.outputs State.step c.sends (c.begin run.openedAt run.house) run.inputs

/-! ## What a caller may read -/

/-- The scope for what an event is about: the one that the endpoint for it asks for. What has no
endpoint of its own is read from the log of events, for which one needs to read devices. -/
def scopeOf : Event → String
  | .roomChanged .. | .roomRemoved .. => "areas:read"
  | .sceneActivated .. | .sceneChanged .. | .sceneRemoved .. => "scenes:read"
  | .ruleFired .. | .ruleChanged .. | .ruleRemoved .. | .ruleEvaluationFailed .. | .actionFailed .. =>
    "automations:read"
  | .pluginRegistered .. | .pluginOffline .. | .pluginHeartbeat .. | .pluginStatusChanged ..
  | .pluginCapabilities .. => "plugins:read"
  | _ => "devices:read"

def covers (claims : Claims) (published : Published Rest) : Bool :=
  claims.hasScope (scopeOf published.event)

/-- The house without what the caller may not read. -/
def House.shownTo (claims : Claims) (house : House Schema Room Scene) : House Schema Room Scene where
  schemas := if claims.hasScope "devices:read" then house.schemas else none
  devices := if claims.hasScope "devices:read" then house.devices else none
  rooms := if claims.hasScope "areas:read" then house.rooms else none
  scenes := if claims.hasScope "scenes:read" then house.scenes else none
  alerts := if claims.hasScope "devices:read" then house.alerts else none

def House.after (house : House Schema Room Scene) :
    Input Schema Room Scene Rest → House Schema Room Scene
  | .house changed => changed
  | _ => house

open Classical in
/-- What the caller may see of an input. A change of the house that changes nothing for the caller
is none, nor is an event that no scope of the caller covers. -/
noncomputable def shownInput (claims : Claims) (house : House Schema Room Scene) :
    Input Schema Room Scene Rest → Option (Input Schema Room Scene Rest)
  | .house changed =>
    if changed.shownTo claims = house.shownTo claims then none
    else some (.house (changed.shownTo claims))
  | .event published => if covers claims published then some (.event published) else none
  | .lagged lost now =>
    if lost.filter (covers claims) = [] then none else some (.lagged (lost.filter (covers claims)) now)
  | other => some other

noncomputable def Run.shownTo (claims : Claims) (run : Run Schema Room Scene Rest) :
    Run Schema Room Scene Rest where
  openedAt := run.openedAt
  house := run.house.shownTo claims
  inputs := Outputs.projected House.after (shownInput claims) run.house run.inputs

/-- The two runs agree on everything that the caller's scopes cover. -/
def Agree (claims : Claims) (run other : Run Schema Room Scene Rest) : Prop :=
  run.shownTo claims = other.shownTo claims

/-- An event that the open stream forwards, and every event it lost, is one the caller may read. -/
def Readable (c : Connection Schema) (s : State Schema Room Scene) :
    Input Schema Room Scene Rest → Prop
  | .event published => s.streaming && c.passes published.event → covers c.claims published
  | .lagged lost _ => s.streaming → lost.all (covers c.claims)
  | _ => True

/-- Every input of the run is readable when it comes. -/
def Run.Readable (c : Connection Schema) (run : Run Schema Room Scene Rest) : Prop :=
  Runs.EachStep State.step (EventStream.Readable c) (c.begin run.openedAt run.house) run.inputs

end HomeCore.EventStream
