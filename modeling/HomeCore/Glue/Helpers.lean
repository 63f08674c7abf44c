import HomeCore.Devices.Registration

/-! Helper devices, which homeCore makes for itself: how one is created through the
API or from its file, and the record and schema it starts with. -/
namespace HomeCore.Glue

def pluginId : String := "core.glue"

/-- Each type of helper, the prefix of its ids and its device type. -/
def types : List (String × String × String) :=
  [("switch", "switch_", "switch"), ("timer", "timer_", "timer"), ("counter", "counter_", "counter"),
    ("number", "number_", "number"), ("select", "select_", "select"), ("text", "text_", "text"),
    ("button", "button_", "button"), ("datetime", "datetime_", "datetime"),
    ("group", "group_", "group"), ("threshold", "threshold_", "threshold"),
    ("schedule", "schedule_", "schedule")]

/-- An attribute of a new helper. -/
inductive Initial where
  | fixed (attr : String) (value : Json)
  /-- A setting under the key `key`, with the value it has where it is not given. -/
  | setting (attr key : String) (otherwise : Json)
  | optional (key : String)
  /-- The first of the options. -/
  | firstOption (attr : String)

def Initial.value (config : AttrMap) : Initial → Option (String × Json)
  | .fixed attr value => some (attr, value)
  | .setting attr key otherwise => some (attr, config[key]?.getD otherwise)
  | .optional key => config[key]?.map (key, ·)
  | .firstOption attr =>
    match config["options"]? with
    | some (.arr (first :: _)) => some (attr, first)
    | _ => some (attr, .str "")

def initials (glueType : String) : List Initial :=
  match glueType with
  | "switch" => [.fixed "on" (.bool false)]
  | "timer" => [.fixed "state" (.str "idle"), .fixed "duration_secs" (.num (.posInt 0)),
      .fixed "remaining_secs" (.num (.posInt 0)), .fixed "repeat" (.bool false)]
  | "counter" => [.fixed "count" (.num (.posInt 0)), .setting "step" "step" (.num (.posInt 1)),
      .optional "min", .optional "max"]
  | "number" => [.setting "value" "value" (.num (.float 0)), .setting "min" "min" (.num (.float 0)),
      .setting "max" "max" (.num (.float 100)), .setting "step" "step" (.num (.float 1)),
      .optional "unit"]
  | "select" => [.firstOption "selected", .setting "options" "options" (.arr [])]
  | "text" => [.fixed "value" (.str ""), .optional "max_length"]
  | "button" => [.fixed "last_pressed" .null]
  | "datetime" => [.fixed "value" (.str ""), .setting "has_date" "has_date" (.bool true),
      .setting "has_time" "has_time" (.bool true)]
  | "group" => [.fixed "on" (.bool false), .setting "member_ids" "members" (.arr []),
      .setting "attribute" "attribute" (.str "on"), .setting "mode" "mode" (.str "any"),
      .setting "expect" "expect" (.bool true), .fixed "active_count" (.num (.posInt 0)),
      .fixed "member_count" (.num (.posInt 0))]
  | "threshold" => [.fixed "above" (.bool false),
      .setting "source_device_id" "source_device_id" (.str ""),
      .setting "source_attribute" "source_attribute" (.str "value"),
      .setting "threshold" "threshold" (.num (.float 0)),
      .setting "hysteresis" "hysteresis" (.num (.float 0))]
  | "schedule" => [.fixed "active" (.bool false), .setting "blocks" "blocks" (.arr [])]
  | _ => []

def attributesFor (glueType : String) (config : AttrMap) : AttrMap :=
  Std.ExtTreeMap.ofList ((initials glueType).filterMap (·.value config))

/-- The prefix is added where the id lacks it. -/
def prefixed (idPrefix id : String) : String :=
  if idPrefix.toList.isPrefixOf id.toList then id else idPrefix ++ id

def newDevice (now : DateTime) (deviceId name deviceType : String) (attributes : AttrMap) :
    DeviceState :=
  { DeviceState.new deviceId name pluginId now with
    deviceType := some deviceType
    available := true
    attributes := attributes }

section Store
variable {Schema : Type} (forDevice : String → Option String → Option Schema)

/-- A device that has its schema keeps it. -/
def ensureDeviceSchema (home : HomeStore Schema) (device : DeviceState) : HomeStore Schema :=
  if home.schemas.contains device.deviceId then home
  else match forDevice device.pluginId device.deviceType with
    | none => home
    | some schema => home.putSchema device.deviceId schema

def upsertDeviceWithSchema (home : HomeStore Schema) (device : DeviceState) : HomeStore Schema :=
  let named := withCanonicalName home.devices.listDevices device
  ensureDeviceSchema forDevice { home with devices := home.devices.upsert named } named

structure CreateGlueBody where
  glueType : String
  id : String
  name : String
  config : AttrMap

inductive GlueRefusal where
  | unknownType (glueType : String)
  | exists_
  deriving DecidableEq

def GlueRefusal.text : GlueRefusal → String
  | .unknownType glueType => s!"unknown glue type: {glueType}"
  | .exists_ => "device already exists"

/-- `create_glue`, up to the first evaluation of a group. -/
def createGlue (now : DateTime) (home : HomeStore Schema) (body : CreateGlueBody) :
    HomeStore Schema × Except GlueRefusal String :=
  match types.find? (·.1 == body.glueType) with
  | none => (home, .error (.unknownType body.glueType))
  | some (_, idPrefix, deviceType) =>
    let deviceId := prefixed idPrefix body.id
    if (home.devices.getDevice deviceId).isSome then (home, .error .exists_)
    else
      let device := newDevice now deviceId body.name deviceType
        (attributesFor body.glueType body.config)
      (upsertDeviceWithSchema forDevice home device, .ok deviceId)

/-- The attributes of a helper that a change of its settings leaves as they are. -/
def runtimeKeysFor (glueType : String) : List String :=
  match glueType with
  | "switch" => ["on"]
  | "timer" => ["state", "duration_secs", "remaining_secs", "started_at", "repeat"]
  | "counter" => ["count"]
  | "number" => ["value"]
  | "select" => ["selected"]
  | "text" => ["value"]
  | "button" => ["last_pressed"]
  | "datetime" => ["value"]
  | "group" => ["on", "active_count", "member_count"]
  | "threshold" => ["above", "source_value"]
  | "schedule" => ["active"]
  | _ => []

/-- An entry of the helpers' file, with the attributes its settings make. -/
structure GlueEntry where
  glueType : String
  id : String
  name : String
  overrideFromConfig : Bool
  attributes : AttrMap

/-- One entry of the file. A helper that exists is left alone, or made afresh
with the runtime attributes it had. -/
def seedEntry (now : DateTime) (home : HomeStore Schema) (entry : GlueEntry) : HomeStore Schema :=
  match types.find? (·.1 == entry.glueType) with
  | none => home
  | some (_, idPrefix, _) =>
    let deviceId := prefixed idPrefix entry.id
    match home.devices.getDevice deviceId with
    | none =>
      upsertDeviceWithSchema forDevice home
        (newDevice now deviceId entry.name entry.glueType entry.attributes)
    | some old =>
      if entry.overrideFromConfig then
        let attributes := (runtimeKeysFor entry.glueType).foldl (fun attributes key =>
          (old.attributes[key]?).elim attributes (attributes.insert key ·)) entry.attributes
        upsertDeviceWithSchema forDevice home
          (newDevice now deviceId entry.name entry.glueType attributes)
      else home

end Store
end HomeCore.Glue
