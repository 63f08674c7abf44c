import HomeCore.Engine.Conditions
import HomeCore.Modes.ModeFile

/-! When an attribute last changed, as it is kept twice: in the engine's memory, by the events it hears,
and in the record, by whoever writes it. A write and what the engine hears of it are taken together,
each with its own clock reading; between two of them the engine may be started again. -/
namespace HomeCore.Engine

def homecoreChange (now : DateTime) (source : String) : DeviceChange :=
  ⟨now, .homecore, some source, none, none, none⟩

/-- Attribute names that moved, the removed ones last. -/
def movedKeys (previous current : AttrMap) : List String :=
  (current.keys.filter fun key => previous[key]? != current[key]?) ++
    previous.keys.filter fun key => !current.contains key

def stateChanged (now : DateTime) (deviceName : String) (before after : DeviceState)
    (change : DeviceChange) : Event :=
  .deviceStateChanged now after.deviceId (some deviceName) before.attributes after.attributes
    (movedKeys before.attributes after.attributes) change

/-- What a write leaves in the store, and publishes. -/
abbrev WriteResult := DeviceStore × List Event

/-- The record with other attributes, seen now. -/
def edited (now : DateTime) (change : DeviceChange) (mutate : AttrMap → AttrMap) (device : DeviceState) :
    DeviceState :=
  { device with
    attributes := mutate device.attributes
    lastSeen := now
    lastChange := some change }

/-- A stored record is read, its attributes are edited, and it is written back and announced. -/
def rewriteRecord (now : DateTime) (store : DeviceStore) (deviceId : String) (change : DeviceChange)
    (mutate : AttrMap → AttrMap) (tell : DeviceState → DeviceState → List Event) : WriteResult :=
  match store.getDevice deviceId with
  | none => (store, [])
  | some device =>
    let after := edited now change mutate device
    (store.upsert after, announcement now (store.writeKind after) after ++ tell device after)

/-! ## Helper devices -/

def publishStateChange (now : DateTime) (change : DeviceChange) (before after : DeviceState) : List Event :=
  if (movedKeys before.attributes after.attributes).isEmpty then []
  else [stateChanged now after.name before after change]

def applyStateUpdate (now : DateTime) (store : DeviceStore) (deviceId : String) (change : DeviceChange)
    (mutate : AttrMap → AttrMap) : WriteResult :=
  rewriteRecord now store deviceId change mutate (publishStateChange now change)

/-- The settings of a helper that may be changed. -/
def glueConfigKeys (deviceType : String) : List String :=
  match deviceType with
  | "counter" => ["step", "min", "max"]
  | "number" => ["min", "max", "step", "unit"]
  | "select" => ["options"]
  | "text" => ["max_length"]
  | "datetime" => ["has_date", "has_time"]
  | "group" => ["member_ids", "attribute", "mode", "expect"]
  | "threshold" => ["source_device_id", "source_attribute", "threshold", "hysteresis"]
  | "timer" => ["duration_secs", "repeat"]
  | "schedule" => ["blocks"]
  | _ => []

def optionsOf (attributes : AttrMap) : List Json :=
  match attributes["options"]? with
  | some (.arr options) => options
  | _ => []

/-- A selection that fell out of the options moves to the first of them. -/
def reselected (attributes : AttrMap) : AttrMap :=
  if (attributes["selected"]?).any (optionsOf attributes).contains then attributes
  else attributes.insert "selected" ((optionsOf attributes).headD (.str ""))

/-- The attributes under new settings, where `members` is taken for `member_ids`. -/
def configured (deviceType : String) (config attributes : AttrMap) : AttrMap :=
  let incoming := match config["members"]? with
    | some members => (config.erase "members").insert "member_ids" members
    | none => config
  let merged := (glueConfigKeys deviceType).foldl (fun attrs key =>
    (incoming[key]?).elim attrs (attrs.insert key)) attributes
  let timed := if deviceType = "timer" then
      (incoming["duration_secs"]?).elim merged (merged.insert "default_secs")
    else merged
  if deviceType = "select" then reselected timed else timed

def reconfigured (config : AttrMap) (device : DeviceState) : DeviceState :=
  { device with attributes := configured (device.deviceType.getD "") config device.attributes }

/-- `update_glue`, for settings that it accepts. -/
def updateGlue (now : DateTime) (store : DeviceStore) (deviceId : String) (config : AttrMap) :
    WriteResult :=
  match store.getDevice deviceId with
  | none => (store, [])
  | some device =>
    let after := reconfigured config device
    (store.upsert after, announcement now (store.writeKind after) after ++
      if (after.attributes.keys.filter fun key => device.attributes[key]? != after.attributes[key]?).isEmpty
      then []
      else [stateChanged now after.effectiveName device after (homecoreChange now "helper_settings")])

/-! ## Timers -/

def withEntries (entries : List (String × Json)) (attributes : AttrMap) : AttrMap :=
  entries.foldl (fun attributes entry => attributes.insert entry.1 entry.2) attributes

section Timers
variable (now : DateTime) (rfc3339 : DateTime → String) (store : DeviceStore) (deviceId : String)

/-- The attributes of a timer in its new state, and those that go with it. -/
def timerAttributes (newState : String) (extra : List (String × Json)) (attributes : AttrMap) : AttrMap :=
  let attributes := attributes.insert "state" (.str newState)
  withEntries extra
    (if newState = "running" then attributes.insert "started_at" (.str (rfc3339 now)) else attributes)

def firedAttributes (attributes : AttrMap) : AttrMap :=
  (attributes.insert "state" (.str "finished")).insert "remaining_secs" (.num (.posInt 0))

def repeatedAttributes (durationSecs : Nat) (attributes : AttrMap) : AttrMap :=
  withEntries [("state", .str "running"), ("started_at", .str (rfc3339 now)),
    ("remaining_secs", .num (.posInt durationSecs)), ("duration_secs", .num (.posInt durationSecs))]
    attributes

def setState (newState : String) (extra : List (String × Json)) (change : DeviceChange) : WriteResult :=
  rewriteRecord now store deviceId change (timerAttributes now rfc3339 newState extra)
    fun before after => [stateChanged now after.effectiveName before after change,
      .timerStateChanged now deviceId newState]

def fireTimer : WriteResult :=
  let change := homecoreChange now "timer_manager"
  rewriteRecord now store deviceId change firedAttributes
    fun before after => [stateChanged now after.effectiveName before after change,
      .timerStateChanged now deviceId "finished"]

def resetForRepeat (durationSecs : Nat) : WriteResult :=
  let change := homecoreChange now "timer_manager"
  rewriteRecord now store deviceId change (repeatedAttributes now rfc3339 durationSecs)
    fun before after => [stateChanged now after.effectiveName before after change]

end Timers

/-! ## Modes -/

def modePluginId : String := "core.mode"

def modeKindText : ModeKind → String
  | .solar => "solar"
  | .manual => "manual"

def minutesJson (minutes : Int) : Json :=
  if 0 ≤ minutes then .num (.posInt minutes.toNat) else .num (.negInt minutes)

/-- The attributes of a mode; `times` are today's of a solar one that has both its edges. -/
def modeAttributes (mode : ModeConfig) (on : Bool) (times : List (String × Json)) (attributes : AttrMap) :
    AttrMap :=
  let attributes := (attributes.insert "on" (.bool on)).insert "kind" (.str (modeKindText mode.kind))
  match mode.kind with
  | .manual => attributes
  | .solar =>
    let attributes := (attributes.insert "on_offset_minutes" (minutesJson mode.onOffsetMinutes)).insert
      "off_offset_minutes" (minutesJson mode.offOffsetMinutes)
    withEntries times attributes

/-- The record that `write_mode_state` starts from. -/
def modeRecord (now : DateTime) (store : DeviceStore) (mode : ModeConfig) : DeviceState :=
  let device := (store.getDevice mode.id).getD (.new mode.id mode.name modePluginId now)
  { device with deviceType := device.deviceType.or (some "mode") }

/-- A record with the state of the mode. -/
def modeState (now : DateTime) (mode : ModeConfig) (on : Bool) (times : List (String × Json))
    (change : DeviceChange) (device : DeviceState) : DeviceState :=
  { device with
    attributes := modeAttributes mode on times device.attributes
    lastSeen := now
    available := true
    lastChange := some change }

def writeModeState (now : DateTime) (store : DeviceStore) (mode : ModeConfig) (on : Bool)
    (times : List (String × Json)) (change : Option DeviceChange) : WriteResult :=
  let before := modeRecord now store mode
  let change := change.getD (homecoreChange now "mode_manager")
  let after := withCanonicalName store.listDevices (modeState now mode on times change before)
  let switched := (movedKeys before.attributes after.attributes).contains "on"
  (store.upsert after, announcement now (store.writeKind after) after ++
    (if switched then
      [.modeChanged now mode.id mode.name on,
        .custom now "mode_changed" (.obj [("mode_id", .str mode.id), ("on", .bool on)])]
    else []) ++
    [stateChanged now mode.name before after change])

/-! ## Whether a device is there -/

def seenAs (now : DateTime) (available : Bool) (device : DeviceState) : DeviceState :=
  { device with available := available, lastSeen := now }

def handleAvailability (now : DateTime) (store : DeviceStore) (deviceId : String) (available : Bool) :
    WriteResult :=
  let known := (store.getDevice deviceId).or
    (if store.isForgotten deviceId then none else some (StateBridge.newDevice now deviceId))
  match known with
  | none => (store, [])
  | some device =>
    let after := withCanonicalName store.listDevices (seenAs now available device)
    (store.upsert after, announcement now (store.writeKind after) after ++
      if device.available = available then []
      else [.deviceAvailabilityChanged now deviceId (some after.effectiveName) available])

/-! ## The engine beside them -/

structure TimedHouse where
  bridge : StateBridge
  cache : EngineCache

inductive ChangeInput where
  /-- A command seen on its way to a device. -/
  | command (now : DateTime) (deviceId : String) (payload : Json)
  | report (now heard : DateTime) (failing : Option StoreCall) (deviceId : String) (incoming : Json)
      (isPartial : Bool)
  | availability (now : DateTime) (deviceId : String) (available : Bool)
  | helper (now heard : DateTime) (deviceId : String) (change : DeviceChange) (mutate : AttrMap → AttrMap)
  | settings (now heard : DateTime) (deviceId : String) (config : AttrMap)
  | timer (now heard : DateTime) (deviceId newState : String) (extra : List (String × Json))
      (change : DeviceChange)
  | timerFires (now heard : DateTime) (deviceId : String)
  | timerRepeats (now heard : DateTime) (deviceId : String) (durationSecs : Nat)
  | mode (now heard : DateTime) (mode : ModeConfig) (on : Bool) (times : List (String × Json))
      (change : Option DeviceChange)
  /-- The engine is started again. -/
  | restart

namespace TimedHouse

def start (bridge : StateBridge) : TimedHouse := ⟨bridge, seed bridge.store.listDevices⟩

/-- A write is made, and the engine hears of it. -/
def wrote (house : TimedHouse) (heard : DateTime) (result : WriteResult) : TimedHouse where
  bridge := { house.bridge with store := result.1 }
  cache := result.2.foldl (updateCache heard) house.cache

def report (readers : ChangeReaders) (house : TimedHouse) (now heard : DateTime)
    (failing : Option StoreCall) (deviceId : String) (incoming : Json) (isPartial : Bool) : TimedHouse :=
  match house.bridge.handleState readers now failing deviceId incoming isPartial with
  | (bridge, .ok events) => ⟨bridge, events.foldl (updateCache heard) house.cache⟩
  | (bridge, .error _) => { house with bridge := bridge }

def step (readers : ChangeReaders) (rfc3339 : DateTime → String) (house : TimedHouse) :
    ChangeInput → TimedHouse
  | .command now deviceId payload =>
    { house with bridge := house.bridge.recordPendingCommandChange readers now deviceId payload }
  | .report now heard failing deviceId incoming isPartial =>
    house.report readers now heard failing deviceId incoming isPartial
  | .availability now deviceId available =>
    house.wrote now (handleAvailability now house.bridge.store deviceId available)
  | .helper now heard deviceId change mutate =>
    house.wrote heard (applyStateUpdate now house.bridge.store deviceId change mutate)
  | .settings now heard deviceId config =>
    house.wrote heard (updateGlue now house.bridge.store deviceId config)
  | .timer now heard deviceId newState extra change =>
    house.wrote heard (setState now rfc3339 house.bridge.store deviceId newState extra change)
  | .timerFires now heard deviceId => house.wrote heard (fireTimer now house.bridge.store deviceId)
  | .timerRepeats now heard deviceId durationSecs =>
    house.wrote heard (resetForRepeat now rfc3339 house.bridge.store deviceId durationSecs)
  | .mode now heard mode on times change =>
    house.wrote heard (writeModeState now house.bridge.store mode on times change)
  | .restart => start house.bridge

end TimedHouse

/-- When the engine has it that the attribute last changed. -/
def changedAt (cache : EngineCache) (deviceId attr : String) : Option DateTime :=
  cache.attrChangedAt[deviceId]?.bind fun stamps => stamps[attr]?

/-- A `TimeElapsed` condition. -/
def timeElapsedHolds (changed : Option DateTime) (now : DateTime) (durationSecs : Nat) : Bool :=
  changed.any fun changed => durationSecs ≤ ((now - changed).tdiv second).toNat

end HomeCore.Engine
