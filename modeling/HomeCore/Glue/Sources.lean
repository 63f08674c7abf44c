import HomeCore.Engine.ChangeTimes
import HomeCore.Glue.Helpers

/-! Groups and thresholds, which say something about other devices: how they are worked out, and
what their manager hears of the devices they depend on. It listens to the bus of raw messages; the
bridge and the helpers announce changes on the other. -/
namespace HomeCore.Glue
open HomeCore.Engine

def groupIdPrefix : String := "group_"

def thresholdIdPrefix : String := "threshold_"

def startsWith (start text : String) : Bool := start.toList.isPrefixOf text.toList

/-- A group or a threshold. -/
def isReactive (deviceId : String) : Bool :=
  startsWith groupIdPrefix deviceId || startsWith thresholdIdPrefix deviceId

/-! ## Groups -/

def isTruthy : Json → Bool
  | .bool b => b
  | .num n => n.asF64 ≠ 0
  | .str s => s ∈ ["true", "on", "open", "online", "active", "running", "locked"]
  | _ => false

namespace Group

def memberIds (attributes : AttrMap) : List String :=
  match attributes["member_ids"]? with
  | some (.arr items) => items.filterMap Json.asStr
  | _ => []

/-- A member is stored under its id, or under the name that rules know it by. -/
def counts (devices : List DeviceState) (attributes : AttrMap) (member : String) : Bool :=
  let attr := (attributes["attribute"]?.bind Json.asStr).getD "on"
  let expect := (attributes["expect"]?.bind Json.asBool).getD true
  let found := devices.find? fun d => d.deviceId == member || d.canonicalName == some member
  (found.bind (·.attributes[attr]?)).any (isTruthy · == expect)

def activeCount (devices : List DeviceState) (attributes : AttrMap) : Nat :=
  (memberIds attributes).countP (counts devices attributes)

def newOn (attributes : AttrMap) (active : Nat) : Bool :=
  let members := (memberIds attributes).length
  match (attributes["mode"]?.bind Json.asStr).getD "any" with
  | "all" => active = members && 0 < members
  | _ => 0 < active

/-- What a group says when `active` of its members hold the state it expects. -/
def tally (attributes : AttrMap) (active : Nat) : List (String × Json) :=
  [("on", .bool (newOn attributes active)), ("active_count", .num (.posInt active)),
    ("member_count", .num (.posInt (memberIds attributes).length))]

def recalculate (now : DateTime) (store : DeviceStore) (deviceId : String) : WriteResult :=
  match store.getDevice deviceId with
  | none => (store, [])
  | some device =>
    applyStateUpdate now store deviceId (homecoreChange now "group_recalculate")
      (withEntries (tally device.attributes (activeCount store.listDevices device.attributes)))

def handleCmd (parse : List UInt8 → Option Json) (now : DateTime) (store : DeviceStore)
    (deviceId : String) (payload : List UInt8) : WriteResult :=
  match parse payload with
  | none => (store, [])
  | some _ => recalculate now store deviceId

end Group

/-! ## Thresholds -/

namespace Threshold
variable (round : Rat → Rat) -- to the nearest double

def sourceId (attributes : AttrMap) : Option String :=
  attributes["source_device_id"]?.bind Json.asStr

def sourceValue (attributes source : AttrMap) : Option Rat :=
  source[(attributes["source_attribute"]?.bind Json.asStr).getD "value"]?.bind Json.asF64

def isAbove (attributes : AttrMap) : Bool :=
  (attributes["above"]?.bind Json.asBool).getD false

def number (attributes : AttrMap) (key : String) : Rat :=
  (attributes[key]?.bind Json.asF64).getD 0

def lower (attributes : AttrMap) : Rat :=
  round (number attributes "threshold" - round (number attributes "hysteresis" / 2))

def upper (attributes : AttrMap) : Rat :=
  round (number attributes "threshold" + round (number attributes "hysteresis" / 2))

/-- Above the line until below its lower edge, and below it until above its upper one. -/
def newAbove (attributes : AttrMap) (above : Bool) (value : Rat) : Bool :=
  if above then lower round attributes ≤ value else upper round attributes < value

def recalculate (now : DateTime) (store : DeviceStore) (deviceId : String) : WriteResult :=
  match store.getDevice deviceId with
  | none => (store, [])
  | some device =>
    let source := (sourceId device.attributes).bind store.getDevice
    match source.bind (sourceValue device.attributes ·.attributes) with
    | none => (store, [])
    | some value =>
      let above := newAbove round device.attributes (isAbove device.attributes) value
      if above = isAbove device.attributes then (store, [])
      else applyStateUpdate now store deviceId (homecoreChange now "threshold_recalculate")
        (withEntries [("above", .bool above), ("source_value", .num (.float value))])

end Threshold

/-! ## The manager -/

structure GlueEnv where
  readers : ChangeReaders
  parse : List UInt8 → Option Json
  rfc3339 : DateTime → String
  round : Rat → Rat

structure GlueHouse where
  bridge : StateBridge
  /-- Raw messages that the manager has not taken yet. -/
  internal : List Event
  /-- What was published on the other bus, the oldest first. -/
  published : List Event
  /-- What each threshold said at the start. -/
  flags : String → Bool

/-- A timer's own writes. -/
inductive TimerEdit where
  | setState (newState : String) (extra : List (String × Json)) (change : DeviceChange)
  | fire
  | resetForRepeat (durationSecs : Nat)

/-- A device that is neither a group nor a threshold. -/
abbrev SourceId := { deviceId : String // isReactive deviceId = false }

inductive GlueInput where
  /-- The bridge handles a report. -/
  | report (now : DateTime) (failing : Option StoreCall) (device : SourceId) (payload : List UInt8)
      (isPartial : Bool)
  /-- A helper answers a command, whichever it is. -/
  | helper (now : DateTime) (device : SourceId) (change : DeviceChange) (mutate : AttrMap → AttrMap)
  | timer (now : DateTime) (device : SourceId) (edit : TimerEdit)
  /-- The manager takes the next event. -/
  | take (now : DateTime)

section Manager
variable (env : GlueEnv)

def TimerEdit.perform (now : DateTime) (store : DeviceStore) (deviceId : String) :
    TimerEdit → WriteResult
  | .setState newState extra change =>
    Engine.setState now env.rfc3339 store deviceId newState extra change
  | .fire => fireTimer now store deviceId
  | .resetForRepeat durationSecs => Engine.resetForRepeat now env.rfc3339 store deviceId durationSecs

/-- What an input leaves in the store and announces. -/
def GlueInput.write (bridge : StateBridge) : GlueInput → StateBridge × List Event
  | .report now failing device payload isPartial => match env.parse payload with
    | none => (bridge, [])
    | some incoming =>
      match bridge.handleState env.readers now failing device.val incoming isPartial with
      | (bridge, .ok events) => (bridge, events)
      | (bridge, .error _) => (bridge, [])
  | .helper now device change mutate =>
    let result := applyStateUpdate now bridge.store device.val change mutate
    ({ bridge with store := result.1 }, result.2)
  | .timer now device edit =>
    let result := edit.perform env now bridge.store device.val
    ({ bridge with store := result.1 }, result.2)
  | .take _ => (bridge, [])

/-- `homecore/devices/{id}/cmd`. -/
def parseGlueCmdTopic (topic idPrefix : String) : Option String :=
  match splitText '/' topic with
  | ["homecore", "devices", deviceId, "cmd"] =>
    if startsWith idPrefix deviceId then some deviceId else none
  | _ => none

/-- `homecore/devices/{id}/state`, and the same for a report of some attributes. -/
def stateTopic (deviceId : String) (isPartial : Bool) : String :=
  String.ofList <| List.intercalate ['/'] <|
    ["homecore".toList, "devices".toList, deviceId.toList] ++
      if isPartial then ["state".toList, "partial".toList] else ["state".toList]

/-- What one device of the list comes to when another has changed. -/
def recalculateDependent (now : DateTime) (changed : String) (written : WriteResult)
    (device : DeviceState) : WriteResult :=
  let result :=
    if startsWith groupIdPrefix device.deviceId then
      -- by id alone: a member that is stored under its name is not found
      if (Group.memberIds device.attributes).contains changed then
        Group.recalculate now written.1 device.deviceId
      else (written.1, [])
    else if startsWith thresholdIdPrefix device.deviceId then
      if Threshold.sourceId device.attributes = some changed then
        Threshold.recalculate env.round now written.1 device.deviceId
      else (written.1, [])
    else (written.1, [])
  (result.1, written.2 ++ result.2)

def recalculateDependents (now : DateTime) (store : DeviceStore) (changed : String) : WriteResult :=
  store.listDevices.foldl (recalculateDependent env now changed) (store, [])

namespace GlueHouse

def start (bridge : StateBridge) : GlueHouse where
  bridge := bridge
  internal := []
  published := []
  flags deviceId := (bridge.store.getDevice deviceId).any (Threshold.isAbove ·.attributes)

def writes (house : GlueHouse) (result : WriteResult) : GlueHouse :=
  { house with
    bridge := { house.bridge with store := result.1 }
    published := house.published ++ result.2 }

/-- The manager's answer to an event. Commands to helpers of other kinds are left to `helper`. -/
def react (now : DateTime) (house : GlueHouse) : Event → GlueHouse
  | .mqttMessage _ topic payload _ => match parseGlueCmdTopic topic groupIdPrefix with
    | some deviceId => house.writes (Group.handleCmd env.parse now house.bridge.store deviceId payload)
    | none => house
  | .deviceStateChanged _ deviceId .. =>
    if isReactive deviceId then house
    else house.writes (recalculateDependents env now house.bridge.store deviceId)
  | _ => house

/-- The raw message that an input arrives in. -/
def arrival : GlueInput → List Event
  | .report now _ device payload isPartial =>
    [.mqttMessage now (stateTopic device.val isPartial) payload false]
  | _ => []

def step (house : GlueHouse) : GlueInput → GlueHouse
  | .take now => match house.internal with
    | [] => house
    | event :: later => react env now { house with internal := later } event
  | input =>
    let written := input.write env house.bridge
    { house with
      bridge := written.1
      internal := house.internal ++ arrival input
      published := house.published ++ written.2 }

/-- The manager has taken everything that it heard. -/
def handled (now : DateTime) (house : GlueHouse) : GlueHouse :=
  house.internal.foldl (react env now) { house with internal := [] }

end GlueHouse
end Manager

/-! ## What a house is to look like -/

/-- The value of a threshold's source that an event announces. -/
def Threshold.heardValue (attributes : AttrMap) : Event → Option Rat
  | .deviceStateChanged _ deviceId _ _ current _ _ =>
    if sourceId attributes = some deviceId then sourceValue attributes current else none
  | _ => none

/-- Its flag after all the values its source went through. -/
def Threshold.folded (round : Rat → Rat) (attributes : AttrMap) (flag : Bool) (events : List Event) :
    Bool :=
  (events.filterMap (heardValue attributes)).foldl (newAbove round attributes) flag

/-- A value on the side of the line that the threshold is on. -/
def Threshold.stays (round : Rat → Rat) (attributes : AttrMap) (value : Rat) : Prop :=
  if isAbove attributes then lower round attributes ≤ value else value ≤ upper round attributes

def Group.Fresh (devices : List DeviceState) (attributes : AttrMap) : Prop :=
  ∀ entry ∈ tally attributes (activeCount devices attributes), attributes[entry.1]? = some entry.2

/-- Groups and thresholds say what their sources come to. -/
structure GlueHouse.Tracked (env : GlueEnv) (house : GlueHouse) : Prop where
  groups : ∀ device ∈ house.bridge.store.listDevices, startsWith groupIdPrefix device.deviceId = true →
    Group.Fresh house.bridge.store.listDevices device.attributes
  thresholds : ∀ device ∈ house.bridge.store.listDevices,
    startsWith thresholdIdPrefix device.deviceId = true → Threshold.isAbove device.attributes =
      Threshold.folded env.round device.attributes (house.flags device.deviceId) house.published

/-- No group comes to have more or fewer members in the state it expects, and no threshold's source
comes to the other side of the line. -/
structure Unmoved (env : GlueEnv) (house : GlueHouse) (input : GlueInput) : Prop where
  groups : ∀ device ∈ house.bridge.store.listDevices, startsWith groupIdPrefix device.deviceId = true →
    Group.activeCount (input.write env house.bridge).1.store.listDevices device.attributes =
      Group.activeCount house.bridge.store.listDevices device.attributes
  thresholds : ∀ device ∈ house.bridge.store.listDevices,
    startsWith thresholdIdPrefix device.deviceId = true →
    ∀ value ∈ (input.write env house.bridge).2.filterMap (Threshold.heardValue device.attributes),
      Threshold.stays env.round device.attributes value

end HomeCore.Glue
