import HomeCore.Devices.StateBridge

/-! The alerts that the state of the house calls for: homeCore's own kinds and
the time rules (`desired`), what plugins report (`fromPlugins`), less what a
person ignores. Each pass works the whole set out again; the set of the last
pass only gives when an alert was raised and which batteries were low. -/
namespace HomeCore.Alerts

structure Acknowledged where
  who : String
  seenAt : DateTime
  deriving DecidableEq

inductive AlertActionTarget where
  | device
  | plugin
  deriving DecidableEq

structure AlertAction where
  label : String
  id : String
  target : AlertActionTarget
  params : Json
  confirm : Bool
  deriving DecidableEq

/-- An alert with what only screens read of it. -/
structure ActiveAlert extends Alert where
  acknowledged : Option Acknowledged
  action : Option AlertAction
  deriving DecidableEq

abbrev AlertMap := Std.ExtTreeMap String ActiveAlert

/-! ## What is stored and reported -/

structure PluginAlertKind where
  topic : String
  severity : AlertSeverity
  defaultOn : Bool
  deriving DecidableEq

structure PluginAlert where
  topic : String
  key : Option String
  reason : String
  message : Option String
  severity : Option AlertSeverity
  action : Option AlertAction
  since : Option DateTime
  deriving DecidableEq

structure AlertTopicSetting where
  pluginId : String
  topic : String
  enabled : Option Bool
  deriving DecidableEq

inductive AlertOp where
  | eq
  | ne
  | above
  | below
  deriving DecidableEq

structure AlertRule where
  id : String
  enabled : Bool
  deviceIds : List String
  attributeName : String
  value : Json
  op : AlertOp
  stateLabel : Option String
  after : Option String
  untilTime : Option String
  forMinutes : Option Nat
  severity : AlertSeverity
  deriving DecidableEq

structure AlertIgnore where
  kind : Option AlertKind
  deviceId : Option String
  ruleId : Option String
  pluginId : Option String
  topic : Option String
  key : Option String
  untilTime : Option DateTime
  deriving DecidableEq

structure Reported where
  pluginId : String
  alerts : List PluginAlert
  deriving DecidableEq

/-- The kinds each plugin declared, and what each device's plugin last said of it. -/
structure PluginAlerts where
  kinds : Std.ExtTreeMap String (List PluginAlertKind)
  reported : Std.ExtTreeMap String Reported

def PluginAlerts.kind (plugins : PluginAlerts) (pluginId topic : String) : Option PluginAlertKind :=
  plugins.kinds[pluginId]?.bind fun kinds => kinds.find? (·.topic == topic)

structure BatteryConfig where
  thresholdPct : Rat := 20
  recoverBandPct : Rat := 5

/-- All that one pass reads. Time rules are stored one to an id. -/
structure House where
  devices : DeviceStore
  rules : List AlertRule
  oneToAnId : (rules.map (·.id)).Nodup
  topics : List AlertTopicSetting
  ignores : List AlertIgnore
  plugins : PluginAlerts
  battery : BatteryConfig
  now : DateTime
  localTime : NaiveTime

/-- What an engine remembers from pass to pass. -/
structure Memory where
  offlineSince : Std.ExtTreeMap String DateTime
  heldSince : Std.ExtTreeMap String DateTime

/-- What Unicode and other crates say of characters, numbers and times of day. -/
structure Words where
  isUppercase : Char → Bool
  isAlphabetic : Char → Bool
  toLowercase : Char → List Char
  toUppercase : Char → List Char
  json : Json → String
  /-- A double rounded to a whole number. -/
  rounded : Rat → String
  /-- The sum of two doubles. -/
  add : Rat → Rat → Rat
  /-- A text read as a double, compared with a double. -/
  compare : String → Rat → Option Ordering
  /-- `%H:%M`, or else `%H:%M:%S`. -/
  timeOfDay : String → Option NaiveTime

/-! ## Words -/

/-- `str::split_whitespace`. -/
def splitWhitespace (text : List Char) : List (List Char) :=
  (text.splitOnP isWhitespace).filter (· ≠ [])

/-- A reason as it follows a name. A title or an abbreviation keeps its case. -/
def lowerFirst (words : Words) (s : String) : String :=
  let parts := splitWhitespace s.toList
  let letters := (parts.headD []).filter words.isAlphabetic
  let abbreviation := 1 < letters.length && letters.all words.isUppercase
  if abbreviation || (parts[1]?.bind List.head?).any words.isUppercase then s
  else match s.toList with
    | first :: rest => String.ofList (words.toLowercase first ++ rest)
    | [] => ""

/-- A plugin's name for a person, as far as its id says it. -/
def pluginName (words : Words) (pluginId : String) : String :=
  let id := pluginId.toList
  let bare := if "plugin.".toList.isPrefixOf id then id.drop 7 else id
  match bare with
  | first :: rest => String.ofList (words.toUppercase first ++ rest)
  | [] => pluginId

/-! ## Time rules -/

/-- Numbers are compared as numbers. -/
def sameValue (a b : Json) : Bool :=
  match a.asF64, b.asF64 with
  | some x, some y => x == y
  | _, _ => a == b

namespace AlertRule

/-- How a value compares with the rule's, where both are numbers. A text that
reads as one is one. -/
def order (words : Words) (rule : AlertRule) (actual : Json) : Option Ordering :=
  rule.value.asF64.bind fun wanted =>
    match actual.asF64 with
    | some found => some (Ord.compare found wanted)
    | none => actual.asStr.bind fun s => words.compare (String.ofList (trim s.toList)) wanted

def holds (words : Words) (rule : AlertRule) (actual : Json) : Bool :=
  match rule.op with
  | .eq => sameValue actual rule.value
  | .ne => !sameValue actual rule.value
  | .above => rule.order words actual == some .gt
  | .below => rule.order words actual == some .lt

def inWindow (words : Words) (rule : AlertRule) (now : NaiveTime) : Bool :=
  match rule.after.bind words.timeOfDay, rule.untilTime.bind words.timeOfDay with
  | none, none => true
  | some after, none => after ≤ now
  | none, some bound => now < bound
  | some after, some bound =>
    if after ≤ bound then after ≤ now && now < bound else after ≤ now || now < bound

def plain (words : Words) : Json → String
  | .str s => s
  | other => words.json other

def describe (words : Words) (rule : AlertRule) : String :=
  let value := plain words rule.value
  let state := rule.stateLabel.getD <| match rule.op with
    | .eq => rule.attributeName ++ " is " ++ value
    | .ne => rule.attributeName ++ " is not " ++ value
    | .above => rule.attributeName ++ " above " ++ value
    | .below => rule.attributeName ++ " below " ++ value
  let window := match rule.after, rule.untilTime with
    | some after, some bound => " between " ++ after ++ " and " ++ bound
    | some after, none => " after " ++ after
    | none, some bound => " before " ++ bound
    | none, none => ""
  let minutes := rule.forMinutes.elim "" fun m => " for " ++ toString m ++ " min"
  state ++ window ++ minutes

end AlertRule

/-! ## What a person ignores -/

namespace AlertIgnore

def active (ignore : AlertIgnore) (now : DateTime) : Bool :=
  ignore.untilTime.all fun bound => now < bound

def coversParts (ignore : AlertIgnore) (kind : AlertKind) (deviceId : String)
    (ruleId : Option String) (now : DateTime) : Bool :=
  ignore.active now && ignore.kind.all (· == kind) && ignore.deviceId.all (· == deviceId)
    && ignore.ruleId.all (fun r => ruleId == some r)

def covers (ignore : AlertIgnore) (alert : Alert) (now : DateTime) : Bool :=
  ignore.coversParts alert.kind alert.deviceId alert.ruleId now
    && AlertFilter.sameText ignore.pluginId alert.pluginId
    && AlertFilter.sameText ignore.topic alert.topic
    && AlertFilter.sameText ignore.key alert.key

end AlertIgnore

/-- Leave out what a person chose not to see. -/
def unignored (alerts : AlertMap) (ignores : List AlertIgnore) (now : DateTime) : AlertMap :=
  alerts.filter fun _ alert => !ignores.any (·.covers alert.toAlert now)

/-! ## Working the set out -/

/-- The alerts under their ids; a later one takes the place of an earlier. -/
def collect (alerts : List ActiveAlert) : AlertMap :=
  (∅ : AlertMap).insertMany (alerts.map fun alert => (alert.id, alert))

/-- An alert that was active keeps when it was raised. -/
def keepRaisedAt (active : AlertMap) (alert : ActiveAlert) : ActiveAlert :=
  { alert with raisedAt := (active[alert.id]?.map (·.raisedAt)).getD alert.raisedAt }

/-- Visits one after another, each with the memory that the last one left. -/
def visitAll {α : Type} (visit : Memory → α → Memory × List ActiveAlert) :
    Memory → List α → Memory × List ActiveAlert
  | memory, [] => (memory, [])
  | memory, item :: rest =>
    let (memory, found) := visit memory item
    let (memory, later) := visitAll visit memory rest
    (memory, found ++ later)

/-- `OFFLINE_AFTER`, in nanoseconds. -/
def offlineAfter : Nat := 300000000000

def since (device : DeviceState) (attr : String) : Option DateTime :=
  device.attributesChangedAt[attr]?

def isTrue (device : DeviceState) (attr : String) : Bool :=
  device.attributes[attr]? == some (.bool true)

def firstTrue (device : DeviceState) (attrs : List String) : Option String :=
  attrs.find? (isTrue device)

section Own
variable (words : Words) (house : House) (active : AlertMap) (memory : Memory) (device : DeviceState)

def builtIn (kind : AlertKind) (severity : AlertSeverity) (reason : String)
    (start : Option DateTime) : ActiveAlert where
  id := kind.asStr ++ ":" ++ device.deviceId
  kind := kind
  deviceId := device.deviceId
  ruleId := none
  message := device.effectiveName ++ ": " ++ lowerFirst words reason
  reason := reason
  severity := severity
  raisedAt := start.getD house.now
  acknowledged := none
  pluginId := none
  topic := none
  key := none
  action := none
  devicePluginId := some device.pluginId

/-- How long a device has been offline counts from when it was first seen so. -/
def noticeOffline : Memory :=
  { memory with
    offlineSince :=
      if device.available then memory.offlineSince.erase device.deviceId
      else memory.offlineSince.insertIfNew device.deviceId house.now }

def offlineAlert : Option ActiveAlert :=
  let start := memory.offlineSince[device.deviceId]?.getD house.now
  if !device.available && offlineAfter ≤ (house.now - start).toNat then
    some { builtIn words house device .offline .warning "Offline" (some start) with
      message := device.effectiveName ++ " is offline" }
  else none

def wetAlert : Option ActiveAlert :=
  (firstTrue device ["water_detected", "leak", "wet"]).map fun attr =>
    builtIn words house device .wet .critical "Wet" (since device attr)

def smokeAlert : Option ActiveAlert :=
  (firstTrue device ["smoke", "smoke_detected"]).map fun attr =>
    builtIn words house device .smoke .critical "Smoke" (since device attr)

def jammedAlert : Option ActiveAlert :=
  let said := (device.attributes["last_alert"]?.bind Json.asStr).any fun s =>
    decide ("jam".toList <:+: s.toList.map Char.toLower)
  if isTrue device "jammed" || said then
    some { builtIn words house device .jammed .critical "Jammed"
        (since device "last_alert" <|> since device "jammed") with
      message := device.effectiveName ++ " is jammed" }
  else none

def batteryPct : Option Rat :=
  ["battery_pct", "battery", "battery_level"].findSome? fun k =>
    device.attributes[k]?.bind Json.asF64

/-- A battery that was low stays low until it has recovered past the band. -/
def lowBatteryAlert : Option ActiveAlert :=
  let battery := house.battery
  let wasLow := active.contains ("low_battery:" ++ device.deviceId)
  let low := isTrue device "battery_low" || (batteryPct device).any fun p =>
    p ≤ battery.thresholdPct
      || (wasLow && p < words.add battery.thresholdPct battery.recoverBandPct)
  if low then
    let reason := (batteryPct device).elim "Battery low" fun p =>
      "Battery low (" ++ words.rounded p ++ "%)"
    some (builtIn words house device .lowBattery .warning reason
      (since device "battery_low" <|> since device "battery"))
  else none

def visitDevice : Memory × List ActiveAlert :=
  (noticeOffline house memory device,
    (offlineAlert words house memory device).toList ++ (wetAlert words house device).toList ++
    (smokeAlert words house device).toList ++ (jammedAlert words house device).toList ++
    (lowBatteryAlert words house active device).toList)

end Own

section Timed
variable (words : Words) (house : House)

def ruleAlert (rule : AlertRule) (device : DeviceState) (start : DateTime) : ActiveAlert where
  id := "rule:" ++ rule.id ++ ":" ++ device.deviceId
  kind := .rule
  deviceId := device.deviceId
  ruleId := some rule.id
  message := device.effectiveName ++ " " ++ lowerFirst words (rule.describe words)
  reason := rule.describe words
  severity := rule.severity
  raisedAt := start
  acknowledged := none
  pluginId := none
  topic := none
  key := none
  action := none
  devicePluginId := some device.pluginId

/-- The change time of an attribute says since when it is what the rule wants
only where the rule wants one value. -/
def changedAt (rule : AlertRule) (device : DeviceState) : Option DateTime :=
  if rule.op = .eq then since device rule.attributeName else none

/-- A rule that no change time speaks for counts from when the engine first saw
it hold. -/
def visitRule (memory : Memory) (item : AlertRule × String) : Memory × List ActiveAlert :=
  let (rule, deviceId) := item
  match house.devices.getDevice deviceId with
  | none => (memory, [])
  | some device =>
    let id := "rule:" ++ rule.id ++ ":" ++ deviceId
    if (device.attributes[rule.attributeName]?).any (rule.holds words) then
      let changed := changedAt rule device
      let start := changed.getD (memory.heldSince[id]?.getD house.now)
      let memory :=
        if changed.isSome then memory
        else { memory with heldSince := memory.heldSince.insertIfNew id house.now }
      let held := rule.forMinutes.all fun (m : Nat) => (m : Int) * 60 ≤ (house.now - start).tdiv second
      if held && rule.inWindow words house.localTime then (memory, [ruleAlert words rule device start])
      else (memory, [])
    else ({ memory with heldSince := memory.heldSince.erase id }, [])

end Timed

/-- Every alert that the devices and the time rules call for. -/
def desired (words : Words) (house : House) (active : AlertMap) (memory : Memory) :
    Memory × AlertMap :=
  let (memory, own) := visitAll (visitDevice words house active) memory house.devices.listDevices
  let enabled := (house.rules.filter (·.enabled)).flatMap fun rule => rule.deviceIds.map (rule, ·)
  let (memory, timed) := visitAll (visitRule words house) memory enabled
  (memory, collect ((own ++ timed).map (keepRaisedAt active)))

/-! ## What plugins report -/

/-- One alert a plugin reports, of a device under the name it goes by. -/
structure Report where
  deviceId : String
  pluginId : String
  name : String
  alert : PluginAlert
  deriving DecidableEq

namespace House
variable (words : Words) (house : House)

/-- A plugin speaks for its own devices, and for itself. -/
def spokenName (deviceId pluginId : String) : Option String :=
  match house.devices.getDevice deviceId with
  | some device => if device.pluginId = pluginId then some device.effectiveName else none
  | none => if deviceId = pluginId then some (pluginName words pluginId) else none

/-- Whether the house shows a plugin's alerts of a topic. -/
def shown (pluginId topic : String) : Bool :=
  let setting := house.topics.find? fun t => t.pluginId == pluginId && t.topic == topic
  let kind := house.plugins.kind pluginId topic
  (setting.bind (·.enabled) <|> kind.map (·.defaultOn)).getD true

/-- Every alert that a plugin reports, may report and the house shows. -/
def reports : List Report :=
  house.plugins.reported.toList.flatMap fun (deviceId, reported) =>
    match house.spokenName words deviceId reported.pluginId with
    | none => []
    | some name =>
      (reported.alerts.filter fun alert => house.shown reported.pluginId alert.topic).map fun alert =>
        ⟨deviceId, reported.pluginId, name, alert⟩

/-- What the plugin says of this one alert goes before what it declared. -/
def reportedSeverity (report : Report) : AlertSeverity :=
  let kind := house.plugins.kind report.pluginId report.alert.topic
  pluginSeverity ((report.alert.severity <|> kind.map (·.severity)).getD .warning)

end House

def Report.id (report : Report) : String :=
  "plugin:" ++ report.pluginId ++ ":" ++ report.alert.topic ++ ":" ++ report.deviceId ++
    report.alert.key.elim "" (":" ++ ·)

def pluginAlert (words : Words) (house : House) (active : AlertMap) (report : Report) :
    ActiveAlert where
  id := report.id
  kind := .plugin
  deviceId := report.deviceId
  ruleId := none
  message := report.alert.message.getD
    (report.name ++ ": " ++ lowerFirst words report.alert.reason)
  reason := report.alert.reason
  severity := house.reportedSeverity report
  raisedAt := (active[report.id]?.map (·.raisedAt) <|> report.alert.since).getD house.now
  acknowledged := none
  pluginId := some report.pluginId
  topic := some report.alert.topic
  key := report.alert.key
  action := report.alert.action
  devicePluginId := some report.pluginId

def fromPlugins (words : Words) (house : House) (active : AlertMap) : AlertMap :=
  collect ((house.reports words).map (pluginAlert words house active))

/-- The whole set that one pass works out. -/
def workOut (words : Words) (house : House) (active : AlertMap) (memory : Memory) :
    Memory × AlertMap :=
  let (memory, after) := desired words house active memory
  (memory, unignored (after ∪ fromPlugins words house active) house.ignores house.now)

end HomeCore.Alerts
