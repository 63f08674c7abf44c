import HomeCore.Alerts.Evaluator

/-! Which alerts can start an automation, as the screens show it: worked out from
a trigger's filter and from what is declared and stored, without working out an
alert. -/
namespace HomeCore.Alerts

/-- homeCore's own kinds, and how serious each is when raised. -/
def ownKinds : List (AlertKind × AlertSeverity) :=
  [(.wet, .critical), (.smoke, .critical), (.offline, .warning), (.jammed, .critical),
    (.lowBattery, .warning)]

/-- What the house knows about where alerts come from. -/
structure Sources where
  rules : List AlertRule
  kinds : Std.ExtTreeMap String (List PluginAlertKind)
  topics : List AlertTopicSetting
  ignores : List AlertIgnore
  devices : List DeviceState
  now : DateTime

inductive Source where
  | rule (rule : AlertRule)
  | own (kind : AlertKind) (severity : AlertSeverity)
  | plugin (pluginId : String) (kind : PluginAlertKind)
  deriving DecidableEq

def Source.key : Source → String
  | .rule timed => "rule:" ++ timed.id
  | .own kind _ => "kind:" ++ kind.asStr
  | .plugin pluginId kind => "plugin:" ++ pluginId ++ "/" ++ kind.topic

/-- Why an alert cannot be raised now. -/
inductive Waiting where
  /-- Its time rule is turned off, or its plugin kind set not to show. -/
  | off
  | ignored
  /-- Its time rule is gone. -/
  | deleted
  deriving DecidableEq

inductive Moment where
  | raised
  | cleared
  | acknowledged
  | activeFor
  deriving DecidableEq

structure AlertLink where
  index : Nat
  moment : Moment
  minutes : Option Nat
  filter : AlertFilter
  /-- The keys of all sources whose alerts it could match. -/
  sources : List String
  /-- Why none of them can start it; `none` while one can. -/
  waiting : Option Waiting
  deriving DecidableEq

/-- One automation, as far as alerts are concerned. -/
structure AutomationAlerts where
  id : Uuid
  name : String
  enabled : Bool
  links : List AlertLink
  otherTriggers : Nat
  /-- On, but every trigger it has is an alert that cannot be raised. -/
  waiting : Bool
  alertDeleted : Bool

/-- An alert as far as a source and a filter pin it. No devices mean any device. -/
structure Pinned where
  kind : AlertKind
  ruleId : Option String
  pluginId : Option String
  topic : Option String
  key : Option String
  devices : List String

/-- A trigger's alert filter, with what kind of moment it is. -/
def alertMoment : Trigger → Option (Moment × Option Nat × AlertFilter)
  | .alertRaised filter => some (.raised, none, filter)
  | .alertCleared filter => some (.cleared, none, filter)
  | .alertAcknowledged filter => some (.acknowledged, none, filter)
  | .alertActiveFor filter minutes => some (.activeFor, some minutes, filter)
  | _ => none

def severeEnough (filter : AlertFilter) (severity : AlertSeverity) : Bool :=
  filter.minSeverity.all fun m => severityRank m ≤ severityRank severity

namespace Sources
variable (sources : Sources)

def all : List Source :=
  sources.rules.map .rule ++ ownKinds.map (fun own => .own own.1 own.2) ++
    sources.kinds.toList.flatMap fun declared => declared.2.map (.plugin declared.1)

def pluginOf (deviceId : String) : Option String :=
  (sources.devices.find? (·.deviceId == deviceId)).map (·.pluginId)

def ofPlugin (ids : List String) (pluginId : String) : Bool :=
  ids.any fun id => id == pluginId || sources.pluginOf id == some pluginId

/-- Whether an alert from a source could match the filter. -/
def couldMatch (filter : AlertFilter) : Source → Bool
  | .rule rule =>
    let devices :=
      if filter.deviceIds.isEmpty then rule.deviceIds
      else rule.deviceIds.filter filter.deviceIds.contains
    filter.kind.all (· == .rule) && filter.topic.isNone && filter.key.isNone
      && filter.ruleId.all (· == rule.id) && !devices.isEmpty
      && filter.pluginId.all (sources.ofPlugin devices)
      && severeEnough filter rule.severity
  | .own kind severity =>
    filter.kind.all (· == kind) && filter.topic.isNone && filter.key.isNone
      && filter.ruleId.isNone
      && (filter.deviceIds.isEmpty || filter.pluginId.all (sources.ofPlugin filter.deviceIds))
      && severeEnough filter severity
  | .plugin pluginId kind =>
    filter.kind.all (· == .plugin) && filter.pluginId.all (· == pluginId)
      && filter.topic.all (· == kind.topic) && filter.ruleId.isNone
      && (filter.deviceIds.isEmpty || sources.ofPlugin filter.deviceIds pluginId)
      && severeEnough filter (pluginSeverity kind.severity)

def fits (pinned : Pinned) (ignore : AlertIgnore) : Bool :=
  ignore.active sources.now && ignore.kind.all (· == pinned.kind)
    && AlertFilter.sameText ignore.ruleId pinned.ruleId
    && AlertFilter.sameText ignore.pluginId pinned.pluginId
    && AlertFilter.sameText ignore.topic pinned.topic
    && AlertFilter.sameText ignore.key pinned.key

/-- Whether what a person ignored covers every alert so pinned. -/
def ignored (pinned : Pinned) : Bool :=
  if pinned.devices.isEmpty then
    sources.ignores.any fun ignore => sources.fits pinned ignore && ignore.deviceId.isNone
  else
    pinned.devices.all fun device => sources.ignores.any fun ignore =>
      sources.fits pinned ignore && ignore.deviceId.all (· == device)

/-- The devices whose own alerts a filter means. A plugin's are ignored when each
of them is. -/
def meant (filter : AlertFilter) : List String :=
  match filter.pluginId, filter.deviceIds.isEmpty with
  | some p, true => (sources.devices.filter (·.pluginId == p)).map (·.deviceId)
  | _, _ => filter.deviceIds

/-- Why a source cannot raise an alert like the filter's, if it cannot. -/
def waitingOn (filter : AlertFilter) : Source → Option Waiting
  | .rule rule =>
    if !rule.enabled then some .off
    else
      let devices := if filter.deviceIds.isEmpty then rule.deviceIds else filter.deviceIds
      if sources.ignored ⟨.rule, some rule.id, none, none, none, devices⟩ then some .ignored else none
  | .own kind _ =>
    if sources.ignored ⟨kind, none, none, none, none, sources.meant filter⟩ then some .ignored else none
  | .plugin pluginId kind =>
    let setting := sources.topics.find? fun t => t.pluginId == pluginId && t.topic == kind.topic
    let on := (setting.bind (·.enabled)).getD kind.defaultOn
    if !on then some .off
    else if sources.ignored ⟨.plugin, none, some pluginId, some kind.topic, filter.key,
        filter.deviceIds⟩ then some .ignored
    else none

/-- Why nothing can start a trigger of this filter, given the sources it could match. -/
def waitingFor (filter : AlertFilter) (matched : List Source) : Option Waiting :=
  match matched with
  | [] => if filter.ruleId.isSome then some .deleted else none
  | first :: _ =>
    if matched.all fun source => (sources.waitingOn filter source).isSome then
      sources.waitingOn filter first
    else none

def link (index : Nat) (trigger : Trigger) : Option AlertLink :=
  (alertMoment trigger).map fun (moment, minutes, filter) =>
    let matched := sources.all.filter (sources.couldMatch filter)
    { index, moment, minutes, filter
      sources := matched.map (·.key)
      waiting := sources.waitingFor filter matched }

/-- An automation's alert triggers; `none` where it has none. -/
def automation (rule : Rule) : Option AutomationAlerts :=
  let links := rule.allTriggers.zipIdx.filterMap fun entry => sources.link entry.2 entry.1
  if links.isEmpty then none
  else
    let otherTriggers := rule.allTriggers.length - links.length
    some
      { id := rule.id
        name := rule.name
        enabled := rule.enabled
        links := links
        otherTriggers := otherTriggers
        waiting := rule.enabled && rule.error.isNone && otherTriggers == 0 &&
          links.all (·.waiting.isSome)
        alertDeleted := links.any (·.filter.ruleDeleted) }

def automations (rules : List Rule) : List AutomationAlerts := rules.filterMap sources.automation

end Sources

/-- What the links read of the house. -/
def House.sources (house : House) : Sources where
  rules := house.rules
  kinds := house.plugins.kinds
  topics := house.topics
  ignores := house.ignores
  devices := house.devices.listDevices
  now := house.now

end HomeCore.Alerts
