import HomeCore.Types.Device

/-! Alerts and the filters by which an automation names them. -/
namespace HomeCore

inductive AlertSeverity where
  | info
  | warning
  | error
  | critical
  deriving DecidableEq, Repr

/-- The highest severity a plugin may raise is an error. -/
def pluginSeverity : AlertSeverity → AlertSeverity
  | .critical => .error
  | other => other

def severityRank : AlertSeverity → Nat
  | .info => 0
  | .warning => 1
  | .error => 2
  | .critical => 3

inductive AlertKind where
  | wet
  | smoke
  | offline
  | jammed
  | lowBattery
  | rule
  | plugin
  deriving DecidableEq, Repr

def AlertKind.asStr : AlertKind → String
  | .wet => "wet"
  | .smoke => "smoke"
  | .offline => "offline"
  | .jammed => "jammed"
  | .lowBattery => "low_battery"
  | .rule => "rule"
  | .plugin => "plugin"

/-- An alert as far as filters, triggers and loops read it. -/
structure Alert where
  id : String
  kind : AlertKind
  deviceId : String
  ruleId : Option String
  message : String
  reason : String
  severity : AlertSeverity
  raisedAt : DateTime
  pluginId : Option String
  topic : Option String
  key : Option String
  devicePluginId : Option String
  deriving DecidableEq

structure AlertFilter where
  kind : Option AlertKind := none
  pluginId : Option String := none
  topic : Option String := none
  deviceIds : List String := []
  minSeverity : Option AlertSeverity := none
  key : Option String := none
  ruleId : Option String := none
  deriving DecidableEq

def deletedRule : String := "DELETED:"

def alertDeleted : String := "its alert was deleted — choose another trigger or delete it"

namespace AlertFilter

/-- The filter names a time rule that has since been deleted. -/
def ruleDeleted (filter : AlertFilter) : Bool :=
  filter.ruleId.any fun r => deletedRule.toList.isPrefixOf r.toList

def sameText (want found : Option String) : Bool :=
  want.all fun w => found == some w

/-- `AlertFilter::matches`. -/
def selects (filter : AlertFilter) (a : Alert) : Bool :=
  let plugin := a.pluginId <|> a.devicePluginId
  filter.kind.all (· == a.kind)
    && filter.pluginId.all (fun w => plugin == some w)
    && sameText filter.topic a.topic
    && sameText filter.key a.key
    && sameText filter.ruleId a.ruleId
    && (filter.deviceIds.isEmpty || filter.deviceIds.contains a.deviceId)
    && filter.minSeverity.all (fun m => severityRank m ≤ severityRank a.severity)

end AlertFilter
end HomeCore
