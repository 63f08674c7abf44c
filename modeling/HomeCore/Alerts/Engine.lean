import HomeCore.Alerts.Evaluator
import HomeCore.Journal
import HomeCore.Runs

/-! The alert engine beside the people and automations that acknowledge. A pass
reads the active set, works out the next one, settles the acknowledgements with
it, tells channels of new alerts, and only then publishes the difference and
puts the new set in place; an acknowledgement can land between any two of these. -/
namespace HomeCore.Alerts

/-- What the engine publishes of the active set. Those who acknowledge announce
that themselves. -/
inductive AlertEvent where
  | raised (timestamp : DateTime) (alert : ActiveAlert) (update : Bool)
  | cleared (timestamp : DateTime) (alertId deviceId : String) (alert : ActiveAlert)
  deriving DecidableEq

/-- A pass under way, with the active set it read and the one it worked out. -/
structure Pass where
  before : AlertMap
  after : AlertMap
  now : DateTime
  settled : Bool

structure AlertEngine where
  active : AlertMap
  acks : Std.ExtTreeMap String Acknowledged
  memory : Memory
  pass : Option Pass
  published : List AlertEvent

inductive Input where
  /-- A pass reads what is stored and reported, which may have changed in any way. -/
  | look (house : House)
  | settle
  | finish
  | acknowledge (id who : String) (now : DateTime)

/-- The events that tell one set from the other. -/
def announce (before after : AlertMap) (now : DateTime) : List AlertEvent :=
  ((after.toList.filter fun entry => before[entry.1]? ≠ some entry.2).map fun entry =>
    .raised now entry.2 (before.contains entry.1)) ++
  ((before.toList.filter fun entry => !after.contains entry.1).map fun entry =>
    .cleared now entry.1 entry.2.deviceId entry.2)

namespace AlertEngine

/-- An engine that has just started. -/
def fresh : AlertEngine where
  active := ∅
  acks := ∅
  memory := ⟨∅, ∅⟩
  pass := none
  published := []

/-- The alert as it now is, or `none` where no such alert is active. The first
acknowledgement stays. -/
def acknowledge (engine : AlertEngine) (id who : String) (now : DateTime) :
    Option (AlertEngine × ActiveAlert) :=
  engine.active[id]?.map fun alert =>
    if alert.acknowledged.isNone then
      let ack : Acknowledged := ⟨who, now⟩
      let seen := { alert with acknowledged := some ack }
      ({ engine with active := engine.active.insert id seen, acks := engine.acks.insert id ack }, seen)
    else (engine, alert)

def look (words : Words) (engine : AlertEngine) (house : House) : AlertEngine :=
  let (memory, after) := workOut words house engine.active engine.memory
  { engine with
    memory := memory
    pass := some { before := engine.active, after := after, now := house.now, settled := false } }

/-- Acknowledgements last as long as their alerts, and alerts carry them on. -/
def settle (engine : AlertEngine) (pass : Pass) : AlertEngine :=
  let acks := engine.acks.filter fun id _ => pass.after.contains id
  { engine with
    acks := acks
    pass := some { pass with
      after := pass.after.map fun id alert => { alert with acknowledged := acks[id]? }
      settled := true } }

def finish (engine : AlertEngine) (pass : Pass) : AlertEngine :=
  { engine with
    active := pass.after
    pass := none
    published := engine.published ++ announce pass.before pass.after pass.now }

def step (words : Words) (engine : AlertEngine) : Input → AlertEngine
  | .look house => if engine.pass.isNone then engine.look words house else engine
  | .settle => match engine.pass with
    | some pass => if pass.settled then engine else engine.settle pass
    | none => engine
  | .finish => match engine.pass with
    | some pass => if pass.settled then engine.finish pass else engine
    | none => engine
  | .acknowledge id who now => ((engine.acknowledge id who now).map (·.1)).getD engine

def activeIds (engine : AlertEngine) : Finset String := engine.active.keys.toFinset

end AlertEngine

/-- What an event says of the set of active ids. -/
def AlertEvent.change : AlertEvent → Journal.Change String
  | .raised _ alert update => if update then .changed alert.id else .added alert.id
  | .cleared _ alertId _ _ => .removed alertId

end HomeCore.Alerts
