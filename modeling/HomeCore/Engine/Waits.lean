import HomeCore.Broadcast
import HomeCore.Runs
import HomeCore.Types.Event

/-! The two actions that wait on the bus: for an alert to clear, and for an event. Each subscribes,
and takes what its receiver gets until that is what it waits for, or an error. The alerts are worked
out by a task of their own, which says what it found before it writes it down. -/
namespace HomeCore.Engine
open Broadcast

/-! ## The alert -/

/-- Where an alert stands in `AlertHandle`'s map and on the bus. -/
inductive AlertPhase where
  | absent
  /-- `AlertRaised` is published; the map does not hold it yet. -/
  | announced
  | listed
  /-- `AlertCleared` is published; the map still holds it. -/
  | withdrawn
  deriving DecidableEq

namespace AlertPhase

/-- `AlertHandle::get` finds it. -/
def inMap : AlertPhase → Bool
  | listed | withdrawn => true
  | absent | announced => false

/-- It was raised, and not cleared since. -/
def isActive : AlertPhase → Bool
  | announced | listed => true
  | absent | withdrawn => false

/-- The map is written. -/
def written : AlertPhase → AlertPhase
  | announced => listed
  | withdrawn => absent
  | phase => phase

end AlertPhase

/-! ## `WaitAlertCleared` -/

inductive WaitPhase where
  | notBegun
  | subscribed (receiver : Receiver Event)
  | waiting (receiver : Receiver Event) (deadline : DateTime)
  | ended (otherwise : Bool)

structure AlertWait where
  phase : AlertPhase
  wait : WaitPhase
  /-- The alert has been active since the wait began, until it ended. -/
  activeThroughout : Bool

inductive AlertInput where
  | raise (now : DateTime) (alert : Alert)
  | clear (now : DateTime) (deviceId : String) (alert : Option Alert)
  | write
  /-- Any other event. -/
  | publish (event : Event)
  | subscribe
  /-- Whether the alert is still there. -/
  | look (now : DateTime)
  | poll (now : DateTime)

section Alerts
variable (capacity : Nat) (alertId : String) (timeoutSecs : Nat)

def isClearing : Event → Bool
  | .alertCleared _ id _ _ => id == alertId
  | _ => false

/-- A raised alert that is told again, for its words, is no other. -/
def isRaising : Event → Bool
  | .alertRaised _ alert false => alert.id == alertId
  | _ => false

def WaitPhase.hear (wait : WaitPhase) (event : Event) : WaitPhase :=
  match wait with
  | .subscribed receiver => .subscribed (receiver.send event)
  | .waiting receiver deadline => .waiting (receiver.send event) deadline
  | _ => wait

def WaitPhase.look (phase : AlertPhase) (now : DateTime) (wait : WaitPhase) : WaitPhase :=
  match wait with
  | .subscribed receiver =>
    if phase.inMap then .waiting receiver (now + timeoutSecs * second) else .ended false
  | _ => wait

/-- The receiver is asked before the clock; any error ends the loop as the event does. -/
def WaitPhase.poll (now : DateTime) (wait : WaitPhase) : WaitPhase :=
  match wait with
  | .waiting receiver deadline => match receiver.recv capacity with
    | (.message event, next) => if isClearing alertId event then .ended false else .waiting next deadline
    | (.lagged, _) => .ended false
    | (.pending, _) => if deadline ≤ now then .ended true else wait
  | _ => wait

namespace AlertWait

/-- The alert's own task and the run take their steps. -/
def move (s : AlertWait) : AlertInput → AlertWait
  | .raise now alert =>
    if s.phase = .absent ∧ alert.id = alertId then
      { s with phase := .announced, wait := s.wait.hear (.alertRaised now alert false) }
    else s
  | .clear now deviceId alert =>
    if s.phase = .listed then
      { s with phase := .withdrawn, wait := s.wait.hear (.alertCleared now alertId deviceId alert) }
    else s
  | .write => { s with phase := s.phase.written }
  | .publish event =>
    if isClearing alertId event || isRaising alertId event then s
    else { s with wait := s.wait.hear event }
  | .subscribe => match s.wait with
    | .notBegun => { s with wait := .subscribed .subscribed }
    | _ => s
  | .look now => { s with wait := s.wait.look timeoutSecs s.phase now }
  | .poll now => { s with wait := s.wait.poll capacity alertId now }

/-- What is known of the alert's activity, once a step is taken. -/
def observe (before after : AlertWait) : Bool :=
  match before.wait with
  | .notBegun => after.phase.isActive
  | .ended _ => before.activeThroughout
  | _ => before.activeThroughout && after.phase.isActive

def step (s : AlertWait) (input : AlertInput) : AlertWait :=
  let next := s.move capacity alertId timeoutSecs input
  { next with activeThroughout := s.observe next }

def start (phase : AlertPhase) : AlertWait := ⟨phase, .notBegun, phase.isActive⟩

/-- Where the wait has ended, the otherwise actions run exactly if the alert was active all along. -/
def Right (s : AlertWait) : Prop :=
  match s.wait with
  | .ended otherwise => otherwise = s.activeThroughout
  | _ => True

/-- When the alert is looked for the map tells what was said: it does not lack an alert that was
announced before the wait began, and for one that it holds and that was cleared, or was raised since
the wait began, the clearing was heard. -/
def MapTells (s : AlertWait) : Prop :=
  match s.wait with
  | .subscribed receiver => match s.phase with
    | .absent => True
    | .announced => receiver.sent.any (isRaising alertId) = true
    | .listed =>
      receiver.sent.any (isRaising alertId) = true → receiver.sent.any (isClearing alertId) = true
    | .withdrawn => receiver.sent.any (isClearing alertId) = true
  | _ => True

/-- The receiver has not lost anything, or the clearing was published since the wait began. -/
def KeepsUp (s : AlertWait) : Prop :=
  match s.wait with
  | .waiting receiver _ => receiver.Lags capacity → receiver.sent.any (isClearing alertId) = true
  | _ => True

/-- What a step needs. -/
def Safe (s : AlertWait) : AlertInput → Prop
  | .look _ => s.MapTells alertId
  | .poll _ => s.KeepsUp capacity alertId
  | _ => True

end AlertWait
end Alerts

/-! ## `WaitForEvent` -/

/-- What a `WaitForEvent` is for. -/
structure AwaitedEvent where
  eventType : Option String
  deviceId : Option String
  attr : Option String

def AwaitedEvent.matches (awaited : AwaitedEvent) : Event → Bool
  | .custom _ eventType _ => awaited.eventType == some eventType
  | .deviceStateChanged _ deviceId _ _ current _ _ =>
    awaited.deviceId == some deviceId && awaited.attr.all (current.contains ·)
  | _ => false

inductive EventWait where
  | notBegun
  | waiting (receiver : Receiver Event)
  /-- With what had been published since it began. -/
  | resumed (sent : List Event)

inductive EventInput where
  | publish (event : Event)
  | subscribe
  | poll

namespace EventWait
variable (capacity : Nat) (awaited : AwaitedEvent)

/-- Without a timeout. -/
def step (s : EventWait) : EventInput → EventWait
  | .publish event => match s with
    | waiting receiver => waiting (receiver.send event)
    | _ => s
  | .subscribe => match s with
    | notBegun => waiting .subscribed
    | _ => s
  | .poll => match s with
    | waiting receiver => match receiver.recv capacity with
      | (.message event, next) => if awaited.matches event then resumed receiver.sent else waiting next
      | (.lagged, _) => resumed receiver.sent
      | (.pending, _) => s
    | _ => s

/-- It resumes only after an event that it waits for. -/
def Right : EventWait → Prop
  | resumed sent => sent.any awaited.matches = true
  | _ => True

/-- The receiver has not lost anything, or an event that it waits for was published. -/
def Safe (s : EventWait) : EventInput → Prop
  | .poll => match s with
    | waiting receiver => receiver.Lags capacity → receiver.sent.any awaited.matches = true
    | _ => True
  | _ => True

end EventWait
end HomeCore.Engine
