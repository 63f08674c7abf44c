import HomeCore.Engine.Fire

/-! Triggers that must hold for a while. The event that matches starts a timer;
when its sleep ends the engine looks at the device again and publishes a
request to fire, and when that request is received it looks once more. An event
is handled when it happens, and the rule set stays as it is. -/
namespace HomeCore.Engine

/-- What the events so far say of the devices. -/
structure Known where
  attrs : Std.ExtTreeMap String AttrMap
  available : Std.ExtTreeMap String Bool

def Known.observe (known : Known) : Event → Known
  | .deviceStateChanged _ deviceId _ _ current _ _ =>
    { known with attrs := known.attrs.insert deviceId current }
  | .deviceAvailabilityChanged _ deviceId _ available =>
    { known with available := known.available.insert deviceId available }
  | _ => known

def eventDevice : Event → Option String
  | .deviceStateChanged _ deviceId .. => some deviceId
  | .deviceAvailabilityChanged _ deviceId .. => some deviceId
  | _ => none

/-- The device a trigger names first, which is the one looked at again. -/
def ownDevice : Trigger → Option String
  | .deviceStateChanged deviceId .. => some deviceId
  | .deviceAvailabilityChanged deviceId .. => some deviceId
  | .numericThreshold deviceId .. => some deviceId
  | _ => none

/-- A sleeping check of one trigger, with the event that started it: when it
came, of which device, and the availability it told. -/
structure HoldTimer where
  ruleId : Uuid
  index : Nat
  trigger : Trigger
  held : Option Bool
  armedAt : DateTime
  device : Option String

namespace HoldTimer

def due (timer : HoldTimer) : DateTime :=
  timer.armedAt + ((triggerForDuration timer.trigger).getD 0 : Nat) * second

/-- The device that satisfied the trigger is where the trigger wants it. -/
def satisfied (timer : HoldTimer) (known : Known) : Bool :=
  stateSatisfies timer.trigger (timer.device.bind (known.attrs[·]?)) &&
    match timer.trigger with
    | .deviceAvailabilityChanged .. =>
      timer.held.any fun wanted => timer.device.bind (known.available[·]?) == some wanted
    | _ => true

end HoldTimer

structure Holding where
  now : DateTime
  cache : Std.ExtTreeMap String AttrMap
  known : Known
  /-- What was known since when, newest first. -/
  past : List (DateTime × Known)
  sleeping : List HoldTimer
  /-- The requests to fire that the engine has yet to receive. -/
  published : List HoldTimer
  fired : List (HoldTimer × Rule)

def Holding.start (now : DateTime) (known : Known) : Holding :=
  ⟨now, known.attrs, known, [(now, known)], [], [], []⟩

def knownAt (past : List (DateTime × Known)) (moment : DateTime) : Option Known :=
  (past.find? fun (since, _) => since ≤ moment).map (·.2)

inductive HoldInput where
  | event (time : DateTime) (event : Event)
  /-- The sleep of a timer ends, at its time or later. -/
  | wake (time : DateTime) (which : Nat)
  | receive (time : DateTime)

def HoldInput.time : HoldInput → DateTime
  | .event time _ => time
  | .wake time _ => time
  | .receive time => time

section Step
variable (wire : Wire) (rules : List Rule)

def heldAvailability : Event → Option Bool
  | .deviceAvailabilityChanged _ _ _ available => some available
  | _ => none

/-- The timers an event starts, one for each rule it matches that must hold. -/
def arm (time : DateTime) (event : Event) : List HoldTimer :=
  (rules.filter (·.enabled)).filterMap fun rule =>
    (foundTrigger wire event rule).bind fun (index, trigger) =>
      (triggerForDuration trigger).map fun _ =>
        ⟨rule.id, index, trigger, heldAvailability event, time, eventDevice event⟩

def passesAgain (holding : Holding) (timer : HoldTimer) : Bool :=
  stillMatchesForDuration timer.trigger holding.cache &&
    availabilityHeld (holding.known.available[·]?) timer.trigger timer.held

/-- A step at its time. -/
def Holding.react (holding : Holding) : HoldInput → Holding
  | .event time event =>
    { holding with
      cache := cacheAttributes holding.cache event
      known := holding.known.observe event
      past := (time, holding.known.observe event) :: holding.past
      sleeping := holding.sleeping ++ arm wire rules time event }
  | .wake time which => match holding.sleeping[which]? with
    | none => holding
    | some timer =>
      if timer.due ≤ time then
        { holding with
          sleeping := holding.sleeping.eraseIdx which
          published := holding.published ++ if passesAgain holding timer then [timer] else [] }
      else holding
  | .receive _ => match holding.published with
    | [] => holding
    | timer :: later =>
      { holding with
        published := later
        fired := (recheck holding.cache (holding.known.available[·]?) rules timer.ruleId timer.index
          timer.held).map (fun selected => (timer, selected.rule)) ++ holding.fired }

/-- Time does not go back. -/
def Holding.step (holding : Holding) (input : HoldInput) : Holding :=
  if holding.now ≤ input.time then { holding with now := input.time }.react wire rules input
  else holding

end Step

/-- The trigger's predicate held on the device that satisfied it at every
moment of the time the trigger asks for. -/
def HeldThroughout (past : List (DateTime × Known)) (timer : HoldTimer) : Prop :=
  ∀ moment, timer.armedAt ≤ moment → moment < timer.due →
    ∃ known, knownAt past moment = some known ∧ timer.satisfied known = true

def FiresOnlyHeld (holding : Holding) : Prop :=
  ∀ timer rule, (timer, rule) ∈ holding.fired → HeldThroughout holding.past timer

/-- A timer is armed only by the trigger's own device; while one sleeps, no
event brings its device back to where the trigger wants it, and none of the
device's reports lacks the watched attribute. -/
structure Steady (wire : Wire) (rules : List Rule) (holding : Holding) (time : DateTime)
    (event : Event) : Prop where
  own : ∀ timer ∈ arm wire rules time event, timer.device = ownDevice timer.trigger
  stays : ∀ timer ∈ holding.sleeping, timer.satisfied holding.known = false →
    timer.satisfied (holding.known.observe event) = false
  reports : ∀ timer ∈ holding.sleeping, ∀ timestamp deviceId name previous current changed change attr,
    event = .deviceStateChanged timestamp deviceId name previous current changed change →
    timer.device = some deviceId → watchedAttr timer.trigger = some attr → attr ∈ current

def StepsSteadily (wire : Wire) (rules : List Rule) (holding : Holding) : HoldInput → Prop
  | .event time event => holding.now ≤ time → Steady wire rules holding time event
  | _ => True

/-! ## Nothing is missed while nothing returns -/

/-- A sleeping timer's device has been where the trigger wants it ever since, or
is not there now; and the cache tells which. -/
structure Tracked (holding : Holding) (timer : HoldTimer) : Prop where
  own : timer.device = ownDevice timer.trigger
  cached : stateSatisfies timer.trigger (timer.device.bind (holding.cache[·]?)) =
    stateSatisfies timer.trigger (timer.device.bind (holding.known.attrs[·]?))
  held : timer.satisfied holding.known = true →
    ∀ moment, timer.armedAt ≤ moment → moment < holding.now →
      ∃ known, knownAt holding.past moment = some known ∧ timer.satisfied known = true

structure HoldInvariant (holding : Holding) : Prop where
  present : ∀ moment, holding.now ≤ moment → knownAt holding.past moment = some holding.known
  sleeping : ∀ timer ∈ holding.sleeping, Tracked holding timer
  published : ∀ timer ∈ holding.published,
    timer.due ≤ holding.now ∧ HeldThroughout holding.past timer
  fired : ∀ timer rule, (timer, rule) ∈ holding.fired →
    timer.due ≤ holding.now ∧ HeldThroughout holding.past timer

end HomeCore.Engine
