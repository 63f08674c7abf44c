import HomeCore.Engine.Conditions

/-! From an event to the rules it fires: the match loop, the gates a firing
passes, and the loop that fires what matched. Between two firings of one event
other tasks go on, so each firing reads a world of its own. -/
namespace HomeCore.Engine

/-- What is read and written by other crates on the way. -/
structure Wire where
  parseJson : String → Option Json
  parseUuid : String → Option Uuid
  parseAlert : Json → Option Alert
  alertJson : Alert → Json

def manualRun : String := "manual_run"

def manualRunEvent : String := "manual_rule_fire"

/-- Why a rule is firing: one of its moments came, or someone asked. -/
inductive Run where
  | event
  | asked (checks : Bool)
  deriving DecidableEq

def Run.checks : Run → Bool
  | .event => true
  | .asked checks => checks

section Context
variable (wire : Wire)

def alertTriggerCtx (alert : Alert) (eventType : String) (label : Option String) : TriggerContext :=
  { deviceId := some alert.deviceId
    eventType := some eventType
    extra := some (.obj [("alert", wire.alertJson alert)])
    triggerLabel := label }

/-- The attribute the rule's moment is about, if it names one. -/
def watchedAttr : Trigger → Option String
  | .deviceStateChanged _ _ attr .. => attr
  | .buttonEvent _ _ event => some (buttonAttr event)
  | .numericThreshold _ attr .. => some attr
  | _ => none

def triggerCtxOf (event : Event) (trigger : Trigger) (label : Option String) : TriggerContext :=
  match event with
  | .deviceStateChanged _ deviceId _ previous current _ change =>
    let attr := watchedAttr trigger
    let (value, prevValue) := match attr with
      | some name => (current[name]?, previous[name]?)
      | none => ((current.toList.find? fun (key, value) => previous[key]? != some value).map (·.2), none)
    { deviceId := some deviceId
      attr := attr
      value := value
      prevValue := prevValue
      eventType := some "device_state_changed"
      changeKind := some change.kind
      changeSource := change.source
      changeActorId := change.actorId
      changeActorName := change.actorName
      correlationId := change.correlationId
      triggerLabel := label }
  | .mqttMessage _ topic payload _ =>
    { value := some (.str (fromUtf8Lossy payload))
      eventType := some ("mqtt:" ++ topic)
      triggerLabel := label }
  | .custom _ eventType payload =>
    if eventType = "webhook" then
      { value := payload.get "body", eventType := some eventType, extra := payload.get "query"
        triggerLabel := label }
    else { value := some payload, eventType := some eventType, triggerLabel := label }
  | .alertRaised _ alert _ => alertTriggerCtx wire alert "alert_raised" label
  | .alertAcknowledged _ alert => alertTriggerCtx wire alert "alert_acknowledged" label
  | .alertCleared _ _ _ (some alert) => alertTriggerCtx wire alert "alert_cleared" label
  | .deviceAvailabilityChanged _ deviceId _ available =>
    { deviceId := some deviceId, attr := some "available", value := some (.bool available)
      eventType := some "device_availability_changed", triggerLabel := label }
  | .deviceBatteryLow _ deviceId _ batteryPct thresholdPct =>
    { deviceId := some deviceId, attr := some "battery", value := some (.num (.float batteryPct))
      prevValue := some (.num (.float thresholdPct))
      eventType := some "device_battery_low", triggerLabel := label }
  | .deviceBatteryRecovered _ deviceId _ batteryPct =>
    { deviceId := some deviceId, attr := some "battery", value := some (.num (.float batteryPct))
      eventType := some "device_battery_recovered", triggerLabel := label }
  | _ => {}

def extractTriggerCtx (event : Event) (rule : Rule) (trigger : Trigger) (index : Nat) :
    TriggerContext :=
  let tctx := triggerCtxOf wire event trigger rule.triggerLabel
  if rule.triggers.isEmpty then tctx else { tctx with triggerIndex := some index }

end Context

/-- The id of the alert that started a firing, if one did. -/
def triggerAlertId (tctx : TriggerContext) : Option String :=
  (((tctx.extra.bind (·.get "alert")).bind (·.get "id")).bind Json.asStr)

def triggerForDuration : Trigger → Option Nat
  | .deviceStateChanged _ _ _ _ _ _ _ forDurationSecs _ _ => forDurationSecs
  | .deviceAvailabilityChanged _ _ forDurationSecs => forDurationSecs
  | .numericThreshold _ _ _ _ forDurationSecs => forDurationSecs
  | _ => none

/-- A device in this state is where the trigger wants it. -/
def stateSatisfies (trigger : Trigger) (state : Option AttrMap) : Bool :=
  match trigger with
  | .deviceStateChanged _ _ attr toValue _ _ notTo _ _ _ => match state with
    | none => false
    | some attrs => match attr with
      | none => true
      | some name => match attrs[name]? with
        | none => false
        | some curr => toValue.all (curr == ·) && notTo.all (curr != ·)
  | .numericThreshold _ name op threshold _ =>
    match (state.bind fun attrs => attrs[name]?).bind Json.asF64 with
    | none => false
    | some curr => match op with
      | .above | .crossesAbove => threshold < curr
      | .below | .crossesBelow => curr < threshold
  | _ => true

/-- The trigger's device still satisfies it, as far as the cache tells. -/
def stillMatchesForDuration (trigger : Trigger) (cache : Std.ExtTreeMap String AttrMap) : Bool :=
  match trigger with
  | .deviceStateChanged deviceId .. => stateSatisfies trigger cache[deviceId]?
  | .numericThreshold deviceId .. => stateSatisfies trigger cache[deviceId]?
  | _ => true

/-- An availability trigger is judged on the stored record instead. -/
def availabilityHeld (available : String → Option Bool) (trigger : Trigger) (held : Option Bool) :
    Bool :=
  match trigger with
  | .deviceAvailabilityChanged deviceId _ _ =>
    held.any fun wanted => available deviceId == some wanted
  | _ => true

def triggerType : Trigger → String
  | .deviceStateChanged .. => "DeviceStateChanged"
  | .mqttMessage .. => "MqttMessage"
  | .timeOfDay .. => "TimeOfDay"
  | .sunEvent .. => "SunEvent"
  | .webhookReceived .. => "WebhookReceived"
  | .manualTrigger => "ManualTrigger"
  | .customEvent .. => "CustomEvent"
  | .systemStarted => "SystemStarted"
  | .cron .. => "Cron"
  | .deviceAvailabilityChanged .. => "DeviceAvailabilityChanged"
  | .buttonEvent .. => "ButtonEvent"
  | .numericThreshold .. => "NumericThreshold"
  | .periodic .. => "Periodic"
  | .hubVariableChanged .. => "HubVariableChanged"
  | .calendarEvent .. => "CalendarEvent"
  | .modeChanged .. => "ModeChanged"
  | .deviceBatteryLow .. => "DeviceBatteryLow"
  | .deviceBatteryRecovered .. => "DeviceBatteryRecovered"
  | .alertRaised .. => "AlertRaised"
  | .alertCleared .. => "AlertCleared"
  | .alertAcknowledged .. => "AlertAcknowledged"
  | .alertActiveFor .. => "AlertActiveFor"

def matchedTrigger (rule : Rule) (tctx : TriggerContext) : Trigger :=
  (rule.allTriggers[tctx.triggerIndex.getD 0]?).getD rule.trigger

def firedBy (rule : Rule) (tctx : TriggerContext) : String :=
  if tctx.eventType = some manualRun then "ManualRun" else triggerType (matchedTrigger rule tctx)

def stopsTheChain (rule : Rule) : Bool :=
  rule.actions.any fun step => step.enabled && (step.action matches .stopRuleChain)

inductive FireOutcome where
  | fired
  | conditionFailed (atIndex : Nat) (reason : String)
  | cooldown (remainingSecs : Nat)
  | paused
  | requiredExpressionFailed
  | triggerGateFailed
  | skipped (reason : String)
  deriving DecidableEq

/-- An entry of a rule's history, without its timings and action traces. -/
structure RuleFiring where
  timestamp : DateTime
  triggerType : String
  triggerContext : TriggerContext
  outcome : FireOutcome
  conditions : List ConditionTrace

/-- What a firing changes for others, in order. -/
inductive FireEffect where
  /-- Every delay registered under `{rule_id}/` is woken. -/
  | cancelDelays (ruleId : Uuid)
  /-- The flag of the rule's latest run is raised. -/
  | stopLatest (ruleId : Uuid)
  | startCooldown (ruleId : Uuid) (now : DateTime)
  | spawnRun (ruleId : Uuid)
  deriving DecidableEq

/-- The end of one call of `fire`: whether the chain stops, or how it failed. -/
structure Firing where
  result : Except Failure Bool
  recorded : Option RuleFiring
  effects : List FireEffect

/-- Why a rule of this mode is turned away while so many runs are counted. -/
def modeRefusal (mode : RunMode) (inFlight : Nat) : Option String :=
  match mode with
  | .parallel => none
  | .restart => none
  | .single => if 0 < inFlight then some "single: already in-flight" else none
  | .queued maxQueue =>
    if maxQueue ≤ inFlight then some s!"queued: queue full (max {maxQueue})" else none

section Gates
variable (texts : Texts) (world : World) (rule : Rule) (tctx : TriggerContext) (run : Run)

/-- The seconds the rule still rests, when its moment came too soon. -/
def cooldownRemaining : Option Nat := do
  let cooldownSecs ← rule.cooldownSecs.filter fun _ => run = .event
  let lastFire ← world.cooldownMap rule.id
  let elapsed := ((world.now - lastFire) / second).toNat
  if elapsed < cooldownSecs then some (cooldownSecs - elapsed) else none

/-- A script that must not be false for the rule to go on. -/
def expressionGate (expr : Option String) : Except Failure Bool :=
  match expr.filter fun _ => run.checks with
  | none => .ok true
  | some script =>
    match world.evalCondition script { devices := world.cache.deviceCache, trigger := tctx } with
    | .ok passes => .ok passes
    | .error message => .error (.error message)

def runModeRefusal : Option String := modeRefusal rule.runMode (world.inFlight rule.id)

/-- Stop the run in flight at its next step, and cut its delays short. -/
def restartEffects : List FireEffect :=
  if rule.runMode = .restart then [.stopLatest rule.id, .cancelDelays rule.id] else []

def asking : Asking where
  texts := texts
  world := world
  ruleId := rule.id
  snapshot := world.cache.deviceCache
  trig := triggerAlertId tctx

def judgedConditions : Except Failure (List ConditionTrace) :=
  if run.checks then evaluateConditions (asking texts world rule tctx) rule.conditions else .ok []

def conditionsPassed (traces : List ConditionTrace) : Bool :=
  !run.checks || rule.conditions.isEmpty ||
    (traces.length == rule.conditions.length && traces.all (·.passed))

def record (outcome : FireOutcome) (traces : List ConditionTrace) : RuleFiring where
  timestamp := world.now
  triggerType := firedBy rule tctx
  triggerContext := tctx
  outcome := outcome
  conditions := traces

/-- A firing that ends before the rule's actions. -/
def refused (outcome : FireOutcome) (traces : List ConditionTrace) (effects : List FireEffect) :
    Firing :=
  ⟨.ok false, some (record world rule tctx outcome traces), effects⟩

def raised (failure : Failure) (effects : List FireEffect) : Firing :=
  ⟨.error failure, none, effects⟩

/-- The conditions are judged last, after a restart has stopped the run before it. -/
def fireJudged : Firing :=
  match judgedConditions texts world rule tctx run with
  | .error failure => raised failure (restartEffects rule)
  | .ok traces =>
    if conditionsPassed rule run traces then
      ⟨.ok (stopsTheChain rule), some (record world rule tctx .fired traces),
        restartEffects rule ++
          (if rule.cooldownSecs.isSome then [.startCooldown rule.id world.now] else []) ++
          [.spawnRun rule.id]⟩
    else
      let failed := traces.findIdx fun trace => !trace.passed
      let atIndex := if failed < traces.length then failed else 0
      refused world rule tctx
        (.conditionFailed atIndex ((traces[atIndex]?.map (·.reason)).getD "")) traces
        (restartEffects rule)

/-- `RuleEngine::fire`. -/
def fire : Firing :=
  if run = .event ∧ world.pauseState rule.id = true then refused world rule tctx .paused [] []
  else match cooldownRemaining world rule run with
  | some remaining => refused world rule tctx (.cooldown remaining) [] []
  | none => match expressionGate world tctx run rule.requiredExpression with
    | .error failure => raised failure []
    | .ok false => refused world rule tctx .requiredExpressionFailed []
        (if rule.cancelOnFalse then [.cancelDelays rule.id] else [])
    | .ok true => match expressionGate world tctx run rule.triggerCondition with
      | .error failure => raised failure []
      | .ok false => refused world rule tctx .triggerGateFailed [] []
      | .ok true => match runModeRefusal world rule with
        | some reason => refused world rule tctx (.skipped reason) [] []
        | none => fireJudged texts world rule tctx run

end Gates

/-! ## Dispatch -/

/-- A rule that an event starts, at once or after its time has been held. -/
structure Selected where
  rule : Rule
  tctx : TriggerContext
  deferred : Bool
  run : Run

section Dispatch
variable (wire : Wire) (texts : Texts)

/-- The first of the rule's moments that matches, with its place among them. -/
def foundTrigger (event : Event) (rule : Rule) : Option (Nat × Trigger) :=
  (rule.allTriggers.zipIdx.find? fun (trigger, _) =>
    triggerKindCanMatchEvent trigger event &&
      triggerCheck wire.parseJson trigger event == .matched).map fun (trigger, index) => (index, trigger)

/-- The match loop of `handle_event`. -/
def matchRules (rules : List Rule) (event : Event) : List Selected :=
  (rules.filter (·.enabled)).filterMap fun rule =>
    (foundTrigger wire event rule).map fun (index, trigger) =>
      ⟨rule, extractTriggerCtx wire event rule trigger index, (triggerForDuration trigger).isSome, .event⟩

def namedRule (rules : List Rule) (payload : Json) : Option Rule := do
  let id ← ((payload.get "rule_id").bind Json.asStr).bind wire.parseUuid
  rules.find? (·.id = id)

/-- A time trigger's tick names the rule it is for. -/
def schedulerTick (rules : List Rule) (payload : Json) : List Selected :=
  match namedRule wire (rules.filter (·.enabled)) payload with
  | none => []
  | some rule =>
    let tctx := match (payload.get "alert").bind wire.parseAlert with
      | some alert => alertTriggerCtx wire alert "alert_active_for" rule.triggerLabel
      | none => {}
    [⟨rule, tctx, false, .event⟩]

/-- Someone asked for the rule to run now, whether it is on or off. -/
def manualFire (rules : List Rule) (payload : Json) : List Selected :=
  match namedRule wire rules payload with
  | none => []
  | some rule =>
    let checks := ((payload.get "checks").bind Json.asBool).getD true
    [⟨rule,
      { eventType := some manualRun
        changeActorId := (payload.get "actor_id").bind Json.asStr
        changeActorName := (payload.get "actor_name").bind Json.asStr
        triggerLabel := rule.triggerLabel },
      false, .asked checks⟩]

/-- The time a trigger asked to be held is up: look at the device once more. -/
def recheck (cache : Std.ExtTreeMap String AttrMap) (available : String → Option Bool)
    (rules : List Rule) (ruleId : Uuid) (index : Nat) (held : Option Bool) : List Selected :=
  match rules.find? fun rule => rule.id = ruleId ∧ rule.enabled = true with
  | none => []
  | some rule =>
    let trigger := (rule.allTriggers[index]?).getD rule.trigger
    if stillMatchesForDuration trigger cache && availabilityHeld available trigger held then
      [⟨rule, { triggerIndex := if rule.triggers.isEmpty then none else some index }, false, .event⟩]
    else []

def deferredFire (world : World) (rules : List Rule) (payload : Json) : List Selected :=
  match ((payload.get "rule_id").bind Json.asStr).bind wire.parseUuid with
  | none => []
  | some ruleId =>
    recheck world.cache.deviceCache (fun id => (world.getDevice id).map (·.available)) rules ruleId
      (((payload.get "trigger_index").bind Json.asU64).getD 0)
      ((payload.get "available").bind Json.asBool)

/-- The rules an event is to start, in the order of the rule set. -/
def selectRules (world : World) (rules : List Rule) (event : Event) : List Selected :=
  match event with
  | .custom _ eventType payload =>
    if eventType = "scheduler_tick" then schedulerTick wire rules payload
    else if eventType = manualRunEvent then manualFire wire rules payload
    else if eventType = "deferred_rule_fire" then deferredFire wire world rules payload
    else matchRules wire rules event
  | _ => matchRules wire rules event

/-- The fire loop: the firings made, in order, and how it ended. The `k`-th
selected rule is fired in the world `worldAt k`. -/
def fireLoop (worldAt : Nat → World) : Nat → List Selected →
    List (Selected × Firing) × Except Failure Unit
  | _, [] => ([], .ok ())
  | k, selected :: rest =>
    if selected.deferred then fireLoop worldAt (k + 1) rest
    else
      let firing := fire texts (worldAt k) selected.rule selected.tctx selected.run
      match firing.result with
      | .error failure => ([(selected, firing)], .error failure)
      | .ok true => ([(selected, firing)], .ok ())
      | .ok false =>
        let later := fireLoop worldAt (k + 1) rest
        ((selected, firing) :: later.1, later.2)

/-- `handle_event` after the cache is updated. -/
def handleEvent (worldAt : Nat → World) (rules : List Rule) (event : Event) :
    List (Selected × Firing) × Except Failure Unit :=
  fireLoop texts worldAt 0 (selectRules wire (worldAt 0) rules event)

end Dispatch
end HomeCore.Engine
