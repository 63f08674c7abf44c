import HomeCore.Types.Alert

/-! Automation rules as data: triggers, conditions and actions, with every
constructor and every field of the rule files. -/
namespace HomeCore

/-- A time of day, in nanoseconds since midnight. -/
abbrev NaiveTime := Nat

inductive Weekday where
  | mon | tue | wed | thu | fri | sat | sun
  deriving DecidableEq, Repr

inductive RunMode where
  | parallel
  | single
  | restart
  | queued (maxQueue : Nat)
  deriving DecidableEq, Repr

inductive ButtonEventType where
  | pushed
  | held
  | doubleTapped
  | released
  deriving DecidableEq, Repr

inductive ThresholdOp where
  | above
  | below
  | crossesAbove
  | crossesBelow
  deriving DecidableEq, Repr

inductive PeriodicUnit where
  | minutes
  | hours
  | days
  | weeks
  deriving DecidableEq, Repr

inductive SunEventType where
  | sunrise
  | sunset
  | solarNoon
  | civilDawn
  | civilDusk
  deriving DecidableEq, Repr

inductive CompareOp where
  | eq | ne | gt | gte | lt | lte
  deriving DecidableEq, Repr

inductive VariableOp where
  | set | add | subtract | multiply | divide | toggle
  deriving DecidableEq, Repr

inductive ModeCommand where
  | on | off | toggle
  deriving DecidableEq, Repr

inductive LogLevel where
  | trace | debug | info | warn | error
  deriving DecidableEq, Repr

inductive Trigger where
  | deviceStateChanged (deviceId : String) (deviceIds : List String) (attr : Option String)
      (toValue fromValue notFrom notTo : Option Json) (forDurationSecs : Option Nat)
      (changeKind : Option DeviceChangeKind) (changeSource : Option String)
  | mqttMessage (topicPattern : String) (payload valuePath : Option String)
      (valueOp : Option CompareOp) (valueCmp : Option Json)
  | timeOfDay (time : NaiveTime) (days : List Weekday)
  | sunEvent (event : SunEventType) (offsetMinutes : Int)
  | webhookReceived (path : String)
  | manualTrigger
  | customEvent (eventType : String)
  | systemStarted
  | cron (expression : String)
  | deviceAvailabilityChanged (deviceId : String) (toValue : Option Bool) (forDurationSecs : Option Nat)
  | buttonEvent (deviceId : String) (buttonNumber : Option Nat) (event : ButtonEventType)
  | numericThreshold (deviceId attr : String) (op : ThresholdOp) (value : Rat)
      (forDurationSecs : Option Nat)
  | periodic (everyN : Nat) (unit : PeriodicUnit)
  | hubVariableChanged (name : Option String)
  | modeChanged (modeId : Option String) (toValue : Option Bool)
  | calendarEvent (calendarId titleContains : Option String) (offsetMinutes : Int)
  | deviceBatteryLow (deviceId : Option String)
  | deviceBatteryRecovered (deviceId : Option String)
  | alertRaised (filter : AlertFilter)
  | alertCleared (filter : AlertFilter)
  | alertAcknowledged (filter : AlertFilter)
  | alertActiveFor (filter : AlertFilter) (minutes : Nat)
  deriving DecidableEq

inductive Condition where
  | deviceState (deviceId attr : String) (op : CompareOp) (value : Json)
  | timeWindow (start «end» : NaiveTime)
  | scriptExpression (script : String)
  | timeElapsed (deviceId attr : String) (durationSecs : Nat)
  | deviceLastChange (deviceId : String) (kind : Option DeviceChangeKind)
      (source actorId actorName : Option String)
  | not (condition : Condition)
  | and (conditions : List Condition)
  | or (conditions : List Condition)
  | xor (conditions : List Condition)
  | privateBooleanIs (name : String) (value : Bool)
  | hubVariable (name : String) (op : CompareOp) (value : Json)
  | modeIs (modeId : String) (on : Bool)
  | calendarActive (calendarId titleContains : Option String)
  | alertActive (filter : AlertFilter) (atLeast : Nat)
  | noAlertActive (filter : AlertFilter)
  | triggerAlertActive

inductive IfCheck where
  | script (expression : String)
  | check (condition : Condition)

structure ModeStateEntry where
  mode : String
  state : Json
  deriving DecidableEq

structure ModeDelayEntry where
  mode : String
  durationSecs : Nat
  deriving DecidableEq

structure ModeSceneEntry where
  mode : String
  sceneId : Uuid
  deriving DecidableEq

inductive Action where
  | setDeviceState (deviceId : String) (state : Json) (trackEventValue : Bool)
  | publishMqtt (topic payload : String) (retain : Bool)
  | callService (url method : String) (body : Json) (timeoutMs retries : Option Nat)
      (responseEvent : Option String)
  | fireEvent (eventType : String) (payload : Json)
  | runScript (script : String)
  | notify (channel message : String) (title : Option String)
  | delay (durationSecs : Nat) (cancelable : Bool) (cancelKey : Option String)
  | parallel (actions : List Action)
  | repeatUntil (condition : String) (actions : List Action) (maxIterations intervalMs : Option Nat)
  | repeatWhile (condition : String) (actions : List Action) (maxIterations intervalMs : Option Nat)
  | repeatCount (count : Nat) (actions : List Action) (intervalMs : Option Nat)
  /-- Each `ELSE-IF` branch is what it asks and what it runs. -/
  | conditional (condition : IfCheck) (thenActions : List Action)
      (elseIf : List (IfCheck × List Action)) (elseActions : List Action)
  | stopRuleChain
  | exitRule
  | comment (text : String)
  | waitForEvent (eventType deviceId attr : Option String) (timeoutMs : Option Nat)
  | waitForExpression (expression : String) (pollIntervalMs timeoutMs holdDurationMs : Option Nat)
  | setVariable (name : String) (value : Json) (op : Option VariableOp)
  | runRuleActions (ruleId : Uuid)
  | pauseRule (ruleId : Uuid)
  | resumeRule (ruleId : Uuid)
  | cancelDelays (key : Option String)
  | cancelRuleTimers (ruleId : Option Uuid)
  | setPrivateBoolean (name : String) (value : Bool)
  | logMessage (message : String) (level : Option LogLevel)
  | setDeviceStatePerMode (deviceId : String) (modes : List ModeStateEntry)
      (defaultState : Option Json)
  | pingHost (host : String) (count timeoutMs : Option Nat) (thenActions elseActions : List Action)
      (responseEvent : Option String)
  | captureDeviceState (key : String) (deviceIds : List String)
  | restoreDeviceState (key : String)
  | delayPerMode (modes : List ModeDelayEntry) (defaultSecs : Option Nat)
  | setHubVariable (name : String) (value : Json) (op : Option VariableOp)
  | activateScenePerMode (modes : List ModeSceneEntry) (defaultSceneId : Option Uuid)
  | fadeDevice (deviceId : String) (target : Json) (durationSecs : Nat) (steps : Option Nat)
  | setMode (modeId : String) (command : ModeCommand)
  | forEachAlert (filter : AlertFilter) (actions : List Action)
  | pressAlert (alertId : Option String)
  | waitAlertCleared (alertId : Option String) (timeoutSecs : Nat) (otherwise : List Action)
  | acknowledgeAlert (alertId : Option String)
  | skipAlert (alertId : Option String)
  | ignoreAlerts (filter : AlertFilter) (minutes : Option Nat) (note : Option String)

structure RuleAction where
  enabled : Bool
  action : Action

structure Rule where
  id : Uuid
  name : String
  enabled : Bool
  priority : Int
  tags : List String
  trigger : Trigger
  triggers : List Trigger
  conditions : List Condition
  actions : List RuleAction
  error : Option String
  cooldownSecs : Option Nat
  logEvents : Bool
  logTriggers : Bool
  logActions : Bool
  requiredExpression : Option String
  cancelOnFalse : Bool
  triggerCondition : Option String
  initialVariables : AttrMap
  triggerLabel : Option String
  runMode : RunMode

/-- Every moment that starts the rule: `trigger`, then `triggers`. -/
def Rule.allTriggers (rule : Rule) : List Trigger := rule.trigger :: rule.triggers

/-- A rule of one trigger and enabled steps, every other field at its default. -/
def Rule.minimal (id : Uuid) (trigger : Trigger) (actions : List Action) : Rule where
  id := id
  name := ""
  enabled := true
  priority := 0
  tags := []
  trigger := trigger
  triggers := []
  conditions := []
  actions := actions.map (⟨true, ·⟩)
  error := none
  cooldownSecs := none
  logEvents := false
  logTriggers := false
  logActions := false
  requiredExpression := none
  cancelOnFalse := false
  triggerCondition := none
  initialVariables := ∅
  triggerLabel := none
  runMode := .parallel

structure TriggerContext where
  deviceId : Option String := none
  attr : Option String := none
  value : Option Json := none
  prevValue : Option Json := none
  eventType : Option String := none
  changeKind : Option DeviceChangeKind := none
  changeSource : Option String := none
  changeActorId : Option String := none
  changeActorName : Option String := none
  correlationId : Option String := none
  extra : Option Json := none
  triggerLabel : Option String := none
  triggerIndex : Option Nat := none
  deriving DecidableEq

end HomeCore
