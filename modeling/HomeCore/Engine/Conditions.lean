import HomeCore.Engine.DeviceCache

/-! Judging a rule's conditions. Scripts are run by an engine of another crate,
so what a script answers is a parameter of the world it is asked in. -/
namespace HomeCore.Engine

/-- An evaluation that gives no answer: an error it returns, or a panic. -/
inductive Failure where
  | error (message : String)
  | panicked
  deriving DecidableEq

/-- How foreign types are displayed and text is lowered. -/
structure Texts where
  json : Json → String
  naiveTime : NaiveTime → String
  /-- `%H:%M:%S`. -/
  clock : NaiveTime → String
  rfc3339 : DateTime → String
  lower : String → String

structure CalendarEvent where
  start : DateTime
  finish : DateTime
  summary : String
  deriving DecidableEq

structure CalendarEntry where
  id : String
  events : List CalendarEvent
  deriving DecidableEq

/-- What a script can ask about. -/
structure ScriptScope where
  devices : Std.ExtTreeMap String AttrMap
  hubVars : AttrMap := ∅
  trigger : TriggerContext := {}

/-- Everything a firing reads. -/
structure World where
  now : DateTime
  localTime : NaiveTime
  cache : EngineCache
  /-- The stored record, where there is one that can be read. -/
  getDevice : String → Option DeviceState
  hubVars : AttrMap
  privBools : Uuid → String → Option Bool
  calendars : Option (List CalendarEntry)
  alerts : List Alert
  pauseState : Uuid → Bool
  cooldownMap : Uuid → Option DateTime
  /-- How many runs of a rule are counted as in flight. -/
  inFlight : Uuid → Nat
  evalCondition : String → ScriptScope → Except String Bool

structure ConditionTrace where
  conditionType : String
  passed : Bool
  actual : Option Json := none
  expected : Option Json := none
  reason : String
  deriving DecidableEq

def passText (passed : Bool) : String := if passed then "pass" else "FAIL"

/-- A trace of a condition that was decided. -/
def decided (conditionType : String) (passed : Bool) (actual expected : Option Json)
    (reason : String) : Except Failure ConditionTrace :=
  .ok ⟨conditionType, passed, actual, expected, reason⟩

def compareOpSymbol : CompareOp → String
  | .eq => "=="
  | .ne => "!="
  | .gt => ">"
  | .gte => ">="
  | .lt => "<"
  | .lte => "<="

def boolText (b : Bool) : String := if b then "true" else "false"

def optText (s : Option String) : Json := s.elim .null .str

def changeKindText : DeviceChangeKind → String
  | .homecore => "homecore"
  | .physical => "physical"
  | .external => "external"
  | .unknown => "unknown"

def deviceLogName (world : World) (deviceId : String) : String :=
  match world.getDevice deviceId with
  | some device =>
    (device.canonicalName <|> (if device.name == "" then none else some device.name)).getD deviceId
  | none => deviceId

/-- The longest prefix of exactly `n` bytes, if a character ends there. -/
def cutAt : Nat → List Char → Option (List Char)
  | 0, _ => some []
  | _ + 1, [] => some []
  | n + 1, c :: rest =>
    if c.utf8Size ≤ n + 1 then (cutAt (n + 1 - c.utf8Size) rest).map (c :: ·) else none

/-- `&script[..80]` of a longer script, which must not cut a character. -/
def snippet (script : String) : Except Failure String :=
  if script.utf8ByteSize ≤ 80 then .ok script
  else match cutAt 80 script.toList with
    | some cut => .ok (String.ofList cut)
    | none => .error .panicked

section Checks
variable (texts : Texts) (world : World)

def deviceStateTrace (deviceId attr : String) (op : CompareOp) (value : Json) :
    Except Failure ConditionTrace :=
  let device := deviceLogName world deviceId
  match world.cache.deviceCache[deviceId]? with
  | none => decided "device_state" false none (some value) s!"device '{device}' not found in cache"
  | some attrs => match attrs[attr]? with
    | none =>
      decided "device_state" false none (some value) s!"device '{device}' has no attribute '{attr}'"
    | some actual =>
      let result := compareOp actual op value
      decided "device_state" result (some actual) (some value)
        (device ++ "." ++ attr ++ " " ++ compareOpSymbol op ++ " " ++ texts.json value ++
          " (actual: " ++ texts.json actual ++ ") → " ++ passText result)

def timeWindowTrace (start finish : NaiveTime) : Except Failure ConditionTrace :=
  let now := world.localTime
  let result :=
    if start ≤ finish then start ≤ now && now ≤ finish else start ≤ now || now ≤ finish
  decided "time_window" result (some (.str (texts.clock now)))
    (some (.str (texts.naiveTime start ++ "-" ++ texts.naiveTime finish)))
    ("now " ++ texts.clock now ++ " within [" ++ texts.naiveTime start ++ ", " ++
      texts.naiveTime finish ++ "] → " ++ passText result)

def scriptTrace (snapshot : Std.ExtTreeMap String AttrMap) (script : String) :
    Except Failure ConditionTrace := do
  let shown ← snippet script
  match world.evalCondition script { devices := snapshot, hubVars := world.hubVars } with
  | .error message => .error (.error message)
  | .ok result =>
    decided "script_expression" result none (some (.str shown))
      ("script → " ++ boolText result ++ " → " ++ passText result)

def privateBooleanTrace (ruleId : Uuid) (name : String) (value : Bool) :
    Except Failure ConditionTrace :=
  let actual := (world.privBools ruleId name).getD false
  let result := actual == value
  decided "private_boolean_is" result (some (.bool actual)) (some (.bool value))
    ("priv_bool." ++ name ++ " == " ++ boolText value ++ " (actual: " ++ boolText actual ++ ") → " ++
      passText result)

def hubVariableTrace (name : String) (op : CompareOp) (value : Json) :
    Except Failure ConditionTrace :=
  let actual := world.hubVars[name]?
  let result := actual.any (compareOp · op value)
  decided "hub_variable" result (some (actual.getD .null)) (some value)
    ("hub." ++ name ++ " " ++ compareOpSymbol op ++ " " ++ texts.json value ++ " (actual: " ++
      texts.json (actual.getD .null) ++ ") → " ++ passText result)

def modeIsTrace (modeId : String) (expectedOn : Bool) : Except Failure ConditionTrace :=
  let actualOn :=
    ((world.cache.deviceCache[modeId]?.bind fun attrs => attrs["on"]?).bind Json.asBool).getD false
  let result := actualOn == expectedOn
  decided "mode_is" result (some (.bool actualOn)) (some (.bool expectedOn))
    ("mode." ++ modeId ++ ".on == " ++ boolText expectedOn ++ " (actual: " ++ boolText actualOn ++
      ") → " ++ passText result)

def timeElapsedTrace (deviceId attr : String) (durationSecs : Nat) :
    Except Failure ConditionTrace :=
  let device := deviceLogName world deviceId
  let expected := some (Json.num (.posInt durationSecs))
  match world.cache.attrChangedAt[deviceId]?.bind fun stamps => stamps[attr]? with
  | none => decided "time_elapsed" false none expected
      s!"{device}.{attr} not tracked — no change recorded since startup"
  | some changedAt =>
    let elapsedSecs := ((world.now - changedAt).tdiv second).toNat
    let result := decide (durationSecs ≤ elapsedSecs)
    let relation := if result then ">=" else "<"
    decided "time_elapsed" result (some (.num (.posInt elapsedSecs))) expected
      (s!"{device}.{attr}: elapsed {elapsedSecs}s {relation} {durationSecs}s → " ++ passText result)

def changeJson (change : DeviceChange) : Json :=
  let field (key : String) (value : Option String) :=
    value.elim [] fun v => [(key, Json.str v)]
  .obj (field "actor_id" change.actorId ++ field "actor_name" change.actorName ++
    [("changed_at", .str (texts.rfc3339 change.changedAt))] ++
    field "correlation_id" change.correlationId ++
    [("kind", .str (changeKindText change.kind))] ++ field "source" change.source)

def deviceLastChangeTrace (deviceId : String) (kind : Option DeviceChangeKind)
    (source actorId actorName : Option String) : Except Failure ConditionTrace :=
  let device := deviceLogName world deviceId
  match world.getDevice deviceId with
  | none => decided "device_last_change" false none none s!"device '{device}' not found"
  | some record => match record.lastChange with
    | none => decided "device_last_change" false none none
        s!"device '{device}' has no last_change metadata"
    | some change =>
      let passed := kind.all (· == change.kind) && source.all (change.source == some ·) &&
        actorId.all (change.actorId == some ·) && actorName.all (change.actorName == some ·)
      decided "device_last_change" passed (some (changeJson texts change))
        (some (.obj [("actor_id", optText actorId), ("actor_name", optText actorName),
          ("kind", optText (kind.map changeKindText)), ("source", optText source)]))
        (if passed then s!"{device}.last_change matched requested provenance"
          else s!"{device}.last_change did not match requested provenance")

/-- The events are in order of their start, so the scan ends at one yet to come. -/
def activeEvent (titleContains : Option String) : List CalendarEvent → Option String
  | [] => none
  | event :: later =>
    if world.now < event.start then none
    else if event.finish ≤ world.now then activeEvent titleContains later
    else if titleContains.all fun part =>
        decide ((texts.lower part).toList <:+: (texts.lower event.summary).toList) then
      some event.summary
    else activeEvent titleContains later

def calendarActiveTrace (calendarId titleContains : Option String) :
    Except Failure ConditionTrace :=
  match world.calendars with
  | none => decided "calendar_active" false none none "no calendar store configured"
  | some entries =>
    let chosen := entries.filter fun entry => calendarId.all (entry.id == ·)
    let matched := chosen.findSome? fun entry => activeEvent texts world titleContains entry.events
    decided "calendar_active" matched.isSome (matched.map .str)
      (some (.obj [("calendar_id", optText calendarId), ("title_contains", optText titleContains)]))
      (if matched.isSome then "calendar event currently active"
        else "no matching calendar event active right now")

end Checks

def alertNames (alerts : List Alert) : String := "; ".intercalate (alerts.map (·.message))

def alertActiveTrace (active : List Alert) (filter : AlertFilter) (atLeast : Nat) :
    Except Failure ConditionTrace :=
  let found := active.filter filter.selects
  let passed := decide (max atLeast 1 ≤ found.length % 2 ^ 32)
  let count := found.length
  decided "alert_active" passed (some (.num (.posInt count))) none
    (if passed then "active: " ++ alertNames found
      else if count = 0 then "no alert like that is active"
      else s!"only {count} like that active, not {atLeast}")

def noAlertActiveTrace (active : List Alert) (filter : AlertFilter) :
    Except Failure ConditionTrace :=
  let found := active.filter filter.selects
  decided "no_alert_active" found.isEmpty (some (.num (.posInt found.length))) none
    (if found.isEmpty then "no alert like that is active" else "active: " ++ alertNames found)

def triggerAlertActiveTrace (active : List Alert) (trig : Option String) :
    Except Failure ConditionTrace :=
  match trig with
  | none => decided "trigger_alert_active" false none none "no alert started this"
  | some id =>
    let passed := active.any (·.id == id)
    decided "trigger_alert_active" passed none none
      (if passed then "the alert that started this is still active"
        else "the alert that started this has cleared")

/-- One evaluation: of which rule, against which snapshot, started by which alert. -/
structure Asking where
  texts : Texts
  world : World
  ruleId : Uuid
  snapshot : Std.ExtTreeMap String AttrMap
  trig : Option String

mutual

def evaluateOne (ask : Asking) : Condition → Except Failure ConditionTrace
  | .alertActive filter atLeast => alertActiveTrace ask.world.alerts filter atLeast
  | .noAlertActive filter => noAlertActiveTrace ask.world.alerts filter
  | .triggerAlertActive => triggerAlertActiveTrace ask.world.alerts ask.trig
  | .deviceState deviceId attr op value => deviceStateTrace ask.texts ask.world deviceId attr op value
  | .timeWindow start finish => timeWindowTrace ask.texts ask.world start finish
  | .scriptExpression script => scriptTrace ask.world ask.snapshot script
  | .not condition => do
    let inner ← evaluateOne ask condition
    let result := !inner.passed
    decided "not" result none none
      ("not(" ++ boolText inner.passed ++ ") → " ++ passText result)
  | .and conditions => do
    let result ← evaluateAnd ask conditions
    let count := conditions.length
    decided "and" result none none (s!"and({count} conditions) → " ++ passText result)
  | .or conditions => do
    let result ← evaluateOr ask conditions
    let count := conditions.length
    decided "or" result none none (s!"or({count} conditions) → " ++ passText result)
  | .xor conditions => do
    let passed ← evaluateXor ask conditions
    let result := passed == 1
    let count := conditions.length
    decided "xor" result (some (.num (.posInt passed))) (some (.num (.posInt 1)))
      (s!"xor({count} conditions): {passed} passed → " ++ passText result)
  | .privateBooleanIs name value => privateBooleanTrace ask.world ask.ruleId name value
  | .hubVariable name op value => hubVariableTrace ask.texts ask.world name op value
  | .modeIs modeId on => modeIsTrace ask.world modeId on
  | .timeElapsed deviceId attr durationSecs => timeElapsedTrace ask.world deviceId attr durationSecs
  | .deviceLastChange deviceId kind source actorId actorName =>
    deviceLastChangeTrace ask.texts ask.world deviceId kind source actorId actorName
  | .calendarActive calendarId titleContains =>
    calendarActiveTrace ask.texts ask.world calendarId titleContains

/-- Whether all pass, up to the first that does not. -/
def evaluateAnd (ask : Asking) : List Condition → Except Failure Bool
  | [] => .ok true
  | c :: rest => do
    if (← evaluateOne ask c).passed then evaluateAnd ask rest else pure false

def evaluateOr (ask : Asking) : List Condition → Except Failure Bool
  | [] => .ok false
  | c :: rest => do
    if (← evaluateOne ask c).passed then pure true else evaluateOr ask rest

/-- How many pass, every one of them asked. -/
def evaluateXor (ask : Asking) : List Condition → Except Failure Nat
  | [] => .ok 0
  | c :: rest => do
    let first ← evaluateOne ask c
    let others ← evaluateXor ask rest
    pure (if first.passed then others + 1 else others)

end

/-- The traces of a rule's conditions, up to the first that does not pass. -/
def evaluateConditions (ask : Asking) : List Condition → Except Failure (List ConditionTrace)
  | [] => .ok []
  | c :: rest => do
    let trace ← evaluateOne ask c
    if trace.passed then return trace :: (← evaluateConditions ask rest)
    else return [trace]

end HomeCore.Engine
