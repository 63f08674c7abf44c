import HomeCore.Engine.Executor

/-! The texts of a rule that are shown cut to a number of bytes: what a trace says
of an action, and every text of a rule that is cut somewhere. -/
namespace HomeCore.Engine

/-- How the parts of an action are displayed. -/
structure ActionTexts where
  json : Json → String
  /-- `serde_json::to_string` of a condition. -/
  condition : Condition → String

/-- `&text[..n]` of a longer text, which must not cut a character. -/
def shown (n : Nat) (text : String) : Except Failure String :=
  if n < text.utf8ByteSize then
    match cutAt n text.toList with
    | some cut => .ok (String.ofList cut)
    | none => .error .panicked
  else .ok text

def variableOpText : VariableOp → String
  | .set => "Set"
  | .add => "Add"
  | .subtract => "Subtract"
  | .multiply => "Multiply"
  | .divide => "Divide"
  | .toggle => "Toggle"

def modeCommandText : ModeCommand → String
  | .on => "On"
  | .off => "Off"
  | .toggle => "Toggle"

def logLevelText : LogLevel → String
  | .trace => "Trace"
  | .debug => "Debug"
  | .info => "Info"
  | .warn => "Warn"
  | .error => "Error"

def theAlert (alertId : Option String) : String := alertId.getD "the alert"

def withTimeout (what : String) : Option Nat → String
  | some t => s!"{what} (timeout: {t}ms)"
  | none => what

def iterationsText : Option Nat → String
  | some n => s!"max {n} iterations"
  | none => "no limit"

section Description
variable (texts : ActionTexts) (world : World)

/-- `IfCheck::describe`. -/
def describe : IfCheck → String
  | .script expression => expression
  | .check condition => texts.condition condition

def assignmentText (name : String) (value : Json) : Option VariableOp → String
  | none => name ++ " = " ++ texts.json value
  | some .set => name ++ " = " ++ texts.json value
  | some op => name ++ " " ++ variableOpText op ++ "= " ++ texts.json value

/-- `action_description`. -/
def actionDescription : Action → Except Failure String
  | .setDeviceState deviceId state trackEventValue =>
    let device := deviceLogName world deviceId
    .ok (device ++ " ← " ++ if trackEventValue then "(trigger value)" else texts.json state)
  | .publishMqtt topic .. => .ok ("topic: " ++ topic)
  | .callService url method .. => .ok (method ++ " " ++ url)
  | .fireEvent eventType _ => .ok ("event: " ++ eventType)
  | .runScript script => shown 60 script
  | .notify channel message _ => do
    let m ← shown 60 message
    return "[" ++ channel ++ "] " ++ m
  | .delay durationSecs cancelable cancelKey =>
    let key := cancelKey.getD "auto"
    .ok (if cancelable then s!"{durationSecs}s (cancelable: {key})" else s!"{durationSecs}s")
  | .parallel actions =>
    let count := actions.length
    .ok s!"{count} actions"
  | .repeatUntil _ _ maxIterations _ => .ok (iterationsText maxIterations)
  | .repeatWhile _ _ maxIterations _ => .ok (iterationsText maxIterations)
  | .repeatCount count .. => .ok s!"{count} times"
  | .conditional condition .. =>
    .ok ("if " ++ String.ofList ((describe texts condition).toList.take 60))
  | .comment text => .ok text
  | .logMessage message level =>
    .ok (level.elim message fun l => "[" ++ logLevelText l ++ "] " ++ message)
  | .setPrivateBoolean name value => .ok (name ++ " = " ++ boolText value)
  | .setVariable name value op => .ok (assignmentText texts name value op)
  | .pauseRule ruleId => .ok ruleId.text
  | .resumeRule ruleId => .ok ruleId.text
  | .cancelDelays key => .ok (key.getD "all")
  | .cancelRuleTimers ruleId => .ok (ruleId.elim "self" Uuid.text)
  | .runRuleActions ruleId => .ok ruleId.text
  | .waitForEvent eventType deviceId _ timeoutMs =>
    let what := match eventType, deviceId with
      | some eventType, _ => eventType
      | none, some deviceId => deviceLogName world deviceId
      | none, none => "any"
    .ok (withTimeout what timeoutMs)
  | .waitForExpression expression _ timeoutMs _ => do
    let e ← shown 60 expression
    return withTimeout e timeoutMs
  | .stopRuleChain => .ok ""
  | .exitRule => .ok ""
  | .pingHost host count timeoutMs .. =>
    let n := count.getD 1
    let tms := timeoutMs.getD 3000
    .ok s!"{host} ({n}× / {tms}ms)"
  | .setDeviceStatePerMode deviceId modes defaultState =>
    let names := ", ".intercalate (modes.map (·.mode))
    .ok (deviceLogName world deviceId ++ " (modes: [" ++ names ++ "]" ++
      if defaultState.isSome then " + default)" else ")")
  | .captureDeviceState key deviceIds =>
    .ok ("key=" ++ key ++ " devices=[" ++
      ", ".intercalate (deviceIds.map (deviceLogName world)) ++ "]")
  | .restoreDeviceState key => .ok ("key=" ++ key)
  | .fadeDevice deviceId _ durationSecs steps =>
    let device := deviceLogName world deviceId
    let n := steps.getD durationSecs
    .ok s!"{device} over {durationSecs}s ({n} steps)"
  | .delayPerMode modes defaultSecs =>
    let names := ", ".intercalate (modes.map (·.mode))
    .ok ("modes: [" ++ names ++ "]" ++ defaultSecs.elim "" fun d => s!" default: {d}s")
  | .setHubVariable name value op => .ok ("hub." ++ assignmentText texts name value op)
  | .activateScenePerMode modes defaultSceneId =>
    let names := ", ".intercalate (modes.map (·.mode))
    .ok ("modes: [" ++ names ++ "]" ++ defaultSceneId.elim "" fun id => " default: " ++ id.text)
  | .setMode modeId command => .ok (modeId ++ " " ++ modeCommandText command)
  | .forEachAlert _ actions =>
    let count := actions.length
    .ok s!"for each alert like that: {count} steps"
  | .pressAlert alertId => .ok ("press " ++ theAlert alertId)
  | .waitAlertCleared alertId timeoutSecs _ =>
    let alert := theAlert alertId
    .ok s!"until {alert} clears, at most {timeoutSecs}s"
  | .acknowledgeAlert alertId => .ok ("mark " ++ theAlert alertId ++ " seen")
  | .skipAlert alertId => .ok ("skip " ++ theAlert alertId)
  | .ignoreAlerts _ minutes _ =>
    .ok (minutes.elim "ignore alerts like that" fun m => s!"ignore alerts like that for {m} min")

end Description
end HomeCore.Engine

/-! ## The texts that are cut -/

namespace HomeCore

/-- A text and the number of bytes it is cut to where it is longer. -/
structure Cut where
  bytes : Nat
  text : String
  deriving DecidableEq

mutual

/-- A condition and all those inside it. -/
def Condition.parts : Condition → List Condition
  | .not condition => .not condition :: Condition.parts condition
  | .and conditions => .and conditions :: partsOfConditions conditions
  | .or conditions => .or conditions :: partsOfConditions conditions
  | .xor conditions => .xor conditions :: partsOfConditions conditions
  | condition => [condition]

def partsOfConditions : List Condition → List Condition
  | [] => []
  | c :: rest => Condition.parts c ++ partsOfConditions rest

end

def Condition.cuts : Condition → List Cut
  | .scriptExpression script => [⟨80, script⟩]
  | _ => []

mutual

/-- An action and all those inside it. -/
def Action.parts : Action → List Action
  | .parallel actions => .parallel actions :: partsOfActions actions
  | .repeatUntil condition actions maxIterations intervalMs =>
    .repeatUntil condition actions maxIterations intervalMs :: partsOfActions actions
  | .repeatWhile condition actions maxIterations intervalMs =>
    .repeatWhile condition actions maxIterations intervalMs :: partsOfActions actions
  | .repeatCount count actions intervalMs =>
    .repeatCount count actions intervalMs :: partsOfActions actions
  | .conditional condition thenActions elseIf elseActions =>
    .conditional condition thenActions elseIf elseActions ::
      (partsOfActions thenActions ++ partsOfBranches elseIf ++ partsOfActions elseActions)
  | .pingHost host count timeoutMs thenActions elseActions responseEvent =>
    .pingHost host count timeoutMs thenActions elseActions responseEvent ::
      (partsOfActions thenActions ++ partsOfActions elseActions)
  | .forEachAlert filter actions => .forEachAlert filter actions :: partsOfActions actions
  | .waitAlertCleared alertId timeoutSecs otherwise =>
    .waitAlertCleared alertId timeoutSecs otherwise :: partsOfActions otherwise
  | action => [action]

def partsOfActions : List Action → List Action
  | [] => []
  | a :: rest => Action.parts a ++ partsOfActions rest

def partsOfBranches : List (IfCheck × List Action) → List Action
  | [] => []
  | (_, actions) :: rest => partsOfActions actions ++ partsOfBranches rest

end

/-- What a check asks that is a condition. -/
def IfCheck.condition? : IfCheck → Option Condition
  | .script _ => none
  | .check condition => some condition

/-- The conditions that an action asks itself. -/
def Action.checks : Action → List Condition
  | .conditional condition _ elseIf _ => (condition :: elseIf.map (·.1)).filterMap IfCheck.condition?
  | _ => []

/-- The texts that describing or running the action cuts. -/
def Action.cuts : Action → List Cut
  | .runScript script => [⟨60, script⟩, ⟨80, script⟩]
  | .notify _ message _ => [⟨60, message⟩]
  | .waitForExpression expression .. => [⟨60, expression⟩]
  | .repeatUntil condition .. => [⟨60, condition⟩]
  | .repeatWhile condition .. => [⟨60, condition⟩]
  | _ => []

def Rule.actionParts (rule : Rule) : List Action :=
  rule.actions.flatMap fun step => step.action.parts

/-- The rule's conditions, and those that its actions ask. -/
def Rule.conditionParts (rule : Rule) : List Condition :=
  rule.conditions.flatMap Condition.parts ++
    (rule.actionParts.flatMap Action.checks).flatMap Condition.parts

def Rule.cuts (rule : Rule) : List Cut :=
  rule.conditionParts.flatMap Condition.cuts ++ rule.actionParts.flatMap Action.cuts

/-- Some character of the text begins before the cut and ends after it. -/
def Cut.Straddled (cut : Cut) : Prop :=
  ∃ before c after, cut.text.toList = before ++ c :: after ∧
    (before.map Char.utf8Size).sum < cut.bytes ∧
    cut.bytes < (before.map Char.utf8Size).sum + c.utf8Size

end HomeCore
