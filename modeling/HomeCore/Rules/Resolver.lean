import HomeCore.Devices.Naming
import HomeCore.Types.Rule
import HomeCore.Outcome

/-! Rule compilation: device references written as ids, canonical names or
labels become device ids. The walks below follow the source arm by arm; a
constructor that falls into a catch-all arm is left as it is written. -/
namespace HomeCore.Resolver
open Outcome

def nameMatches (reference : String) (device : DeviceState) : Bool :=
  let reference := normalizeNameSegment reference
  reference == normalizeNameSegment device.name
    || device.nameOverride.any fun o => reference == normalizeNameSegment o

def candidateLabel (device : DeviceState) : String :=
  device.canonicalName.getD (canonicalNameBase device)

def resolveReference (reference : String) (devices : List DeviceState) : Except String String :=
  match devices.find? (·.deviceId == reference) with
  | some device => .ok device.deviceId
  | none => match devices.find? (·.canonicalName == some reference) with
    | some device => .ok device.deviceId
    | none => match devices.filter (nameMatches reference) with
      | [single] => .ok single.deviceId
      | [] => .error s!"device reference '{reference}' did not match any known device"
      | candidates =>
        let labels := ", ".intercalate (candidates.map candidateLabel)
        .error s!"device reference '{reference}' is ambiguous; matches {labels}"

def resolveReferences (devices : List DeviceState) (references : List String) :
    Except String (List String) :=
  references.mapM (resolveReference · devices)

def resolveTrigger (devices : List DeviceState) : Trigger → Except String Trigger
  | .deviceStateChanged deviceId deviceIds attr toValue fromValue notFrom notTo secs kind source => do
    let deviceId ← resolveReference deviceId devices
    let deviceIds ← resolveReferences devices deviceIds
    pure (.deviceStateChanged deviceId deviceIds attr toValue fromValue notFrom notTo secs kind source)
  | .deviceAvailabilityChanged deviceId toValue secs => do
    let deviceId ← resolveReference deviceId devices
    pure (.deviceAvailabilityChanged deviceId toValue secs)
  | .buttonEvent deviceId number event => do
    let deviceId ← resolveReference deviceId devices
    pure (.buttonEvent deviceId number event)
  | .numericThreshold deviceId attr op value secs => do
    let deviceId ← resolveReference deviceId devices
    pure (.numericThreshold deviceId attr op value secs)
  | trigger => pure trigger

mutual

def resolveCondition (devices : List DeviceState) : Condition → Except String Condition
  | .deviceState deviceId attr op value => do
    let deviceId ← resolveReference deviceId devices
    pure (.deviceState deviceId attr op value)
  | .timeElapsed deviceId attr secs => do
    let deviceId ← resolveReference deviceId devices
    pure (.timeElapsed deviceId attr secs)
  | .deviceLastChange deviceId kind source actorId actorName => do
    let deviceId ← resolveReference deviceId devices
    pure (.deviceLastChange deviceId kind source actorId actorName)
  | .not condition => do
    let condition ← resolveCondition devices condition
    pure (.not condition)
  | .and conditions => do
    let conditions ← resolveConditions devices conditions
    pure (.and conditions)
  | .or conditions => do
    let conditions ← resolveConditions devices conditions
    pure (.or conditions)
  | .xor conditions => do
    let conditions ← resolveConditions devices conditions
    pure (.xor conditions)
  | condition => pure condition

def resolveConditions (devices : List DeviceState) :
    List Condition → Except String (List Condition)
  | [] => .ok []
  | c :: rest => do
    let c ← resolveCondition devices c
    let rest ← resolveConditions devices rest
    pure (c :: rest)

end

def resolveCheck (devices : List DeviceState) : IfCheck → Except String IfCheck
  | .script expression => .ok (.script expression)
  | .check condition => do
    let condition ← resolveCondition devices condition
    pure (.check condition)

mutual

def resolveAction (devices : List DeviceState) : Action → Except String Action
  | .setDeviceState deviceId state track => do
    let deviceId ← resolveReference deviceId devices
    pure (.setDeviceState deviceId state track)
  | .setDeviceStatePerMode deviceId modes defaultState => do
    let deviceId ← resolveReference deviceId devices
    pure (.setDeviceStatePerMode deviceId modes defaultState)
  | .fadeDevice deviceId target secs steps => do
    let deviceId ← resolveReference deviceId devices
    pure (.fadeDevice deviceId target secs steps)
  | .waitForEvent eventType (some deviceId) attr timeoutMs => do
    let deviceId ← resolveReference deviceId devices
    pure (.waitForEvent eventType (some deviceId) attr timeoutMs)
  | .captureDeviceState key deviceIds => do
    let deviceIds ← resolveReferences devices deviceIds
    pure (.captureDeviceState key deviceIds)
  | .parallel actions => do
    let actions ← resolveActions devices actions
    pure (.parallel actions)
  | .repeatUntil condition actions limit interval => do
    let actions ← resolveActions devices actions
    pure (.repeatUntil condition actions limit interval)
  | .repeatWhile condition actions limit interval => do
    let actions ← resolveActions devices actions
    pure (.repeatWhile condition actions limit interval)
  | .repeatCount count actions interval => do
    let actions ← resolveActions devices actions
    pure (.repeatCount count actions interval)
  | .conditional condition thenActions elseIf elseActions => do
    let condition ← resolveCheck devices condition
    let thenActions ← resolveActions devices thenActions
    let elseIf ← resolveBranches devices elseIf
    let elseActions ← resolveActions devices elseActions
    pure (.conditional condition thenActions elseIf elseActions)
  | .pingHost host count timeoutMs thenActions elseActions responseEvent => do
    let thenActions ← resolveActions devices thenActions
    let elseActions ← resolveActions devices elseActions
    pure (.pingHost host count timeoutMs thenActions elseActions responseEvent)
  | action => pure action

def resolveActions (devices : List DeviceState) : List Action → Except String (List Action)
  | [] => .ok []
  | a :: rest => do
    let a ← resolveAction devices a
    let rest ← resolveActions devices rest
    pure (a :: rest)

def resolveBranches (devices : List DeviceState) :
    List (IfCheck × List Action) → Except String (List (IfCheck × List Action))
  | [] => .ok []
  | (condition, actions) :: rest => do
    let condition ← resolveCheck devices condition
    let actions ← resolveActions devices actions
    let rest ← resolveBranches devices rest
    pure ((condition, actions) :: rest)

end

def resolveRuleAction (devices : List DeviceState) (ra : RuleAction) : Except String RuleAction := do
  let action ← resolveAction devices ra.action
  pure ⟨ra.enabled, action⟩

/-- The filter of a trigger that an alert starts. -/
def alertTrigger : Trigger → Option AlertFilter
  | .alertRaised filter => some filter
  | .alertCleared filter => some filter
  | .alertAcknowledged filter => some filter
  | .alertActiveFor filter _ => some filter
  | _ => none

/-- Refuse to run an automation whose trigger names a deleted time rule. -/
def deletedTrigger (rule : Rule) : Option String :=
  if (rule.allTriggers.filterMap alertTrigger).any AlertFilter.ruleDeleted then some alertDeleted
  else none

def compileRule (rule : Rule) (devices : List DeviceState) : Except String Rule :=
  match deletedTrigger rule with
  | some why => .error why
  | none => do
    let trigger ← resolveTrigger devices rule.trigger
    let triggers ← rule.triggers.mapM (resolveTrigger devices)
    let conditions ← resolveConditions devices rule.conditions
    let actions ← rule.actions.mapM (resolveRuleAction devices)
    pure { rule with
      error := none, trigger := trigger, triggers := triggers, conditions := conditions,
      actions := actions }

/-- A rule that does not compile stays in the set, disabled, with the reason. -/
def compileRules (rules : List Rule) (devices : List DeviceState) : List Rule :=
  rules.map fun rule => match compileRule rule devices with
    | .ok compiled => compiled
    | .error why => { rule with enabled := false, error := some why }

end HomeCore.Resolver
