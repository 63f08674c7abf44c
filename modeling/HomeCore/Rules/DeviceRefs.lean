import HomeCore.Rules.Resolver

/-! Which rules refer to a device, and pointing their references at another. Both walks go
by what a reference resolves to, and are written out arm by arm, apart from the compiler's
walk and from each other. -/
namespace HomeCore.Resolver

def referencePointsToDevice (reference target : String) (devices : List DeviceState) : Bool :=
  match resolveReference reference devices with
  | .ok resolved => resolved = target
  | .error _ => false

/-! ## Detection -/

section Detection
variable (deviceId : String) (devices : List DeviceState)

def triggerReferencesDevice : Trigger → Bool
  | .deviceStateChanged id deviceIds .. =>
    referencePointsToDevice id deviceId devices ||
      deviceIds.any fun id => referencePointsToDevice id deviceId devices
  | .deviceAvailabilityChanged id .. => referencePointsToDevice id deviceId devices
  | .buttonEvent id .. => referencePointsToDevice id deviceId devices
  | .numericThreshold id .. => referencePointsToDevice id deviceId devices
  | _ => false

mutual

def conditionReferencesDevice : Condition → Bool
  | .deviceState id .. => referencePointsToDevice id deviceId devices
  | .timeElapsed id .. => referencePointsToDevice id deviceId devices
  | .deviceLastChange id .. => referencePointsToDevice id deviceId devices
  | .not condition => conditionReferencesDevice condition
  | .and conditions => conditionsReferenceDevice conditions
  | .or conditions => conditionsReferenceDevice conditions
  | .xor conditions => conditionsReferenceDevice conditions
  | _ => false

def conditionsReferenceDevice : List Condition → Bool
  | [] => false
  | c :: rest => conditionReferencesDevice c || conditionsReferenceDevice rest

end

def ifCheckReferencesDevice : IfCheck → Bool
  | .check condition => conditionReferencesDevice deviceId devices condition
  | .script _ => false

mutual

def actionReferencesDevice : Action → Bool
  | .setDeviceState id .. => referencePointsToDevice id deviceId devices
  | .setDeviceStatePerMode id .. => referencePointsToDevice id deviceId devices
  | .fadeDevice id .. => referencePointsToDevice id deviceId devices
  | .waitForEvent _ (some id) .. => referencePointsToDevice id deviceId devices
  | .captureDeviceState _ deviceIds =>
    deviceIds.any fun id => referencePointsToDevice id deviceId devices
  | .parallel actions => actionsReferenceDevice actions
  | .repeatUntil _ actions .. => actionsReferenceDevice actions
  | .repeatWhile _ actions .. => actionsReferenceDevice actions
  | .repeatCount _ actions _ => actionsReferenceDevice actions
  | .conditional condition thenActions elseIf elseActions =>
    ifCheckReferencesDevice deviceId devices condition ||
      elseIf.any (fun branch => ifCheckReferencesDevice deviceId devices branch.1) ||
      actionsReferenceDevice thenActions || branchesReferenceDevice elseIf ||
      actionsReferenceDevice elseActions
  | .pingHost _ _ _ thenActions elseActions _ =>
    actionsReferenceDevice thenActions || actionsReferenceDevice elseActions
  | _ => false

def actionsReferenceDevice : List Action → Bool
  | [] => false
  | a :: rest => actionReferencesDevice a || actionsReferenceDevice rest

/-- The steps of the branches; what they ask is looked through before. -/
def branchesReferenceDevice : List (IfCheck × List Action) → Bool
  | [] => false
  | (_, actions) :: rest => actionsReferenceDevice actions || branchesReferenceDevice rest

end

def ruleReferencesDevice (rule : Rule) : Bool :=
  rule.allTriggers.any (triggerReferencesDevice deviceId devices) ||
    conditionsReferenceDevice deviceId devices rule.conditions ||
    rule.actions.any fun ra => actionReferencesDevice deviceId devices ra.action

end Detection

/-! ## Replacement -/

section Replacement
variable (deviceId placeholder : String) (devices : List DeviceState)

def replacedReference (id : String) : String :=
  if referencePointsToDevice id deviceId devices then placeholder else id

def replaceInTrigger : Trigger → Trigger
  | .deviceStateChanged id deviceIds attr toValue fromValue notFrom notTo secs kind source =>
    .deviceStateChanged (replacedReference deviceId placeholder devices id)
      (deviceIds.map (replacedReference deviceId placeholder devices)) attr toValue fromValue notFrom
      notTo secs kind source
  | .deviceAvailabilityChanged id toValue secs =>
    .deviceAvailabilityChanged (replacedReference deviceId placeholder devices id) toValue secs
  | .buttonEvent id number event =>
    .buttonEvent (replacedReference deviceId placeholder devices id) number event
  | .numericThreshold id attr op value secs =>
    .numericThreshold (replacedReference deviceId placeholder devices id) attr op value secs
  | trigger => trigger

mutual

def replaceInCondition : Condition → Condition
  | .deviceState id attr op value =>
    .deviceState (replacedReference deviceId placeholder devices id) attr op value
  | .timeElapsed id attr secs =>
    .timeElapsed (replacedReference deviceId placeholder devices id) attr secs
  | .not condition => .not (replaceInCondition condition)
  | .and conditions => .and (replaceInConditions conditions)
  | .or conditions => .or (replaceInConditions conditions)
  | .xor conditions => .xor (replaceInConditions conditions)
  | condition => condition

def replaceInConditions : List Condition → List Condition
  | [] => []
  | c :: rest => replaceInCondition c :: replaceInConditions rest

end

def replaceInCheck : IfCheck → IfCheck
  | .check condition => .check (replaceInCondition deviceId placeholder devices condition)
  | .script expression => .script expression

mutual

def replaceInAction : Action → Action
  | .setDeviceState id state track =>
    .setDeviceState (replacedReference deviceId placeholder devices id) state track
  | .setDeviceStatePerMode id modes defaultState =>
    .setDeviceStatePerMode (replacedReference deviceId placeholder devices id) modes defaultState
  | .fadeDevice id target secs steps =>
    .fadeDevice (replacedReference deviceId placeholder devices id) target secs steps
  | .waitForEvent eventType (some id) attr timeoutMs =>
    .waitForEvent eventType (some (replacedReference deviceId placeholder devices id)) attr timeoutMs
  | .captureDeviceState key deviceIds =>
    .captureDeviceState key (deviceIds.map (replacedReference deviceId placeholder devices))
  | .parallel actions => .parallel (replaceInActions actions)
  | .repeatUntil condition actions limit interval =>
    .repeatUntil condition (replaceInActions actions) limit interval
  | .repeatWhile condition actions limit interval =>
    .repeatWhile condition (replaceInActions actions) limit interval
  | .repeatCount count actions interval => .repeatCount count (replaceInActions actions) interval
  | .conditional condition thenActions elseIf elseActions =>
    .conditional (replaceInCheck deviceId placeholder devices condition) (replaceInActions thenActions)
      (replaceInBranches elseIf) (replaceInActions elseActions)
  | .pingHost host count timeoutMs thenActions elseActions responseEvent =>
    .pingHost host count timeoutMs (replaceInActions thenActions) (replaceInActions elseActions)
      responseEvent
  | action => action

def replaceInActions : List Action → List Action
  | [] => []
  | a :: rest => replaceInAction a :: replaceInActions rest

def replaceInBranches : List (IfCheck × List Action) → List (IfCheck × List Action)
  | [] => []
  | (condition, actions) :: rest =>
    (replaceInCheck deviceId placeholder devices condition, replaceInActions actions) ::
      replaceInBranches rest

end

def replaceDeviceRefs (rule : Rule) : Rule :=
  { rule with
    trigger := replaceInTrigger deviceId placeholder devices rule.trigger
    triggers := rule.triggers.map (replaceInTrigger deviceId placeholder devices)
    conditions := replaceInConditions deviceId placeholder devices rule.conditions
    actions := rule.actions.map fun ra =>
      ⟨ra.enabled, replaceInAction deviceId placeholder devices ra.action⟩ }

end Replacement
end HomeCore.Resolver
