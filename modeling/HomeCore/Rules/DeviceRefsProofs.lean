import HomeCore.Rules.DeviceRefs
import HomeCore.Rules.ResolverProofs

/-! The walks over a rule's references compared. Detection visits what the compiler visits;
replacement visits the same but for the conditions on a device's last change. -/
namespace HomeCore

/-! ## References that replacement passes over -/

mutual

/-- What conditions on a last change refer to. -/
def Condition.lastChanges : Condition → List String
  | .deviceLastChange deviceId .. => [deviceId]
  | .not condition => condition.lastChanges
  | .and conditions => conditionsLastChanges conditions
  | .or conditions => conditionsLastChanges conditions
  | .xor conditions => conditionsLastChanges conditions
  | _ => []

def conditionsLastChanges : List Condition → List String
  | [] => []
  | c :: rest => c.lastChanges ++ conditionsLastChanges rest

end

def IfCheck.lastChanges : IfCheck → List String
  | .script _ => []
  | .check condition => condition.lastChanges

mutual

def Action.lastChanges : Action → List String
  | .parallel actions => actionsLastChanges actions
  | .repeatUntil _ actions .. => actionsLastChanges actions
  | .repeatWhile _ actions .. => actionsLastChanges actions
  | .repeatCount _ actions _ => actionsLastChanges actions
  | .conditional condition thenActions elseIf elseActions =>
    condition.lastChanges ++ (actionsLastChanges thenActions ++
      (branchesLastChanges elseIf ++ actionsLastChanges elseActions))
  | .pingHost _ _ _ thenActions elseActions _ =>
    actionsLastChanges thenActions ++ actionsLastChanges elseActions
  | _ => []

def actionsLastChanges : List Action → List String
  | [] => []
  | a :: rest => a.lastChanges ++ actionsLastChanges rest

def branchesLastChanges : List (IfCheck × List Action) → List String
  | [] => []
  | (condition, actions) :: rest =>
    condition.lastChanges ++ (actionsLastChanges actions ++ branchesLastChanges rest)

end

def Rule.lastChanges (rule : Rule) : List String :=
  conditionsLastChanges rule.conditions ++ rule.actions.flatMap fun ra => ra.action.lastChanges

namespace Resolver

variable {deviceId placeholder : String} {devices : List DeviceState}

theorem referencePointsToDevice_iff {reference target : String} :
    referencePointsToDevice reference target devices = true ↔ ResolvesTo devices reference target := by
  rw [referencePointsToDevice, ResolvesTo]
  cases resolveReference reference devices with
  | ok resolved => simp
  | error why => simp

/-! ## Detection visits what the compiler visits -/

/-- Whether one of the references points to the device. -/
def anyPointsTo (deviceId : String) (devices : List DeviceState) (references : List String) : Bool :=
  references.any fun reference => referencePointsToDevice reference deviceId devices

@[simp]
theorem anyPointsTo_nil : anyPointsTo deviceId devices [] = false := rfl

@[simp]
theorem anyPointsTo_cons {reference : String} {rest : List String} :
    anyPointsTo deviceId devices (reference :: rest) =
      (referencePointsToDevice reference deviceId devices || anyPointsTo deviceId devices rest) := rfl

@[simp]
theorem anyPointsTo_append {first second : List String} :
    anyPointsTo deviceId devices (first ++ second) =
      (anyPointsTo deviceId devices first || anyPointsTo deviceId devices second) :=
  List.any_append

theorem anyPointsTo_flatMap {α : Type} (items : List α) (refs : α → List String) :
    anyPointsTo deviceId devices (items.flatMap refs) =
      items.any fun item => anyPointsTo deviceId devices (refs item) :=
  List.any_flatMap

theorem triggerReferencesDevice_eq (trigger : Trigger) :
    triggerReferencesDevice deviceId devices trigger =
      anyPointsTo deviceId devices (trigger.references .walked) := by
  cases trigger with
  | deviceStateChanged => rfl
  | deviceAvailabilityChanged | buttonEvent | numericThreshold =>
    simp [triggerReferencesDevice, Trigger.references]
  | _ => rfl

mutual

theorem conditionReferencesDevice_eq : ∀ condition : Condition,
    conditionReferencesDevice deviceId devices condition =
      anyPointsTo deviceId devices (condition.references .walked)
  | .deviceState .. | .timeElapsed .. | .deviceLastChange .. => by
    simp [conditionReferencesDevice, Condition.references]
  | .not condition => by
    rw [conditionReferencesDevice, conditionReferencesDevice_eq condition, Condition.references]
  | .and conditions | .or conditions | .xor conditions => by
    simp only [conditionReferencesDevice, conditionsReferenceDevice_eq conditions, Condition.references]
  | .timeWindow .. | .scriptExpression .. | .privateBooleanIs .. | .hubVariable .. | .modeIs ..
  | .calendarActive .. | .alertActive .. | .noAlertActive .. | .triggerAlertActive => by
    simp [conditionReferencesDevice, Condition.references, Scope.unwalked]

theorem conditionsReferenceDevice_eq :
    ∀ conditions : List Condition, conditionsReferenceDevice deviceId devices conditions =
      anyPointsTo deviceId devices (conditionsReferences .walked conditions)
  | [] => by simp [conditionsReferenceDevice, conditionsReferences]
  | c :: rest => by
    simp only [conditionsReferenceDevice, conditionsReferences, anyPointsTo_append,
      conditionReferencesDevice_eq c, conditionsReferenceDevice_eq rest]

end

theorem ifCheckReferencesDevice_eq (check : IfCheck) :
    ifCheckReferencesDevice deviceId devices check =
      anyPointsTo deviceId devices (check.references .walked) := by
  cases check with
  | script expression => rfl
  | check condition => exact conditionReferencesDevice_eq condition

mutual

theorem actionReferencesDevice_eq (action : Action) :
    actionReferencesDevice deviceId devices action =
      anyPointsTo deviceId devices (action.references .walked) := by
  match action with
  | .setDeviceState .. | .setDeviceStatePerMode .. | .fadeDevice .. | .waitForEvent _ (some _) .. =>
    simp [actionReferencesDevice, Action.references, Scope.unwalked]
  | .captureDeviceState .. => simp only [actionReferencesDevice, Action.references, anyPointsTo]
  | .parallel actions | .repeatUntil _ actions .. | .repeatWhile _ actions ..
  | .repeatCount _ actions _ =>
    simp only [actionReferencesDevice, Action.references, actionsReferenceDevice_eq actions]
  | .conditional condition thenActions elseIf elseActions =>
    simp only [actionReferencesDevice, Action.references, anyPointsTo_append,
      ifCheckReferencesDevice_eq condition, actionsReferenceDevice_eq thenActions,
      actionsReferenceDevice_eq elseActions, ← branchesReferenceDevice_eq elseIf]
    -- the source looks through all that is asked before any of the steps
    simp only [Bool.or_assoc, Bool.or_left_comm]
  | .pingHost _ _ _ thenActions elseActions _ =>
    simp only [actionReferencesDevice, Action.references, anyPointsTo_append,
      actionsReferenceDevice_eq thenActions, actionsReferenceDevice_eq elseActions]
  | .waitForEvent _ none .. | .publishMqtt .. | .callService .. | .fireEvent .. | .runScript ..
  | .notify .. | .delay .. | .stopRuleChain | .exitRule | .comment .. | .waitForExpression ..
  | .setVariable .. | .runRuleActions .. | .pauseRule .. | .resumeRule .. | .cancelDelays ..
  | .cancelRuleTimers .. | .setPrivateBoolean .. | .logMessage .. | .restoreDeviceState ..
  | .delayPerMode .. | .setHubVariable .. | .activateScenePerMode .. | .setMode ..
  | .forEachAlert .. | .pressAlert .. | .waitAlertCleared .. | .acknowledgeAlert ..
  | .skipAlert .. | .ignoreAlerts .. =>
    simp [actionReferencesDevice, Action.references, Scope.unwalked]

theorem actionsReferenceDevice_eq (actions : List Action) :
    actionsReferenceDevice deviceId devices actions =
      anyPointsTo deviceId devices (actionsReferences .walked actions) := by
  match actions with
  | [] => simp [actionsReferenceDevice, actionsReferences]
  | a :: rest =>
    simp only [actionsReferenceDevice, actionsReferences, anyPointsTo_append,
      actionReferencesDevice_eq a, actionsReferenceDevice_eq rest]

theorem branchesReferenceDevice_eq (branches : List (IfCheck × List Action)) :
    (branches.any (fun branch => ifCheckReferencesDevice deviceId devices branch.1) ||
        branchesReferenceDevice deviceId devices branches) =
      anyPointsTo deviceId devices (branchesReferences .walked branches) := by
  match branches with
  | [] => simp [branchesReferenceDevice, branchesReferences]
  | (condition, actions) :: rest =>
    simp only [List.any_cons, branchesReferenceDevice, branchesReferences, anyPointsTo_append,
      ifCheckReferencesDevice_eq condition, actionsReferenceDevice_eq actions,
      ← branchesReferenceDevice_eq rest]
    simp only [Bool.or_assoc, Bool.or_left_comm]

end

theorem ruleReferencesDevice_eq (rule : Rule) :
    ruleReferencesDevice deviceId devices rule =
      anyPointsTo deviceId devices (rule.references .walked) := by
  have triggers : rule.allTriggers.any (triggerReferencesDevice deviceId devices) =
      rule.allTriggers.any fun trigger => anyPointsTo deviceId devices (trigger.references .walked) :=
    congrArg rule.allTriggers.any (funext triggerReferencesDevice_eq)
  simp only [ruleReferencesDevice, Rule.references, anyPointsTo_append, anyPointsTo_flatMap, triggers,
    conditionsReferenceDevice_eq, actionReferencesDevice_eq, Bool.or_assoc]

/-! ## What replacement leaves -/

section Replacing
variable (elsewhere : referencePointsToDevice placeholder deviceId devices = false)
include elsewhere

theorem replacedReference_elsewhere (id : String) :
    referencePointsToDevice (replacedReference deviceId placeholder devices id) deviceId devices = false := by
  rw [replacedReference]
  split
  next => exact elsewhere
  next unrelated => simpa using unrelated

theorem any_replacedReference (ids : List String) :
    ((ids.map (replacedReference deviceId placeholder devices)).any fun id =>
      referencePointsToDevice id deviceId devices) = false := by
  rw [List.any_map, List.any_eq_false]
  intro id _
  simpa using replacedReference_elsewhere elsewhere id

theorem triggerReferencesDevice_replaced (trigger : Trigger) :
    triggerReferencesDevice deviceId devices
      (replaceInTrigger deviceId placeholder devices trigger) = false := by
  cases trigger with
  | deviceStateChanged id ids =>
    simp only [replaceInTrigger, triggerReferencesDevice, replacedReference_elsewhere elsewhere,
      any_replacedReference elsewhere, Bool.or_self]
  | deviceAvailabilityChanged | buttonEvent | numericThreshold =>
    simp only [replaceInTrigger, triggerReferencesDevice, replacedReference_elsewhere elsewhere]
  | _ => rfl

end Replacing

mutual

theorem conditionReferencesDevice_replaced
    (elsewhere : referencePointsToDevice placeholder deviceId devices = false) :
    ∀ condition : Condition,
      conditionReferencesDevice deviceId devices (replaceInCondition deviceId placeholder devices condition) =
        anyPointsTo deviceId devices condition.lastChanges
  | .deviceState .. | .timeElapsed .. => by
    simp [replaceInCondition, conditionReferencesDevice, Condition.lastChanges,
      replacedReference_elsewhere elsewhere]
  | .deviceLastChange .. => by
    simp [replaceInCondition, conditionReferencesDevice, Condition.lastChanges]
  | .not condition => by
    simp only [replaceInCondition, conditionReferencesDevice, Condition.lastChanges,
      conditionReferencesDevice_replaced elsewhere condition]
  | .and conditions | .or conditions | .xor conditions => by
    simp only [replaceInCondition, conditionReferencesDevice, Condition.lastChanges,
      conditionsReferenceDevice_replaced elsewhere conditions]
  | .timeWindow .. | .scriptExpression .. | .privateBooleanIs .. | .hubVariable .. | .modeIs ..
  | .calendarActive .. | .alertActive .. | .noAlertActive .. | .triggerAlertActive => by
    simp [replaceInCondition, conditionReferencesDevice, Condition.lastChanges]

theorem conditionsReferenceDevice_replaced
    (elsewhere : referencePointsToDevice placeholder deviceId devices = false) :
    ∀ conditions : List Condition,
      conditionsReferenceDevice deviceId devices
          (replaceInConditions deviceId placeholder devices conditions) =
        anyPointsTo deviceId devices (conditionsLastChanges conditions)
  | [] => by simp [replaceInConditions, conditionsReferenceDevice, conditionsLastChanges]
  | c :: rest => by
    simp only [replaceInConditions, conditionsReferenceDevice, conditionsLastChanges, anyPointsTo_append,
      conditionReferencesDevice_replaced elsewhere c, conditionsReferenceDevice_replaced elsewhere rest]

end

theorem ifCheckReferencesDevice_replaced
    (elsewhere : referencePointsToDevice placeholder deviceId devices = false) (check : IfCheck) :
    ifCheckReferencesDevice deviceId devices (replaceInCheck deviceId placeholder devices check) =
      anyPointsTo deviceId devices check.lastChanges := by
  cases check with
  | script expression => rfl
  | check condition => exact conditionReferencesDevice_replaced elsewhere condition

mutual

theorem actionReferencesDevice_replaced
    (elsewhere : referencePointsToDevice placeholder deviceId devices = false) (action : Action) :
    actionReferencesDevice deviceId devices (replaceInAction deviceId placeholder devices action) =
      anyPointsTo deviceId devices action.lastChanges := by
  match action with
  | .setDeviceState .. | .setDeviceStatePerMode .. | .fadeDevice .. | .waitForEvent _ (some _) .. =>
    simp [replaceInAction, actionReferencesDevice, Action.lastChanges,
      replacedReference_elsewhere elsewhere]
  | .captureDeviceState .. =>
    simp only [replaceInAction, actionReferencesDevice, Action.lastChanges, anyPointsTo_nil,
      any_replacedReference elsewhere]
  | .parallel actions | .repeatUntil _ actions .. | .repeatWhile _ actions ..
  | .repeatCount _ actions _ =>
    simp only [replaceInAction, actionReferencesDevice, Action.lastChanges,
      actionsReferenceDevice_replaced elsewhere actions]
  | .conditional condition thenActions elseIf elseActions =>
    simp only [replaceInAction, actionReferencesDevice, Action.lastChanges, anyPointsTo_append,
      ifCheckReferencesDevice_replaced elsewhere condition,
      actionsReferenceDevice_replaced elsewhere thenActions,
      actionsReferenceDevice_replaced elsewhere elseActions,
      ← branchesReferenceDevice_replaced elsewhere elseIf]
    simp only [Bool.or_assoc, Bool.or_left_comm]
  | .pingHost _ _ _ thenActions elseActions _ =>
    simp only [replaceInAction, actionReferencesDevice, Action.lastChanges, anyPointsTo_append,
      actionsReferenceDevice_replaced elsewhere thenActions,
      actionsReferenceDevice_replaced elsewhere elseActions]
  | .waitForEvent _ none .. | .publishMqtt .. | .callService .. | .fireEvent .. | .runScript ..
  | .notify .. | .delay .. | .stopRuleChain | .exitRule | .comment .. | .waitForExpression ..
  | .setVariable .. | .runRuleActions .. | .pauseRule .. | .resumeRule .. | .cancelDelays ..
  | .cancelRuleTimers .. | .setPrivateBoolean .. | .logMessage .. | .restoreDeviceState ..
  | .delayPerMode .. | .setHubVariable .. | .activateScenePerMode .. | .setMode ..
  | .forEachAlert .. | .pressAlert .. | .waitAlertCleared .. | .acknowledgeAlert ..
  | .skipAlert .. | .ignoreAlerts .. =>
    simp [replaceInAction, actionReferencesDevice, Action.lastChanges]

theorem actionsReferenceDevice_replaced
    (elsewhere : referencePointsToDevice placeholder deviceId devices = false) (actions : List Action) :
    actionsReferenceDevice deviceId devices (replaceInActions deviceId placeholder devices actions) =
      anyPointsTo deviceId devices (actionsLastChanges actions) := by
  match actions with
  | [] => simp [replaceInActions, actionsReferenceDevice, actionsLastChanges]
  | a :: rest =>
    simp only [replaceInActions, actionsReferenceDevice, actionsLastChanges, anyPointsTo_append,
      actionReferencesDevice_replaced elsewhere a, actionsReferenceDevice_replaced elsewhere rest]

theorem branchesReferenceDevice_replaced
    (elsewhere : referencePointsToDevice placeholder deviceId devices = false)
    (branches : List (IfCheck × List Action)) :
    ((replaceInBranches deviceId placeholder devices branches).any
          (fun branch => ifCheckReferencesDevice deviceId devices branch.1) ||
        branchesReferenceDevice deviceId devices (replaceInBranches deviceId placeholder devices branches)) =
      anyPointsTo deviceId devices (branchesLastChanges branches) := by
  match branches with
  | [] => simp [replaceInBranches, branchesReferenceDevice, branchesLastChanges]
  | (condition, actions) :: rest =>
    simp only [replaceInBranches, List.any_cons, branchesReferenceDevice, branchesLastChanges,
      anyPointsTo_append, ifCheckReferencesDevice_replaced elsewhere condition,
      actionsReferenceDevice_replaced elsewhere actions,
      ← branchesReferenceDevice_replaced elsewhere rest]
    simp only [Bool.or_assoc, Bool.or_left_comm]

end

/-- After the replacement the rule refers to the device where a condition on its last change
did before. -/
theorem ruleReferencesDevice_replaced
    (elsewhere : referencePointsToDevice placeholder deviceId devices = false) (rule : Rule) :
    ruleReferencesDevice deviceId devices (replaceDeviceRefs deviceId placeholder devices rule) =
      anyPointsTo deviceId devices rule.lastChanges := by
  have triggers : (replaceDeviceRefs deviceId placeholder devices rule).allTriggers.any
      (triggerReferencesDevice deviceId devices) = false := by
    rw [List.any_eq_false]
    intro trigger member
    obtain ⟨before, _, rfl⟩ : ∃ before ∈ rule.allTriggers,
        replaceInTrigger deviceId placeholder devices before = trigger := List.mem_map.mp member
    simp [triggerReferencesDevice_replaced elsewhere before]
  rw [ruleReferencesDevice, triggers, Bool.false_or, replaceDeviceRefs, List.any_map, Rule.lastChanges,
    anyPointsTo_append, anyPointsTo_flatMap, conditionsReferenceDevice_replaced elsewhere]
  congr 1
  refine congrArg rule.actions.any (funext fun ra => ?_)
  exact actionReferencesDevice_replaced elsewhere ra.action

/-! ## Both directions together -/

/-- The compiler comes upon a reference that resolves to the device, or leaves its id in the
compiled rule. -/
def CompilerReaches (rule : Rule) (devices : List DeviceState) (deviceId : String) : Prop :=
  (∃ r ∈ rule.references .walked, ResolvesTo devices r deviceId) ∨
    ∃ compiled, compileRule rule devices = .ok compiled ∧ deviceId ∈ compiled.references .walked

theorem mem_of_resolved {references targets : List String}
    (all : List.Forall₂ (ResolvesTo devices) references targets) (member : deviceId ∈ targets) :
    ∃ r ∈ references, ResolvesTo devices r deviceId := by
  induction all with
  | nil => cases member
  | cons first _ ih =>
    rcases List.mem_cons.mp member with rfl | later
    · exact ⟨_, List.mem_cons_self, first⟩
    · obtain ⟨r, there, resolved⟩ := ih later
      exact ⟨r, List.mem_cons_of_mem _ there, resolved⟩

theorem ruleReferencesDevice_of_reached {rule : Rule} (reached : CompilerReaches rule devices deviceId) :
    ruleReferencesDevice deviceId devices rule = true := by
  have resolves : ∃ r ∈ rule.references .walked, ResolvesTo devices r deviceId := by
    rcases reached with resolves | ⟨compiled, isCompiled, member⟩
    · exact resolves
    · exact mem_of_resolved (compileRule_ok isCompiled) member
  obtain ⟨r, member, resolved⟩ := resolves
  rw [ruleReferencesDevice_eq]
  exact List.any_eq_true.mpr ⟨r, member, referencePointsToDevice_iff.mpr resolved⟩

/-- Replacement is complete exactly where no condition on a last change refers to the
device; what the compiler resolves is detected everywhere. -/
theorem replacement_complete_iff (rule : Rule) (devices : List DeviceState) (old new : String)
    (elsewhere : referencePointsToDevice new old devices = false) :
    (ruleReferencesDevice old devices (replaceDeviceRefs old new devices rule) = false ∧
        ∀ device, CompilerReaches rule devices device → ruleReferencesDevice device devices rule = true) ↔
      ∀ reference ∈ rule.lastChanges, referencePointsToDevice reference old devices = false := by
  rw [ruleReferencesDevice_replaced elsewhere, anyPointsTo, List.any_eq_false]
  constructor
  · rintro ⟨unmentioned, _⟩ reference member
    simpa using unmentioned reference member
  · intro unmentioned
    refine ⟨fun reference member => by simpa using unmentioned reference member, ?_⟩
    intro device reached
    exact ruleReferencesDevice_of_reached reached

def oldDoor : DeviceState := DeviceState.new "old_door" "Old door" "test" 0

def newDoor : DeviceState := DeviceState.new "new_door" "New door" "test" 0

/-- A condition on the door's state, under a negation, and a step that waits for it. -/
def doorRule : Rule :=
  { Rule.minimal ⟨1⟩ (.buttonEvent "old_door" none .pushed)
      [.parallel [.waitForEvent none (some "Old door") none none]] with
    conditions := [.not (.deviceState "old_door" "open" .eq .null)] }

theorem door_replaced :
    ruleReferencesDevice "old_door" [oldDoor, newDoor] doorRule = true ∧
      ruleReferencesDevice "old_door" [oldDoor, newDoor]
        (replaceDeviceRefs "old_door" "new_door" [oldDoor, newDoor] doorRule) = false := by
  refine ⟨by decide, ?_⟩
  refine ((replacement_complete_iff doorRule [oldDoor, newDoor] "old_door" "new_door" ?_).mpr ?_).1
  all_goals decide

/-- The rule asks when the door last changed. -/
def lastChangeRule : Rule :=
  { Rule.minimal ⟨1⟩ .manualTrigger [] with
    conditions := [.deviceLastChange "old_door" none none none none] }

theorem last_change_not_replaced :
    ¬ ∀ rule devices old new, referencePointsToDevice new old devices = false →
      ruleReferencesDevice old devices (replaceDeviceRefs old new devices rule) = false := by
  intro complete
  have replaced := complete lastChangeRule [oldDoor, newDoor] "old_door" "new_door" (by decide)
  exact absurd replaced (by decide)

end Resolver
end HomeCore
