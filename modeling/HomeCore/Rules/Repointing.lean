import HomeCore.Runs
import HomeCore.Rules.DeviceRefsProofs

/-! What becomes of the rules of a device that is deleted, and of those of a device that
another one replaces. A rule stands for the file that holds it; a file that cannot be written
ends an operation, and those after it stay as they are. -/
namespace HomeCore.Resolver

def deletedPlaceholder (deviceId : String) : String := "DELETED:" ++ deviceId

def deletedError (deviceId : String) : String := "references deleted device: " ++ deviceId

/-- A rule after its device is deleted, and whether its file is written. -/
def nullified (deviceId : String) (devices : List DeviceState) (rule : Rule) : Option Rule :=
  if ruleReferencesDevice deviceId devices rule then
    some { replaceDeviceRefs deviceId (deletedPlaceholder deviceId) devices rule with
      enabled := false
      error := some (deletedError deviceId) }
  else none

/-- The devices with stand-ins for the replaced one and for its placeholder. -/
def withStandIns (fromId : String) (devices : List DeviceState) (now : DateTime) : List DeviceState :=
  [deletedPlaceholder fromId, fromId].foldl (fun known id =>
    if known.any (·.deviceId = id) then known
    else known ++ [DeviceState.new id id "core.repoint" now]) devices

def namesReplaced (fromId : String) (known : List DeviceState) (rule : Rule) : Bool :=
  ruleReferencesDevice fromId known rule || ruleReferencesDevice (deletedPlaceholder fromId) known rule

/-- A rule after its device is replaced, and whether its file is written. -/
def repointed (fromId toId : String) (known : List DeviceState) (rule : Rule) : Option Rule :=
  if !namesReplaced fromId known rule then none
  else
    let rule := replaceDeviceRefs (deletedPlaceholder fromId) toId known rule
    let rule := replaceDeviceRefs fromId toId known rule
    some (if rule.error = some (deletedError fromId) then { rule with error := none, enabled := true }
      else rule)

/-- An operation on the rules, each with the devices there are and the number of files it
gets through. -/
inductive DeviceChange where
  | nullify (deviceId : String) (devices : List DeviceState) (files : Nat)
  | repoint (fromId toId : String) (devices : List DeviceState) (now : DateTime) (files : Nat)

namespace DeviceChange

def files : DeviceChange → Nat
  | nullify _ _ files => files
  | repoint _ _ _ _ files => files

def apply (change : DeviceChange) (rule : Rule) : Rule :=
  match change with
  | nullify deviceId devices _ => (nullified deviceId devices rule).getD rule
  | repoint fromId toId devices now _ =>
    (repointed fromId toId (withStandIns fromId devices now) rule).getD rule

end DeviceChange

/-! ## What the switch stands for -/

/-- A rule with the history of its switch: how it stood at first, and whether it was on before
the deletion that turned it off. -/
structure SwitchedRule where
  rule : Rule
  onAtFirst : Bool
  offByDeletion : Bool

namespace SwitchedRule

def found (rule : Rule) : SwitchedRule := ⟨rule, rule.enabled, false⟩

def change (switched : SwitchedRule) (change : DeviceChange) : SwitchedRule :=
  let after := change.apply switched.rule
  { switched with
    rule := after
    offByDeletion := if after.enabled then false else switched.offByDeletion || switched.rule.enabled }

end SwitchedRule

def changeRules (rules : List SwitchedRule) (change : DeviceChange) : List SwitchedRule :=
  (rules.take change.files).map (·.change change) ++ rules.drop change.files

def isPlaceholder (reference : String) : Bool := "DELETED:".toList.isPrefixOf reference.toList

/-- A rule that an operation turns on was on before the deletion that turned it off, and no
placeholder is left in it. -/
def SwitchesHonestly (rules : List SwitchedRule) (change : DeviceChange) : Prop :=
  ∀ switched ∈ rules.take change.files, switched.rule.enabled = false →
    (switched.change change).rule.enabled = true → switched.offByDeletion = true ∧
      ∀ reference ∈ (switched.change change).rule.references .everywhere,
        isPlaceholder reference = false

end HomeCore.Resolver

/-! When repointing turns a rule on that it should not. An error is overwritten by each
deletion and names the last one alone, whether or not the rule was on when it came; so a rule
that was off before is turned on by it, and so is one that other deletions left placeholders
in. -/
namespace HomeCore

/-! ## Every reference with its place -/

/-- A reference, and whether replacement writes the place where it stands. -/
abbrev Place := Bool × String

def writtenPlaces (references : List String) : List Place := references.map (true, ·)

def keptPlaces (references : List String) : List Place := references.map (false, ·)

def Trigger.places : Trigger → List Place
  | .deviceStateChanged deviceId deviceIds .. => writtenPlaces (deviceId :: deviceIds)
  | .deviceAvailabilityChanged deviceId .. => writtenPlaces [deviceId]
  | .buttonEvent deviceId .. => writtenPlaces [deviceId]
  | .numericThreshold deviceId .. => writtenPlaces [deviceId]
  | trigger => keptPlaces (trigger.references .everywhere)

mutual

def Condition.places : Condition → List Place
  | .deviceState deviceId .. => writtenPlaces [deviceId]
  | .timeElapsed deviceId .. => writtenPlaces [deviceId]
  | .not condition => condition.places
  | .and conditions => conditionsPlaces conditions
  | .or conditions => conditionsPlaces conditions
  | .xor conditions => conditionsPlaces conditions
  | condition => keptPlaces (condition.references .everywhere)

def conditionsPlaces : List Condition → List Place
  | [] => []
  | c :: rest => c.places ++ conditionsPlaces rest

end

def IfCheck.places : IfCheck → List Place
  | .script _ => []
  | .check condition => condition.places

mutual

def Action.places : Action → List Place
  | .setDeviceState deviceId .. => writtenPlaces [deviceId]
  | .setDeviceStatePerMode deviceId modes _ =>
    writtenPlaces [deviceId] ++ keptPlaces (modes.map (·.mode))
  | .fadeDevice deviceId .. => writtenPlaces [deviceId]
  | .waitForEvent _ deviceId .. => writtenPlaces deviceId.toList
  | .captureDeviceState _ deviceIds => writtenPlaces deviceIds
  | .parallel actions => actionsPlaces actions
  | .repeatUntil _ actions .. => actionsPlaces actions
  | .repeatWhile _ actions .. => actionsPlaces actions
  | .repeatCount _ actions _ => actionsPlaces actions
  | .conditional condition thenActions elseIf elseActions =>
    condition.places ++ (actionsPlaces thenActions ++
      (branchesPlaces elseIf ++ actionsPlaces elseActions))
  | .pingHost _ _ _ thenActions elseActions _ =>
    actionsPlaces thenActions ++ actionsPlaces elseActions
  | action => keptPlaces (action.references .everywhere)

def actionsPlaces : List Action → List Place
  | [] => []
  | a :: rest => a.places ++ actionsPlaces rest

def branchesPlaces : List (IfCheck × List Action) → List Place
  | [] => []
  | (condition, actions) :: rest =>
    condition.places ++ (actionsPlaces actions ++ branchesPlaces rest)

end

def Rule.places (rule : Rule) : List Place :=
  rule.allTriggers.flatMap Trigger.places ++
    (conditionsPlaces rule.conditions ++ rule.actions.flatMap fun ra => ra.action.places)

@[simp]
theorem snd_writtenPlaces (references : List String) :
    (writtenPlaces references).map Prod.snd = references := by
  simp [writtenPlaces]

@[simp]
theorem snd_keptPlaces (references : List String) :
    (keptPlaces references).map Prod.snd = references := by
  simp [keptPlaces]

/-! ## The places hold every reference -/

theorem Trigger.snd_places (trigger : Trigger) :
    trigger.places.map Prod.snd = trigger.references .everywhere := by
  cases trigger with
  | deviceStateChanged | deviceAvailabilityChanged | buttonEvent | numericThreshold =>
    simp [Trigger.places, Trigger.references]
  | _ => simp only [Trigger.places, snd_keptPlaces]

mutual

theorem Condition.snd_places : ∀ condition : Condition,
    condition.places.map Prod.snd = condition.references .everywhere
  | .deviceState .. | .timeElapsed .. => by simp [Condition.places, Condition.references]
  | .not condition => by
    simp only [Condition.places, Condition.references, Condition.snd_places condition]
  | .and conditions | .or conditions | .xor conditions => by
    simp only [Condition.places, Condition.references, snd_conditionsPlaces conditions]
  | .deviceLastChange .. | .timeWindow .. | .scriptExpression .. | .privateBooleanIs ..
  | .hubVariable .. | .modeIs .. | .calendarActive .. | .alertActive .. | .noAlertActive ..
  | .triggerAlertActive => by
    simp only [Condition.places, snd_keptPlaces]

theorem snd_conditionsPlaces : ∀ conditions : List Condition,
    (conditionsPlaces conditions).map Prod.snd = conditionsReferences .everywhere conditions
  | [] => by simp [conditionsPlaces, conditionsReferences]
  | c :: rest => by
    simp only [conditionsPlaces, conditionsReferences, List.map_append, Condition.snd_places c,
      snd_conditionsPlaces rest]

end

theorem IfCheck.snd_places (check : IfCheck) :
    check.places.map Prod.snd = check.references .everywhere := by
  cases check with
  | script expression => rfl
  | check condition => exact Condition.snd_places condition

mutual

theorem Action.snd_places (action : Action) :
    action.places.map Prod.snd = action.references .everywhere := by
  match action with
  | .setDeviceState .. | .setDeviceStatePerMode .. | .fadeDevice .. | .waitForEvent ..
  | .captureDeviceState .. =>
    simp [Action.places, Action.references, Scope.unwalked]
  | .parallel actions | .repeatUntil _ actions .. | .repeatWhile _ actions ..
  | .repeatCount _ actions _ =>
    simp only [Action.places, Action.references, snd_actionsPlaces actions]
  | .conditional condition thenActions elseIf elseActions =>
    simp only [Action.places, Action.references, List.map_append, IfCheck.snd_places condition,
      snd_actionsPlaces thenActions, snd_branchesPlaces elseIf, snd_actionsPlaces elseActions]
  | .pingHost _ _ _ thenActions elseActions _ =>
    simp only [Action.places, Action.references, List.map_append, snd_actionsPlaces thenActions,
      snd_actionsPlaces elseActions]
  | .publishMqtt .. | .callService .. | .fireEvent .. | .runScript .. | .notify .. | .delay ..
  | .stopRuleChain | .exitRule | .comment .. | .waitForExpression .. | .setVariable ..
  | .runRuleActions .. | .pauseRule .. | .resumeRule .. | .cancelDelays .. | .cancelRuleTimers ..
  | .setPrivateBoolean .. | .logMessage .. | .restoreDeviceState .. | .delayPerMode ..
  | .setHubVariable .. | .activateScenePerMode .. | .setMode .. | .forEachAlert .. | .pressAlert ..
  | .waitAlertCleared .. | .acknowledgeAlert .. | .skipAlert .. | .ignoreAlerts .. =>
    simp only [Action.places, snd_keptPlaces]

theorem snd_actionsPlaces (actions : List Action) :
    (actionsPlaces actions).map Prod.snd = actionsReferences .everywhere actions := by
  match actions with
  | [] => simp [actionsPlaces, actionsReferences]
  | a :: rest =>
    simp only [actionsPlaces, actionsReferences, List.map_append, Action.snd_places a,
      snd_actionsPlaces rest]

theorem snd_branchesPlaces (branches : List (IfCheck × List Action)) :
    (branchesPlaces branches).map Prod.snd = branchesReferences .everywhere branches := by
  match branches with
  | [] => simp [branchesPlaces, branchesReferences]
  | (condition, actions) :: rest =>
    simp only [branchesPlaces, branchesReferences, List.map_append, IfCheck.snd_places condition,
      snd_actionsPlaces actions, snd_branchesPlaces rest]

end

theorem Rule.snd_places (rule : Rule) : rule.places.map Prod.snd = rule.references .everywhere := by
  simp only [Rule.places, Rule.references, List.map_append, List.map_flatMap, Trigger.snd_places,
    snd_conditionsPlaces, Action.snd_places]

/-! ## What replacement writes -/

/-- What becomes of a place where references are rewritten. -/
def rewritten (rewrite : String → String) (place : Place) : Place :=
  (place.1, if place.1 then rewrite place.2 else place.2)

@[simp]
theorem map_writtenPlaces (rewrite : String → String) (references : List String) :
    (writtenPlaces references).map (rewritten rewrite) = writtenPlaces (references.map rewrite) := by
  simp [writtenPlaces, rewritten]

@[simp]
theorem map_keptPlaces (rewrite : String → String) (references : List String) :
    (keptPlaces references).map (rewritten rewrite) = keptPlaces references := by
  simp [keptPlaces, rewritten]

namespace Resolver

variable {deviceId placeholder : String} {devices : List DeviceState}

theorem triggerPlaces_replaced (trigger : Trigger) :
    (replaceInTrigger deviceId placeholder devices trigger).places =
      trigger.places.map (rewritten (replacedReference deviceId placeholder devices)) := by
  cases trigger with
  | deviceStateChanged | deviceAvailabilityChanged | buttonEvent | numericThreshold =>
    simp only [replaceInTrigger, Trigger.places, map_writtenPlaces, List.map_cons, List.map_nil]
  | _ => simp only [replaceInTrigger, Trigger.places, map_keptPlaces]

mutual

theorem conditionPlaces_replaced :
    ∀ condition : Condition, (replaceInCondition deviceId placeholder devices condition).places =
      condition.places.map (rewritten (replacedReference deviceId placeholder devices))
  | .deviceState .. | .timeElapsed .. => by
    simp only [replaceInCondition, Condition.places, map_writtenPlaces, List.map_cons, List.map_nil]
  | .not condition => by
    simp only [replaceInCondition, Condition.places, conditionPlaces_replaced condition]
  | .and conditions | .or conditions | .xor conditions => by
    simp only [replaceInCondition, Condition.places, conditionsPlaces_replaced conditions]
  | .deviceLastChange .. | .timeWindow .. | .scriptExpression .. | .privateBooleanIs ..
  | .hubVariable .. | .modeIs .. | .calendarActive .. | .alertActive .. | .noAlertActive ..
  | .triggerAlertActive => by
    simp only [replaceInCondition, Condition.places, map_keptPlaces]

theorem conditionsPlaces_replaced :
    ∀ conditions : List Condition,
      conditionsPlaces (replaceInConditions deviceId placeholder devices conditions) =
        (conditionsPlaces conditions).map (rewritten (replacedReference deviceId placeholder devices))
  | [] => by simp [replaceInConditions, conditionsPlaces]
  | c :: rest => by
    simp only [replaceInConditions, conditionsPlaces, List.map_append, conditionPlaces_replaced c,
      conditionsPlaces_replaced rest]

end

theorem checkPlaces_replaced (check : IfCheck) :
    (replaceInCheck deviceId placeholder devices check).places =
      check.places.map (rewritten (replacedReference deviceId placeholder devices)) := by
  cases check with
  | script expression => rfl
  | check condition => exact conditionPlaces_replaced condition

mutual

theorem actionPlaces_replaced (action : Action) :
    (replaceInAction deviceId placeholder devices action).places =
      action.places.map (rewritten (replacedReference deviceId placeholder devices)) := by
  match action with
  | .setDeviceState .. | .setDeviceStatePerMode .. | .fadeDevice .. | .waitForEvent _ (some _) ..
  | .captureDeviceState .. =>
    simp [replaceInAction, Action.places]
  | .parallel actions | .repeatUntil _ actions .. | .repeatWhile _ actions ..
  | .repeatCount _ actions _ =>
    simp only [replaceInAction, Action.places, actionsPlaces_replaced actions]
  | .conditional condition thenActions elseIf elseActions =>
    simp only [replaceInAction, Action.places, List.map_append, checkPlaces_replaced condition,
      actionsPlaces_replaced thenActions, branchesPlaces_replaced elseIf,
      actionsPlaces_replaced elseActions]
  | .pingHost _ _ _ thenActions elseActions _ =>
    simp only [replaceInAction, Action.places, List.map_append, actionsPlaces_replaced thenActions,
      actionsPlaces_replaced elseActions]
  | .waitForEvent _ none .. => simp [replaceInAction, Action.places]
  | .publishMqtt .. | .callService .. | .fireEvent .. | .runScript .. | .notify .. | .delay ..
  | .stopRuleChain | .exitRule | .comment .. | .waitForExpression .. | .setVariable ..
  | .runRuleActions .. | .pauseRule .. | .resumeRule .. | .cancelDelays .. | .cancelRuleTimers ..
  | .setPrivateBoolean .. | .logMessage .. | .restoreDeviceState .. | .delayPerMode ..
  | .setHubVariable .. | .activateScenePerMode .. | .setMode .. | .forEachAlert .. | .pressAlert ..
  | .waitAlertCleared .. | .acknowledgeAlert .. | .skipAlert .. | .ignoreAlerts .. =>
    simp only [replaceInAction, Action.places, map_keptPlaces]

theorem actionsPlaces_replaced (actions : List Action) :
    actionsPlaces (replaceInActions deviceId placeholder devices actions) =
      (actionsPlaces actions).map (rewritten (replacedReference deviceId placeholder devices)) := by
  match actions with
  | [] => simp [replaceInActions, actionsPlaces]
  | a :: rest =>
    simp only [replaceInActions, actionsPlaces, List.map_append, actionPlaces_replaced a,
      actionsPlaces_replaced rest]

theorem branchesPlaces_replaced (branches : List (IfCheck × List Action)) :
    branchesPlaces (replaceInBranches deviceId placeholder devices branches) =
      (branchesPlaces branches).map (rewritten (replacedReference deviceId placeholder devices)) := by
  match branches with
  | [] => simp [replaceInBranches, branchesPlaces]
  | (condition, actions) :: rest =>
    simp only [replaceInBranches, branchesPlaces, List.map_append, checkPlaces_replaced condition,
      actionsPlaces_replaced actions, branchesPlaces_replaced rest]

end

theorem rulePlaces_replaced (rule : Rule) :
    (replaceDeviceRefs deviceId placeholder devices rule).places =
      rule.places.map (rewritten (replacedReference deviceId placeholder devices)) := by
  have triggers : (replaceDeviceRefs deviceId placeholder devices rule).allTriggers =
      rule.allTriggers.map (replaceInTrigger deviceId placeholder devices) := rfl
  rw [Rule.places, triggers, Rule.places]
  simp only [List.map_append, List.map_flatMap, List.flatMap_map, triggerPlaces_replaced,
    replaceDeviceRefs, conditionsPlaces_replaced, actionPlaces_replaced]

/-! ## What repointing writes -/

section Repointing
variable {fromId toId : String} {known : List DeviceState}

/-- The reference resolves to the replaced device or to its placeholder. -/
def standsFor (fromId : String) (known : List DeviceState) (reference : String) : Bool :=
  referencePointsToDevice reference (deletedPlaceholder fromId) known ||
    referencePointsToDevice reference fromId known

theorem replaced_twice (reference : String) :
    replacedReference fromId toId known
        (replacedReference (deletedPlaceholder fromId) toId known reference) =
      if standsFor fromId known reference then toId else reference := by
  cases points : referencePointsToDevice reference (deletedPlaceholder fromId) known with
  | true => simp [replacedReference, standsFor, points]
  | false => simp [replacedReference, standsFor, points]

/-- The places of a rule that is repointed. -/
theorem places_repointed {rule after : Rule} (changed : repointed fromId toId known rule = some after) :
    after.places = rule.places.map (rewritten fun reference =>
      if standsFor fromId known reference then toId else reference) := by
  have sameAs : after.places = (replaceDeviceRefs fromId toId known
      (replaceDeviceRefs (deletedPlaceholder fromId) toId known rule)).places := by
    simp only [repointed] at changed
    split at changed
    · cases changed
    · cases changed
      split <;> rfl
  rw [sameAs, rulePlaces_replaced, rulePlaces_replaced, List.map_map]
  refine List.map_congr_left fun place _ => ?_
  cases here : place.1 with
  | true => simp [rewritten, here, replaced_twice]
  | false => simp [rewritten, here]

/-- What turns on a rule that was off. -/
theorem enabled_repointed_iff {rule : Rule} (off : rule.enabled = false) :
    ((repointed fromId toId known rule).getD rule).enabled = true ↔
      namesReplaced fromId known rule = true ∧ rule.error = some (deletedError fromId) := by
  simp only [repointed]
  cases names : namesReplaced fromId known rule with
  | false => simp [off]
  | true =>
    have sameError : (replaceDeviceRefs fromId toId known
        (replaceDeviceRefs (deletedPlaceholder fromId) toId known rule)).error = rule.error := rfl
    have sameSwitch : (replaceDeviceRefs fromId toId known
        (replaceDeviceRefs (deletedPlaceholder fromId) toId known rule)).enabled = rule.enabled := rfl
    simp only [Bool.not_true, Bool.false_eq_true, if_false, sameError, Option.getD_some, true_and]
    split
    · simp_all
    · simp_all

end Repointing

theorem enabled_nullified {rule : Rule} (off : rule.enabled = false) :
    ((nullified deviceId devices rule).getD rule).enabled = false := by
  simp only [nullified]
  split
  · rfl
  · exact off

/-! ## Steps and runs -/

/-- Every rule that is off, names the replaced device and bears the error of its deletion was
on at first, and each placeholder in it stands for that device, where replacement writes it,
while the new device's id is none. -/
def KeepsSwitches (rules : List SwitchedRule) : DeviceChange → Prop
  | .nullify .. => True
  | .repoint fromId toId devices now files => ∀ switched ∈ rules.take files,
    switched.rule.enabled = false → switched.rule.error = some (deletedError fromId) →
    namesReplaced fromId (withStandIns fromId devices now) switched.rule = true →
    switched.onAtFirst = true ∧ ∀ place ∈ switched.rule.places,
      (if place.1 && standsFor fromId (withStandIns fromId devices now) place.2 then isPlaceholder toId
        else isPlaceholder place.2) = false

/-- A rule that is off was on at first where a deletion has turned it off since, and there only. -/
def Accounted (rules : List SwitchedRule) : Prop :=
  ∀ switched ∈ rules, (switched.rule.enabled = true → switched.onAtFirst = true) ∧
    (switched.rule.enabled = false → switched.offByDeletion = switched.onAtFirst)

variable {rules : List SwitchedRule}

theorem changeRules_accounted (accounted : Accounted rules) (change : DeviceChange)
    (honest : SwitchesHonestly rules change) : Accounted (changeRules rules change) := by
  intro after member
  rcases List.mem_append.mp member with reached | untouched
  · obtain ⟨switched, there, rfl⟩ := List.mem_map.mp reached
    obtain ⟨onAtFirst, offSince⟩ := accounted switched (List.mem_of_mem_take there)
    have turnedOn := honest switched there
    constructor
    · intro on
      cases before : switched.rule.enabled with
      | true => exact onAtFirst before
      | false => exact (offSince before).symm.trans (turnedOn before on).1
    · intro off
      change (if (change.apply switched.rule).enabled then false
        else switched.offByDeletion || switched.rule.enabled) = switched.onAtFirst
      rw [if_neg (by simpa [SwitchedRule.change] using off)]
      cases before : switched.rule.enabled with
      | true => simp [onAtFirst before]
      | false => simp [offSince before]
  · exact accounted after (List.mem_of_mem_drop untouched)

theorem references_repointed {fromId toId : String} {known : List DeviceState} {rule : Rule}
    (names : namesReplaced fromId known rule = true) :
    (∀ reference ∈ ((repointed fromId toId known rule).getD rule).references .everywhere,
        isPlaceholder reference = false) ↔
      ∀ place ∈ rule.places, (if place.1 && standsFor fromId known place.2 then isPlaceholder toId
        else isPlaceholder place.2) = false := by
  obtain ⟨after, changed⟩ : ∃ after, repointed fromId toId known rule = some after := by
    simp [repointed, names]
  rw [changed, Option.getD_some, ← Rule.snd_places, places_repointed changed, List.map_map]
  simp only [List.forall_mem_map]
  refine forall₂_congr fun place _ => ?_
  cases here : place.1 with
  | true =>
    simp only [Function.comp_apply, rewritten, here, if_true, Bool.true_and]
    split <;> rfl
  | false => simp [rewritten, here]

theorem honest_iff (accounted : Accounted rules) (change : DeviceChange) :
    SwitchesHonestly rules change ↔ KeepsSwitches rules change := by
  cases change with
  | nullify deviceId devices files =>
    refine iff_of_true ?_ trivial
    intro switched _ off on
    have stays : ((nullified deviceId devices switched.rule).getD switched.rule).enabled = false :=
      enabled_nullified off
    rw [show (switched.change (.nullify deviceId devices files)).rule.enabled = false from stays] at on
    cases on
  | repoint fromId toId devices now files =>
    refine forall₂_congr fun switched there => forall_congr' fun off => ?_
    have known := accounted switched (List.mem_of_mem_take there)
    have turnsOn : (switched.change (.repoint fromId toId devices now files)).rule.enabled = true ↔ _ :=
      enabled_repointed_iff off
    rw [turnsOn, known.2 off]
    constructor
    · intro honest error names
      obtain ⟨onAtFirst, clean⟩ := honest ⟨names, error⟩
      exact ⟨onAtFirst, (references_repointed names).mp clean⟩
    · rintro kept ⟨names, error⟩
      obtain ⟨onAtFirst, clean⟩ := kept error names
      exact ⟨onAtFirst, (references_repointed names).mpr clean⟩

/-- Over every sequence of deletions and replacements, a rule is turned on only where it was
on before it was turned off and no placeholder is left in it, if and only if each replacement
finds nothing else to turn on. -/
theorem switches_honest_iff (rules : List Rule) (changes : List DeviceChange) :
    Runs.EachStep changeRules SwitchesHonestly (rules.map SwitchedRule.found) changes ↔
      Runs.EachStep changeRules KeepsSwitches (rules.map SwitchedRule.found) changes := by
  have accounted : Accounted (rules.map SwitchedRule.found) := by
    intro switched member
    obtain ⟨rule, _, rfl⟩ := List.mem_map.mp member
    exact ⟨fun on => on, fun off => off.symm⟩
  exact Runs.eachStep_iff_under Accounted (fun _ change => fun accounted honest =>
    changeRules_accounted accounted change honest) (fun _ change accounted => honest_iff accounted change)
    accounted changes

def sideDoor : DeviceState := DeviceState.new "side_door" "Side door" "test" 0

/-- The owner has this rule off. -/
def offRule : SwitchedRule := .found { doorRule with enabled := false }

/-- This rule waits for one door and writes to another. -/
def twoDoorsRule : SwitchedRule := .found
  (Rule.minimal ⟨2⟩ (.buttonEvent "old_door" none .pushed) [.setDeviceState "side_door" .null false])

def sideDoorDeleted : DeviceChange := .nullify "side_door" [oldDoor, sideDoor, newDoor] 1

def oldDoorDeleted : DeviceChange := .nullify "old_door" [oldDoor, newDoor] 1

def oldDoorReplaced : DeviceChange := .repoint "old_door" "new_door" [newDoor] 0 1

/-- The rule that was off is turned on, and so is the one whose other door stays deleted. -/
theorem turned_on_wrongly :
    ¬ Runs.EachStep changeRules SwitchesHonestly [offRule] [oldDoorDeleted, oldDoorReplaced] ∧
      ¬ Runs.EachStep changeRules SwitchesHonestly [twoDoorsRule]
        [sideDoorDeleted, oldDoorDeleted, oldDoorReplaced] := by
  constructor
  · rintro ⟨_, honest, _⟩
    have found := honest (offRule.change oldDoorDeleted) List.mem_cons_self (by decide)
      (by decide)
    exact absurd found.1 (by decide)
  · rintro ⟨_, _, honest, _⟩
    have found := honest ((twoDoorsRule.change sideDoorDeleted).change oldDoorDeleted)
      List.mem_cons_self (by decide) (by decide)
    exact absurd (found.2 "DELETED:side_door" (by decide)) (by decide)

end Resolver
end HomeCore
