import HomeCore.Rules.Resolver

/-! What compilation guarantees about the references it walks. -/
namespace HomeCore
open Outcome Resolver

/-- Which references are collected: those the compiler walks, or every one. -/
inductive Scope where
  | walked
  | everywhere
  deriving DecidableEq

/-- References that the compiler leaves as they are written. -/
def Scope.unwalked (scope : Scope) (references : List String) : List String :=
  match scope with
  | .walked => []
  | .everywhere => references

def Trigger.references (scope : Scope) : Trigger → List String
  | .deviceStateChanged deviceId deviceIds .. => deviceId :: deviceIds
  | .deviceAvailabilityChanged deviceId .. => [deviceId]
  | .buttonEvent deviceId .. => [deviceId]
  | .numericThreshold deviceId .. => [deviceId]
  | .deviceBatteryLow deviceId => scope.unwalked deviceId.toList
  | .deviceBatteryRecovered deviceId => scope.unwalked deviceId.toList
  | .modeChanged modeId _ => scope.unwalked modeId.toList
  | .alertRaised filter => scope.unwalked filter.deviceIds
  | .alertCleared filter => scope.unwalked filter.deviceIds
  | .alertAcknowledged filter => scope.unwalked filter.deviceIds
  | .alertActiveFor filter _ => scope.unwalked filter.deviceIds
  | _ => []

mutual

def Condition.references (scope : Scope) : Condition → List String
  | .deviceState deviceId .. => [deviceId]
  | .timeElapsed deviceId .. => [deviceId]
  | .deviceLastChange deviceId .. => [deviceId]
  | .not condition => condition.references scope
  | .and conditions => conditionsReferences scope conditions
  | .or conditions => conditionsReferences scope conditions
  | .xor conditions => conditionsReferences scope conditions
  | .modeIs modeId _ => scope.unwalked [modeId]
  | .alertActive filter _ => scope.unwalked filter.deviceIds
  | .noAlertActive filter => scope.unwalked filter.deviceIds
  | _ => []

def conditionsReferences (scope : Scope) : List Condition → List String
  | [] => []
  | c :: rest => c.references scope ++ conditionsReferences scope rest

end

def IfCheck.references (scope : Scope) : IfCheck → List String
  | .script _ => []
  | .check condition => condition.references scope

mutual

def Action.references (scope : Scope) : Action → List String
  | .setDeviceState deviceId .. => [deviceId]
  | .setDeviceStatePerMode deviceId modes _ =>
    deviceId :: scope.unwalked (modes.map (·.mode))
  | .fadeDevice deviceId .. => [deviceId]
  | .waitForEvent _ deviceId .. => deviceId.toList
  | .captureDeviceState _ deviceIds => deviceIds
  | .parallel actions => actionsReferences scope actions
  | .repeatUntil _ actions .. => actionsReferences scope actions
  | .repeatWhile _ actions .. => actionsReferences scope actions
  | .repeatCount _ actions _ => actionsReferences scope actions
  | .conditional condition thenActions elseIf elseActions =>
    condition.references scope ++ (actionsReferences scope thenActions ++
      (branchesReferences scope elseIf ++ actionsReferences scope elseActions))
  | .pingHost _ _ _ thenActions elseActions _ =>
    actionsReferences scope thenActions ++ actionsReferences scope elseActions
  | .delayPerMode modes _ => scope.unwalked (modes.map (·.mode))
  | .activateScenePerMode modes _ => scope.unwalked (modes.map (·.mode))
  | .setMode modeId _ => scope.unwalked [modeId]
  | .forEachAlert filter actions =>
    scope.unwalked (filter.deviceIds ++ actionsReferences scope actions)
  | .waitAlertCleared _ _ otherwise => scope.unwalked (actionsReferences scope otherwise)
  | .ignoreAlerts filter .. => scope.unwalked filter.deviceIds
  | _ => []

def actionsReferences (scope : Scope) : List Action → List String
  | [] => []
  | a :: rest => a.references scope ++ actionsReferences scope rest

def branchesReferences (scope : Scope) : List (IfCheck × List Action) → List String
  | [] => []
  | (condition, actions) :: rest =>
    condition.references scope ++ (actionsReferences scope actions ++ branchesReferences scope rest)

end

def Rule.references (scope : Scope) (rule : Rule) : List String :=
  rule.allTriggers.flatMap (Trigger.references scope) ++
    (conditionsReferences scope rule.conditions ++
      rule.actions.flatMap fun ra => ra.action.references scope)

namespace Resolver

/-- No device has the reference as its id, its canonical name or a label. -/
def Unknown (reference : String) (devices : List DeviceState) : Prop :=
  ∀ d ∈ devices, d.deviceId ≠ reference ∧ d.canonicalName ≠ some reference ∧
    nameMatches reference d = false

/-- Only labels match the reference, and more than one device has one. -/
def Ambiguous (reference : String) (devices : List DeviceState) : Prop :=
  (∀ d ∈ devices, d.deviceId ≠ reference ∧ d.canonicalName ≠ some reference) ∧
    2 ≤ (devices.filter (nameMatches reference)).length

/-- One reference and what it resolved to. -/
def ResolvesTo (devices : List DeviceState) (reference id : String) : Prop :=
  resolveReference reference devices = .ok id

theorem resolvesTo_known (resolved : ResolvesTo devices reference target) :
    ∃ d ∈ devices, d.deviceId = target := by
  unfold ResolvesTo resolveReference at resolved
  split at resolved
  · rename_i d found
    exact ⟨d, List.mem_of_find?_eq_some found, Except.ok.inj resolved⟩
  · split at resolved
    · rename_i d found
      exact ⟨d, List.mem_of_find?_eq_some found, Except.ok.inj resolved⟩
    · split at resolved
      · rename_i d only
        have member : d ∈ devices.filter (nameMatches reference) := by simp [only]
        exact ⟨d, (List.mem_filter.mp member).1, Except.ok.inj resolved⟩
      · contradiction
      · contradiction

theorem resolved_known (all : List.Forall₂ (ResolvesTo devices) references targets) :
    ∀ r ∈ targets, ∃ d ∈ devices, d.deviceId = r := by
  induction all with
  | nil => simp
  | cons head _ ih =>
    intro r member
    rcases List.mem_cons.mp member with rfl | member
    · exact resolvesTo_known head
    · exact ih r member

theorem resolveReference_error (failed : resolveReference reference devices = .error why) :
    Unknown reference devices ∨ Ambiguous reference devices := by
  unfold resolveReference at failed
  split at failed
  · contradiction
  · rename_i noId
    split at failed
    · contradiction
    · rename_i noName
      have unnamed : ∀ d ∈ devices, d.deviceId ≠ reference ∧ d.canonicalName ≠ some reference := by
        intro d member
        constructor
        · simpa using List.find?_eq_none.mp noId d member
        · simpa using List.find?_eq_none.mp noName d member
      split at failed
      · contradiction
      · rename_i none_
        left
        intro d member
        refine ⟨(unnamed d member).1, (unnamed d member).2, ?_⟩
        simpa using List.filter_eq_nil_iff.mp none_ d member
      · rename_i several notOne notNone
        right
        refine ⟨unnamed, ?_⟩
        rcases h : devices.filter (nameMatches reference) with _ | ⟨d, _ | ⟨d', rest⟩⟩
        · exact absurd h notNone
        · exact absurd h (notOne d)
        · simp

theorem resolveTrigger_ok {trigger compiled : Trigger}
    (resolved : resolveTrigger devices trigger = .ok compiled) :
    List.Forall₂ (ResolvesTo devices) (trigger.references .walked)
      (compiled.references .walked) := by
  cases trigger with
  | deviceStateChanged =>
    simp only [resolveTrigger, resolveReferences, bind_ok, pure_ok, mapM_ok] at resolved
    obtain ⟨id, first, ids, others, rfl⟩ := resolved
    exact .cons first others
  | deviceAvailabilityChanged | buttonEvent | numericThreshold =>
    simp only [resolveTrigger, bind_ok, pure_ok] at resolved
    obtain ⟨id, first, rfl⟩ := resolved
    exact .cons first .nil
  | _ =>
    simp only [resolveTrigger, pure_ok] at resolved
    subst resolved
    exact .nil

theorem resolveTrigger_error {trigger : Trigger}
    (failed : resolveTrigger devices trigger = .error why) :
    ∃ r ∈ trigger.references .walked, resolveReference r devices = .error why := by
  cases trigger with
  | deviceStateChanged =>
    simp only [resolveTrigger, resolveReferences, bind_error, pure_error, and_false, exists_false,
      or_false] at failed
    rcases failed with first | ⟨id, _, later⟩
    · exact ⟨_, List.mem_cons_self, first⟩
    · obtain ⟨r, member, failed⟩ := mapM_error later
      exact ⟨r, List.mem_cons_of_mem _ member, failed⟩
  | deviceAvailabilityChanged | buttonEvent | numericThreshold =>
    simp only [resolveTrigger, bind_error, pure_error, and_false, exists_false, or_false] at failed
    exact ⟨_, List.mem_cons_self, failed⟩
  | _ => simp only [resolveTrigger, pure_error] at failed

variable {devices : List DeviceState}

mutual

theorem resolveCondition_ok : ∀ (condition : Condition) {compiled},
    resolveCondition devices condition = .ok compiled →
    List.Forall₂ (ResolvesTo devices) (condition.references .walked) (compiled.references .walked)
  | .deviceState .., _, resolved | .timeElapsed .., _, resolved
  | .deviceLastChange .., _, resolved => by
    simp only [resolveCondition, bind_ok, pure_ok] at resolved
    obtain ⟨target, first, rfl⟩ := resolved
    simp only [Condition.references]
    exact .cons first .nil
  | .not condition, _, resolved => by
    simp only [resolveCondition, bind_ok, pure_ok] at resolved
    obtain ⟨inner, resolved, rfl⟩ := resolved
    simpa only [Condition.references] using resolveCondition_ok condition resolved
  | .and conditions, _, resolved | .or conditions, _, resolved | .xor conditions, _, resolved => by
    simp only [resolveCondition, bind_ok, pure_ok] at resolved
    obtain ⟨inner, resolved, rfl⟩ := resolved
    simpa only [Condition.references] using resolveConditions_ok conditions resolved
  | .timeWindow .., _, resolved | .scriptExpression .., _, resolved
  | .privateBooleanIs .., _, resolved | .hubVariable .., _, resolved | .modeIs .., _, resolved
  | .calendarActive .., _, resolved | .alertActive .., _, resolved | .noAlertActive .., _, resolved
  | .triggerAlertActive, _, resolved => by
    simp only [resolveCondition, pure_ok] at resolved
    subst resolved
    simp [Condition.references, Scope.unwalked]

theorem resolveConditions_ok : ∀ (conditions : List Condition) {compiled},
    resolveConditions devices conditions = .ok compiled →
    List.Forall₂ (ResolvesTo devices) (conditionsReferences .walked conditions)
      (conditionsReferences .walked compiled)
  | [], _, resolved => by
    cases resolved
    exact .nil
  | c :: rest, _, resolved => by
    simp only [resolveConditions, bind_ok, pure_ok] at resolved
    obtain ⟨c', head, rest', tail, rfl⟩ := resolved
    simpa only [conditionsReferences] using
      List.rel_append (resolveCondition_ok c head) (resolveConditions_ok rest tail)

end

mutual

theorem resolveCondition_error : ∀ (condition : Condition) {why},
    resolveCondition devices condition = .error why →
    ∃ r ∈ condition.references .walked, resolveReference r devices = .error why
  | .deviceState .., _, failed | .timeElapsed .., _, failed | .deviceLastChange .., _, failed => by
    simp only [resolveCondition, bind_error, pure_error, and_false, exists_false, or_false] at failed
    exact ⟨_, by simp only [Condition.references, List.mem_singleton], failed⟩
  | .not condition, _, failed => by
    simp only [resolveCondition, bind_error, pure_error, and_false, exists_false, or_false] at failed
    simpa only [Condition.references] using resolveCondition_error condition failed
  | .and conditions, _, failed | .or conditions, _, failed | .xor conditions, _, failed => by
    simp only [resolveCondition, bind_error, pure_error, and_false, exists_false, or_false] at failed
    simpa only [Condition.references] using resolveConditions_error conditions failed
  | .timeWindow .., _, failed | .scriptExpression .., _, failed | .privateBooleanIs .., _, failed
  | .hubVariable .., _, failed | .modeIs .., _, failed | .calendarActive .., _, failed
  | .alertActive .., _, failed | .noAlertActive .., _, failed | .triggerAlertActive, _, failed => by
    simp only [resolveCondition, pure_error] at failed

theorem resolveConditions_error :
    ∀ (conditions : List Condition) {why}, resolveConditions devices conditions = .error why →
    ∃ r ∈ conditionsReferences .walked conditions, resolveReference r devices = .error why
  | [], _, failed => by cases failed
  | c :: rest, _, failed => by
    simp only [resolveConditions, bind_error, pure_error, and_false, exists_false, or_false] at failed
    simp only [conditionsReferences, List.mem_append]
    rcases failed with head | ⟨_, _, tail⟩
    · obtain ⟨r, member, failed⟩ := resolveCondition_error c head
      exact ⟨r, .inl member, failed⟩
    · obtain ⟨r, member, failed⟩ := resolveConditions_error rest tail
      exact ⟨r, .inr member, failed⟩

end

theorem resolveCheck_ok {check compiled : IfCheck} (resolved : resolveCheck devices check = .ok compiled) :
    List.Forall₂ (ResolvesTo devices) (check.references .walked) (compiled.references .walked) := by
  cases check with
  | script expression =>
    cases resolved
    exact .nil
  | check condition =>
    simp only [resolveCheck, bind_ok, pure_ok] at resolved
    obtain ⟨inner, resolved, rfl⟩ := resolved
    exact resolveCondition_ok condition resolved

theorem resolveCheck_error {check : IfCheck} (failed : resolveCheck devices check = .error why) :
    ∃ r ∈ check.references .walked, resolveReference r devices = .error why := by
  cases check with
  | script expression => cases failed
  | check condition =>
    simp only [resolveCheck, bind_error, pure_error, and_false, exists_false, or_false] at failed
    exact resolveCondition_error condition failed

mutual

theorem resolveAction_ok (action : Action) {compiled : Action}
    (resolved : resolveAction devices action = .ok compiled) :
    List.Forall₂ (ResolvesTo devices) (action.references .walked) (compiled.references .walked) := by
  match action with
  | .setDeviceState .. | .fadeDevice .. =>
    simp only [resolveAction, bind_ok, pure_ok] at resolved
    obtain ⟨target, first, rfl⟩ := resolved
    simp only [Action.references]
    exact .cons first .nil
  | .setDeviceStatePerMode .. =>
    simp only [resolveAction, bind_ok, pure_ok] at resolved
    obtain ⟨target, first, rfl⟩ := resolved
    simp only [Action.references, Scope.unwalked]
    exact .cons first .nil
  | .waitForEvent _ (some deviceId) .. =>
    simp only [resolveAction, bind_ok, pure_ok] at resolved
    obtain ⟨target, first, rfl⟩ := resolved
    simp only [Action.references]
    exact .cons first .nil
  | .captureDeviceState .. =>
    simp only [resolveAction, resolveReferences, bind_ok, pure_ok, mapM_ok] at resolved
    obtain ⟨targets, all, rfl⟩ := resolved
    simp only [Action.references]
    exact all
  | .parallel actions | .repeatUntil _ actions .. | .repeatWhile _ actions ..
  | .repeatCount _ actions _ =>
    simp only [resolveAction, bind_ok, pure_ok] at resolved
    obtain ⟨inner, resolved, rfl⟩ := resolved
    simp only [Action.references]
    exact resolveActions_ok actions resolved
  | .conditional condition thenActions elseIf elseActions =>
    simp only [resolveAction, bind_ok, pure_ok] at resolved
    obtain ⟨c, checked, t, thens, b, branches, e, elses, rfl⟩ := resolved
    simp only [Action.references]
    exact List.rel_append (resolveCheck_ok checked) (List.rel_append (resolveActions_ok _ thens)
      (List.rel_append (resolveBranches_ok _ branches) (resolveActions_ok _ elses)))
  | .pingHost _ _ _ thenActions elseActions _ =>
    simp only [resolveAction, bind_ok, pure_ok] at resolved
    obtain ⟨t, thens, e, elses, rfl⟩ := resolved
    simp only [Action.references]
    exact List.rel_append (resolveActions_ok _ thens) (resolveActions_ok _ elses)
  | .waitForEvent _ none .. | .publishMqtt .. | .callService .. | .fireEvent .. | .runScript ..
  | .notify .. | .delay .. | .stopRuleChain | .exitRule | .comment .. | .waitForExpression ..
  | .setVariable .. | .runRuleActions .. | .pauseRule .. | .resumeRule .. | .cancelDelays ..
  | .cancelRuleTimers .. | .setPrivateBoolean .. | .logMessage .. | .restoreDeviceState ..
  | .delayPerMode .. | .setHubVariable .. | .activateScenePerMode .. | .setMode ..
  | .forEachAlert .. | .pressAlert .. | .waitAlertCleared .. | .acknowledgeAlert ..
  | .skipAlert .. | .ignoreAlerts .. =>
    simp only [resolveAction, pure_ok] at resolved
    subst resolved
    simp [Action.references, Scope.unwalked]

theorem resolveActions_ok (actions : List Action) {compiled : List Action}
    (resolved : resolveActions devices actions = .ok compiled) :
    List.Forall₂ (ResolvesTo devices) (actionsReferences .walked actions)
      (actionsReferences .walked compiled) := by
  match actions with
  | [] =>
    cases resolved
    exact .nil
  | a :: rest =>
    simp only [resolveActions, bind_ok, pure_ok] at resolved
    obtain ⟨a', head, rest', tail, rfl⟩ := resolved
    simp only [actionsReferences]
    exact List.rel_append (resolveAction_ok a head) (resolveActions_ok rest tail)

theorem resolveBranches_ok (branches : List (IfCheck × List Action))
    {compiled : List (IfCheck × List Action)}
    (resolved : resolveBranches devices branches = .ok compiled) :
    List.Forall₂ (ResolvesTo devices) (branchesReferences .walked branches)
      (branchesReferences .walked compiled) := by
  match branches with
  | [] =>
    cases resolved
    exact .nil
  | (condition, actions) :: rest =>
    simp only [resolveBranches, bind_ok, pure_ok] at resolved
    obtain ⟨c, checked, as, body, rest', tail, rfl⟩ := resolved
    simp only [branchesReferences]
    exact List.rel_append (resolveCheck_ok checked)
      (List.rel_append (resolveActions_ok _ body) (resolveBranches_ok rest tail))

end

mutual

theorem resolveAction_error (action : Action) {why : String}
    (failed : resolveAction devices action = .error why) :
    ∃ r ∈ action.references .walked, resolveReference r devices = .error why := by
  match action with
  | .setDeviceState .. | .fadeDevice .. | .setDeviceStatePerMode .. | .waitForEvent _ (some _) .. =>
    simp only [resolveAction, bind_error, pure_error, and_false, exists_false, or_false] at failed
    exact ⟨_, by simp [Action.references], failed⟩
  | .captureDeviceState .. =>
    simp only [resolveAction, resolveReferences, bind_error, pure_error, and_false, exists_false,
      or_false] at failed
    simpa only [Action.references] using mapM_error failed
  | .parallel actions | .repeatUntil _ actions .. | .repeatWhile _ actions ..
  | .repeatCount _ actions _ =>
    simp only [resolveAction, bind_error, pure_error, and_false, exists_false, or_false] at failed
    simpa only [Action.references] using resolveActions_error actions failed
  | .conditional condition thenActions elseIf elseActions =>
    simp only [resolveAction, bind_error, pure_error, and_false, exists_false, or_false] at failed
    simp only [Action.references, List.mem_append]
    rcases failed with first | ⟨_, _, thens | ⟨_, _, branches | ⟨_, _, elses⟩⟩⟩
    · obtain ⟨r, member, failed⟩ := resolveCheck_error first
      exact ⟨r, .inl member, failed⟩
    · obtain ⟨r, member, failed⟩ := resolveActions_error _ thens
      exact ⟨r, .inr (.inl member), failed⟩
    · obtain ⟨r, member, failed⟩ := resolveBranches_error _ branches
      exact ⟨r, .inr (.inr (.inl member)), failed⟩
    · obtain ⟨r, member, failed⟩ := resolveActions_error _ elses
      exact ⟨r, .inr (.inr (.inr member)), failed⟩
  | .pingHost _ _ _ thenActions elseActions _ =>
    simp only [resolveAction, bind_error, pure_error, and_false, exists_false, or_false] at failed
    simp only [Action.references, List.mem_append]
    rcases failed with thens | ⟨_, _, elses⟩
    · obtain ⟨r, member, failed⟩ := resolveActions_error _ thens
      exact ⟨r, .inl member, failed⟩
    · obtain ⟨r, member, failed⟩ := resolveActions_error _ elses
      exact ⟨r, .inr member, failed⟩
  | .waitForEvent _ none .. | .publishMqtt .. | .callService .. | .fireEvent .. | .runScript ..
  | .notify .. | .delay .. | .stopRuleChain | .exitRule | .comment .. | .waitForExpression ..
  | .setVariable .. | .runRuleActions .. | .pauseRule .. | .resumeRule .. | .cancelDelays ..
  | .cancelRuleTimers .. | .setPrivateBoolean .. | .logMessage .. | .restoreDeviceState ..
  | .delayPerMode .. | .setHubVariable .. | .activateScenePerMode .. | .setMode ..
  | .forEachAlert .. | .pressAlert .. | .waitAlertCleared .. | .acknowledgeAlert ..
  | .skipAlert .. | .ignoreAlerts .. =>
    simp only [resolveAction, pure_error] at failed

theorem resolveActions_error (actions : List Action) {why : String}
    (failed : resolveActions devices actions = .error why) :
    ∃ r ∈ actionsReferences .walked actions, resolveReference r devices = .error why := by
  match actions with
  | [] => cases failed
  | a :: rest =>
    simp only [resolveActions, bind_error, pure_error, and_false, exists_false, or_false] at failed
    simp only [actionsReferences, List.mem_append]
    rcases failed with head | ⟨_, _, tail⟩
    · obtain ⟨r, member, failed⟩ := resolveAction_error a head
      exact ⟨r, .inl member, failed⟩
    · obtain ⟨r, member, failed⟩ := resolveActions_error rest tail
      exact ⟨r, .inr member, failed⟩

theorem resolveBranches_error
    (branches : List (IfCheck × List Action)) {why : String}
    (failed : resolveBranches devices branches = .error why) :
    ∃ r ∈ branchesReferences .walked branches, resolveReference r devices = .error why := by
  match branches with
  | [] => cases failed
  | (condition, actions) :: rest =>
    simp only [resolveBranches, bind_error, pure_error, and_false, exists_false, or_false] at failed
    simp only [branchesReferences, List.mem_append]
    rcases failed with first | ⟨_, _, body | ⟨_, _, tail⟩⟩
    · obtain ⟨r, member, failed⟩ := resolveCheck_error first
      exact ⟨r, .inl member, failed⟩
    · obtain ⟨r, member, failed⟩ := resolveActions_error _ body
      exact ⟨r, .inr (.inl member), failed⟩
    · obtain ⟨r, member, failed⟩ := resolveBranches_error rest tail
      exact ⟨r, .inr (.inr member), failed⟩

end

/-- Lists walked element by element collect their references in order. -/
theorem flatMap_resolved {α : Type} {f : α → Except String α} {refs : α → List String} {items compiled : List α}
    (each : ∀ {a a'}, f a = .ok a' → List.Forall₂ (ResolvesTo devices) (refs a) (refs a'))
    (resolved : items.mapM f = .ok compiled) :
    List.Forall₂ (ResolvesTo devices) (items.flatMap refs) (compiled.flatMap refs) := by
  have all := mapM_ok.mp resolved
  induction all with
  | nil => exact .nil
  | cons head tail ih =>
    simp only [List.flatMap_cons]
    exact List.rel_append (each head) (ih (mapM_ok.mpr tail))

theorem resolveRuleAction_ok {ra compiled : RuleAction}
    (resolved : resolveRuleAction devices ra = .ok compiled) :
    List.Forall₂ (ResolvesTo devices) (ra.action.references .walked)
      (compiled.action.references .walked) := by
  simp only [resolveRuleAction, bind_ok, pure_ok] at resolved
  obtain ⟨action, resolved, rfl⟩ := resolved
  exact resolveAction_ok _ resolved

theorem resolveRuleAction_error {ra : RuleAction}
    (failed : resolveRuleAction devices ra = .error why) :
    ∃ r ∈ ra.action.references .walked, resolveReference r devices = .error why := by
  simp only [resolveRuleAction, bind_error, pure_error, and_false, exists_false, or_false] at failed
  exact resolveAction_error _ failed

theorem compileRule_ok {rule compiled : Rule} (resolved : compileRule rule devices = .ok compiled) :
    List.Forall₂ (ResolvesTo devices) (rule.references .walked) (compiled.references .walked) := by
  unfold compileRule at resolved
  split at resolved
  · contradiction
  · simp only [bind_ok, pure_ok] at resolved
    obtain ⟨trigger, first, triggers, others, conditions, checks, actions, steps, rfl⟩ := resolved
    simp only [Rule.references, Rule.allTriggers, List.flatMap_cons]
    exact List.rel_append
      (List.rel_append (resolveTrigger_ok first) (flatMap_resolved resolveTrigger_ok others))
      (List.rel_append (resolveConditions_ok _ checks) (flatMap_resolved resolveRuleAction_ok steps))

theorem compileRule_error {rule : Rule} (failed : compileRule rule devices = .error why) :
    deletedTrigger rule = some why ∨
      ∃ r ∈ rule.references .walked, resolveReference r devices = .error why := by
  unfold compileRule at failed
  split at failed
  · rename_i deleted
    exact .inl (deleted.trans (congrArg some (Except.error.inj failed)))
  · right
    simp only [bind_error, pure_error, and_false, exists_false, or_false] at failed
    simp only [Rule.references, Rule.allTriggers, List.flatMap_cons, List.mem_append,
      List.mem_flatMap]
    rcases failed with first | ⟨_, _, others | ⟨_, _, checks | ⟨_, _, steps⟩⟩⟩
    · obtain ⟨r, member, failed⟩ := resolveTrigger_error first
      exact ⟨r, .inl (.inl member), failed⟩
    · obtain ⟨t, listed, failed⟩ := mapM_error others
      obtain ⟨r, member, failed⟩ := resolveTrigger_error failed
      exact ⟨r, .inl (.inr ⟨t, listed, member⟩), failed⟩
    · obtain ⟨r, member, failed⟩ := resolveConditions_error _ checks
      exact ⟨r, .inr (.inl member), failed⟩
    · obtain ⟨ra, listed, failed⟩ := mapM_error steps
      obtain ⟨r, member, failed⟩ := resolveRuleAction_error failed
      exact ⟨r, .inr (.inr ⟨ra, listed, member⟩), failed⟩

/-- A compiled rule names existing devices wherever the compiler walks; a rule
that fails to compile was started by a deleted alert rule, or names a device
that is unknown or ambiguous. -/
theorem compileRule_resolves (rule : Rule) (devices : List DeviceState) :
    match compileRule rule devices with
    | .ok compiled => ∀ r ∈ compiled.references .walked, ∃ d ∈ devices, d.deviceId = r
    | .error _ => deletedTrigger rule = some alertDeleted ∨
        ∃ r ∈ rule.references .walked, Unknown r devices ∨ Ambiguous r devices := by
  cases outcome : compileRule rule devices with
  | ok compiled => exact resolved_known (compileRule_ok outcome)
  | error why =>
    rcases compileRule_error outcome with deleted | ⟨r, member, failed⟩
    · left
      unfold deletedTrigger at deleted ⊢
      split at deleted
      · rw [if_pos (by assumption)]
      · contradiction
    · exact .inr ⟨r, member, resolveReference_error failed⟩

/-- Both halves of the unrestricted statement fail: the steps of a
`ForEachAlert` keep a canonical name, and a rule that names no device at all is
refused once the time rule that started it is deleted. -/
theorem compileRule_not_everywhere :
    (¬ ∀ rule devices compiled, compileRule rule devices = .ok compiled →
      ∀ r ∈ compiled.references .everywhere, ∃ d ∈ devices, d.deviceId = r) ∧
    ¬ ∀ rule devices why, compileRule rule devices = .error why →
      ∃ r ∈ rule.references .everywhere, Unknown r devices ∨ Ambiguous r devices := by
  constructor
  · intro resolves
    let lamp : DeviceState := { DeviceState.new "lamp_1" "Floor Lamp" "plugin.test" 0 with
      canonicalName := some "living_room.floor_lamp" }
    let rule := Rule.minimal ⟨1⟩ .manualTrigger
      [.forEachAlert {} [.setDeviceState "living_room.floor_lamp" .null false]]
    obtain ⟨d, member, same⟩ := resolves rule [lamp] rule rfl "living_room.floor_lamp" (by decide)
    obtain rfl := List.mem_singleton.mp member
    exact absurd same (by decide)
  · intro explains
    obtain ⟨r, member, _⟩ := explains
      (Rule.minimal ⟨1⟩ (.alertRaised { ruleId := some "DELETED:freezer" }) []) [] _ rfl
    exact absurd member (by simp [Rule.references, Rule.allTriggers, Rule.minimal, Trigger.references,
      Scope.unwalked, conditionsReferences])

end Resolver
end HomeCore
