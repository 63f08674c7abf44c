import HomeCore.Engine.Fire

/-! Which failures reach beyond the rule they happen in. A script that fails,
in a gate or at the leaf of a condition, ends the firing with an error, and the
fire loop returns it without looking at the rules that follow. -/
namespace HomeCore.Engine

/-! ## Where an evaluation fails -/

theorem decided_ok (conditionType : String) (passed : Bool) (actual expected : Option Json)
    (reason : String) (failure : Failure) :
    decided conditionType passed actual expected reason ≠ .error failure := by
  simp [decided]

/-- The verdict on a `DeviceState` condition is the one on the cached attributes. -/
theorem evaluateOne_deviceState (ask : Asking) (deviceId attr : String) (op : CompareOp)
    (value : Json) :
    (evaluateOne ask (.deviceState deviceId attr op value)).map (·.passed) =
      .ok (deviceStateHolds ask.world.cache.deviceCache[deviceId]? attr op value) := by
  simp only [evaluateOne, deviceStateTrace, deviceStateHolds]
  cases ask.world.cache.deviceCache[deviceId]? with
  | none => rfl
  | some attrs => cases found : attrs[attr]? <;> simp [found, decided, Except.map]

/-- The script engine gives no verdict, or the text shown of a long script
would end inside a character. -/
def ScriptRaises (world : World) (script : String) (scope : ScriptScope) : Prop :=
  snippet script = .error .panicked ∨ ∃ message, world.evalCondition script scope = .error message

def Passes (ask : Asking) (condition : Condition) : Prop :=
  ∃ trace, evaluateOne ask condition = .ok trace ∧ trace.passed = true

def FailsQuietly (ask : Asking) (condition : Condition) : Prop :=
  ∃ trace, evaluateOne ask condition = .ok trace ∧ trace.passed = false

mutual

/-- A script at some leaf the evaluation comes to raises. -/
def ConditionRaises (ask : Asking) : Condition → Prop
  | .scriptExpression script =>
    ScriptRaises ask.world script { devices := ask.snapshot, hubVars := ask.world.hubVars }
  | .not condition => ConditionRaises ask condition
  | .and conditions => AndRaises ask conditions
  | .or conditions => OrRaises ask conditions
  | .xor conditions => XorRaises ask conditions
  | _ => False

def AndRaises (ask : Asking) : List Condition → Prop
  | [] => False
  | c :: rest => ConditionRaises ask c ∨ Passes ask c ∧ AndRaises ask rest

def OrRaises (ask : Asking) : List Condition → Prop
  | [] => False
  | c :: rest => ConditionRaises ask c ∨ FailsQuietly ask c ∧ OrRaises ask rest

def XorRaises (ask : Asking) : List Condition → Prop
  | [] => False
  | c :: rest => ConditionRaises ask c ∨ XorRaises ask rest

end

theorem snippet_error {script : String} {failure : Failure} (failed : snippet script = .error failure) :
    failure = .panicked := by
  unfold snippet at failed
  split at failed
  · cases failed
  · split at failed
    · cases failed
    · exact (Except.error.inj failed).symm

theorem scriptTrace_raises (world : World) (snapshot : Std.ExtTreeMap String AttrMap)
    (script : String) :
    (∃ failure, scriptTrace world snapshot script = .error failure) ↔
      ScriptRaises world script { devices := snapshot, hubVars := world.hubVars } := by
  unfold scriptTrace ScriptRaises
  cases shown : snippet script with
  | error failure =>
    obtain rfl := snippet_error shown
    simp [bind, Except.bind]
  | ok text =>
    cases world.evalCondition script { devices := snapshot, hubVars := world.hubVars } with
    | error message => simp [bind, Except.bind]
    | ok result => simp [bind, Except.bind, decided]

mutual

theorem evaluateOne_raises (ask : Asking) :
    ∀ condition, (∃ failure, evaluateOne ask condition = .error failure) ↔
      ConditionRaises ask condition
  | .scriptExpression script => by
    simpa only [evaluateOne, ConditionRaises] using
      scriptTrace_raises ask.world ask.snapshot script
  | .not condition => by
    rw [ConditionRaises, ← evaluateOne_raises ask condition]
    simp only [evaluateOne, Outcome.bind_error, decided_ok, and_false, exists_false, or_false]
  | .and conditions => by
    rw [ConditionRaises, ← evaluateAnd_raises ask conditions]
    simp only [evaluateOne, Outcome.bind_error, decided_ok, and_false, exists_false, or_false]
  | .or conditions => by
    rw [ConditionRaises, ← evaluateOr_raises ask conditions]
    simp only [evaluateOne, Outcome.bind_error, decided_ok, and_false, exists_false, or_false]
  | .xor conditions => by
    rw [ConditionRaises, ← evaluateXor_raises ask conditions]
    simp only [evaluateOne, Outcome.bind_error, decided_ok, and_false, exists_false, or_false]
  | .deviceState .. => by
    simp only [evaluateOne, deviceStateTrace, ConditionRaises, iff_false]
    split
    · simp [decided]
    · split <;> simp [decided]
  | .timeWindow .. => by simp [evaluateOne, timeWindowTrace, ConditionRaises, decided]
  | .timeElapsed .. => by
    simp only [evaluateOne, timeElapsedTrace, ConditionRaises, iff_false]
    split <;> simp [decided]
  | .deviceLastChange .. => by
    simp only [evaluateOne, deviceLastChangeTrace, ConditionRaises, iff_false]
    split
    · simp [decided]
    · split <;> simp [decided]
  | .privateBooleanIs .. => by simp [evaluateOne, privateBooleanTrace, ConditionRaises, decided]
  | .hubVariable .. => by simp [evaluateOne, hubVariableTrace, ConditionRaises, decided]
  | .modeIs .. => by simp [evaluateOne, modeIsTrace, ConditionRaises, decided]
  | .calendarActive .. => by
    simp only [evaluateOne, calendarActiveTrace, ConditionRaises, iff_false]
    split <;> simp [decided]
  | .alertActive .. => by simp [evaluateOne, alertActiveTrace, ConditionRaises, decided]
  | .noAlertActive .. => by simp [evaluateOne, noAlertActiveTrace, ConditionRaises, decided]
  | .triggerAlertActive => by
    simp only [evaluateOne, triggerAlertActiveTrace, ConditionRaises, iff_false]
    split <;> simp [decided]

theorem evaluateAnd_raises (ask : Asking) :
    ∀ conditions, (∃ failure, evaluateAnd ask conditions = .error failure) ↔
      AndRaises ask conditions
  | [] => by simp [evaluateAnd, AndRaises]
  | c :: rest => by
    rw [AndRaises, ← evaluateOne_raises ask c, ← evaluateAnd_raises ask rest]
    simp only [evaluateAnd, Passes]
    cases evaluateOne ask c with
    | error failure => simp [bind, Except.bind]
    | ok trace => cases passed : trace.passed <;> simp [bind, Except.bind, passed, pure, Except.pure]

theorem evaluateOr_raises (ask : Asking) :
    ∀ conditions, (∃ failure, evaluateOr ask conditions = .error failure) ↔ OrRaises ask conditions
  | [] => by simp [evaluateOr, OrRaises]
  | c :: rest => by
    rw [OrRaises, ← evaluateOne_raises ask c, ← evaluateOr_raises ask rest]
    simp only [evaluateOr, FailsQuietly]
    cases evaluateOne ask c with
    | error failure => simp [bind, Except.bind]
    | ok trace => cases passed : trace.passed <;> simp [bind, Except.bind, passed, pure, Except.pure]

theorem evaluateXor_raises (ask : Asking) :
    ∀ conditions, (∃ failure, evaluateXor ask conditions = .error failure) ↔
      XorRaises ask conditions
  | [] => by simp [evaluateXor, XorRaises]
  | c :: rest => by
    rw [XorRaises, ← evaluateOne_raises ask c, ← evaluateXor_raises ask rest]
    simp only [evaluateXor]
    cases evaluateOne ask c with
    | error failure => simp [bind, Except.bind]
    | ok trace =>
      cases evaluateXor ask rest with
      | error failure => simp [bind, Except.bind]
      | ok others => simp [bind, Except.bind, pure, Except.pure]

end

/-- A rule's own conditions are asked as those of an `And` are. -/
theorem evaluateConditions_raises (ask : Asking) (conditions : List Condition) :
    (∃ failure, evaluateConditions ask conditions = .error failure) ↔ AndRaises ask conditions := by
  induction conditions with
  | nil => simp [evaluateConditions, AndRaises]
  | cons c rest ih =>
    rw [AndRaises, ← evaluateOne_raises ask c, ← ih]
    simp only [evaluateConditions, Passes]
    cases evaluateOne ask c with
    | error failure => simp [bind, Except.bind]
    | ok trace =>
      cases passed : trace.passed with
      | false => simp [bind, Except.bind, passed, pure, Except.pure]
      | true =>
        cases evaluateConditions ask rest with
        | error failure => simp [bind, Except.bind, passed]
        | ok traces => simp [bind, Except.bind, passed, pure, Except.pure]

/-! ## Where a firing fails -/

section Firing
variable (texts : Texts) (world : World) (rule : Rule) (tctx : TriggerContext) (run : Run)

/-- A gate that is asked and whose script gives no verdict. -/
def GateRaises (expr : Option String) : Prop :=
  run.checks = true ∧ ∃ script, expr = some script ∧ ∃ message,
    world.evalCondition script { devices := world.cache.deviceCache, trigger := tctx } =
      .error message

def GatePasses (expr : Option String) : Prop :=
  run.checks = false ∨ expr = none ∨ ∃ script, expr = some script ∧
    world.evalCondition script { devices := world.cache.deviceCache, trigger := tctx } = .ok true

/-- The rule is neither paused nor resting, and a script it then comes to raises:
one of its gates, or a leaf of its conditions if its run mode lets it get there. -/
def Raises : Prop :=
  ¬ (run = .event ∧ world.pauseState rule.id = true) ∧ cooldownRemaining world rule run = none ∧
  (GateRaises world tctx run rule.requiredExpression ∨
    GatePasses world tctx run rule.requiredExpression ∧
    (GateRaises world tctx run rule.triggerCondition ∨
      GatePasses world tctx run rule.triggerCondition ∧ runModeRefusal world rule = none ∧
      run.checks = true ∧ AndRaises (asking texts world rule tctx) rule.conditions))

theorem expressionGate_raises (expr : Option String) :
    (∃ failure, expressionGate world tctx run expr = .error failure) ↔
      GateRaises world tctx run expr := by
  unfold expressionGate GateRaises
  cases expr with
  | none => simp
  | some script =>
    cases asked : run.checks with
    | false => simp
    | true =>
      cases answer : world.evalCondition script
          { devices := world.cache.deviceCache, trigger := tctx } <;> simp [answer, Option.filter]

theorem expressionGate_passes (expr : Option String) :
    expressionGate world tctx run expr = .ok true ↔ GatePasses world tctx run expr := by
  unfold expressionGate GatePasses
  cases expr with
  | none => simp
  | some script =>
    cases asked : run.checks with
    | false => simp
    | true =>
      cases answer : world.evalCondition script
          { devices := world.cache.deviceCache, trigger := tctx } <;> simp [answer, Option.filter]

theorem fireJudged_raises :
    (∃ failure, (fireJudged texts world rule tctx run).result = .error failure) ↔
      run.checks = true ∧ AndRaises (asking texts world rule tctx) rule.conditions := by
  rw [← evaluateConditions_raises]
  unfold fireJudged judgedConditions
  cases asked : run.checks with
  | false => simp [conditionsPassed, asked]
  | true =>
    cases evaluateConditions (asking texts world rule tctx) rule.conditions with
    | error failure => simp [raised]
    | ok traces =>
      simp only [if_true, reduceCtorEq, exists_false, and_false, iff_false]
      split <;> simp [refused]

/-- A firing ends in an error exactly when a script it comes to raises. -/
theorem fire_raises :
    (∃ failure, (fire texts world rule tctx run).result = .error failure) ↔
      Raises texts world rule tctx run := by
  unfold Raises
  rw [← expressionGate_raises, ← expressionGate_raises, ← expressionGate_passes,
    ← expressionGate_passes, ← fireJudged_raises]
  unfold fire
  split
  · rename_i isPaused
    simp [refused, isPaused]
  · rename_i notPaused
    simp only [notPaused, not_false_eq_true, true_and]
    cases cooldownRemaining world rule run with
    | some remaining => simp [refused]
    | none =>
      cases expressionGate world tctx run rule.requiredExpression with
      | error failure => simp [raised]
      | ok required => cases required with
        | false => simp [refused]
        | true => cases expressionGate world tctx run rule.triggerCondition with
          | error failure => simp [raised]
          | ok gate => cases gate with
            | false => simp [refused]
            | true => cases runModeRefusal world rule <;> simp [refused]

end Firing

/-! ## What a failure keeps from being fired -/

section Isolation
variable (wire : Wire) (texts : Texts) (worldAt : Nat → World)

def firingOf (k : Nat) (selected : Selected) : Firing :=
  fire texts (worldAt k) selected.rule selected.tctx selected.run

/-- The firings that are due: of every rule not deferred, in order, up to one
that fires and stops the chain. A failure is the failing rule's own affair. -/
def dueFirings : Nat → List Selected → List (Selected × Firing)
  | _, [] => []
  | k, selected :: rest =>
    if selected.deferred then dueFirings (k + 1) rest
    else match (firingOf texts worldAt k selected).result with
      | .ok true => [(selected, firingOf texts worldAt k selected)]
      | _ => (selected, firingOf texts worldAt k selected) :: dueFirings (k + 1) rest

/-- A rule that raises has another rule after it, and the chain was not stopped before. -/
def FailureCutsIn (k : Nat) (selected : List Selected) : Prop :=
  ∃ earlier failing later, selected = earlier ++ failing :: later ∧
    failing.deferred = false ∧
    Raises texts (worldAt (k + earlier.length)) failing.rule failing.tctx failing.run ∧
    (∀ i before, earlier[i]? = some before → before.deferred = false →
      (firingOf texts worldAt (k + i) before).result ≠ .ok true) ∧
    ∃ next ∈ later, next.deferred = false

theorem dueFirings_eq_nil (k : Nat) (selected : List Selected) :
    dueFirings texts worldAt k selected = [] ↔ ∀ next ∈ selected, next.deferred = true := by
  induction selected generalizing k with
  | nil => simp [dueFirings]
  | cons first rest ih =>
    unfold dueFirings
    cases isDeferred : first.deferred with
    | true => simp [ih, isDeferred]
    | false =>
      simp only [Bool.false_eq_true, if_false, List.forall_mem_cons, isDeferred, false_and, iff_false]
      split <;> simp

theorem failureCutsIn_cons (k : Nat) (first : Selected) (rest : List Selected) :
    FailureCutsIn texts worldAt k (first :: rest) ↔
      (first.deferred = false ∧ Raises texts (worldAt k) first.rule first.tctx first.run ∧
        ∃ next ∈ rest, next.deferred = false) ∨
      ((first.deferred = false → (firingOf texts worldAt k first).result ≠ .ok true) ∧
        FailureCutsIn texts worldAt (k + 1) rest) := by
  constructor
  · rintro ⟨earlier, failing, later, split, active, raises, unstopped, next⟩
    cases earlier with
    | nil =>
      obtain ⟨rfl, rfl⟩ := List.cons.inj split
      exact .inl ⟨active, by simpa using raises, next⟩
    | cons head earlier =>
      obtain ⟨rfl, rfl⟩ := List.cons.inj split
      refine .inr ⟨unstopped 0 first rfl, earlier, failing, later, rfl, active, ?_, ?_, next⟩
      · rwa [Nat.add_right_comm, Nat.add_assoc]
      · intro i before found
        rw [Nat.add_right_comm, Nat.add_assoc]
        exact unstopped (i + 1) before (by simpa using found)
  · rintro (⟨active, raises, next⟩ | ⟨goesOn, earlier, failing, later, rfl, active, raises, unstopped, next⟩)
    · exact ⟨[], first, rest, rfl, active, by simpa using raises, by simp, next⟩
    · refine ⟨first :: earlier, failing, later, rfl, active, ?_, ?_, next⟩
      · rwa [Nat.add_right_comm, Nat.add_assoc] at raises
      · intro i before found
        cases i with
        | zero =>
          cases found
          exact goesOn
        | succ i =>
          have := unstopped i before (by simpa using found)
          rwa [Nat.add_right_comm, Nat.add_assoc] at this

theorem fireLoop_goesOn {k : Nat} {first : Selected} {rest : List Selected} (active : first.deferred = false)
    (result : (firingOf texts worldAt k first).result = .ok false) :
    (fireLoop texts worldAt k (first :: rest)).1 =
      (first, firingOf texts worldAt k first) :: (fireLoop texts worldAt (k + 1) rest).1 := by
  rw [firingOf] at result ⊢
  simp [fireLoop, active, result]

theorem fireLoop_ends {k : Nat} {first : Selected} {rest : List Selected} (active : first.deferred = false)
    (result : (firingOf texts worldAt k first).result ≠ .ok false) :
    (fireLoop texts worldAt k (first :: rest)).1 = [(first, firingOf texts worldAt k first)] := by
  rw [firingOf] at result ⊢
  simp only [fireLoop, active, Bool.false_eq_true, if_false]
  split
  · rfl
  · rfl
  · rename_i goesOn
    exact absurd goesOn result

theorem fireLoop_isolates (k : Nat) (selected : List Selected) :
    (fireLoop texts worldAt k selected).1 = dueFirings texts worldAt k selected ↔
      ¬ FailureCutsIn texts worldAt k selected := by
  induction selected generalizing k with
  | nil =>
    simp only [fireLoop, dueFirings, FailureCutsIn, true_iff]
    rintro ⟨earlier, failing, later, split, _⟩
    simp at split
  | cons first rest ih =>
    rw [failureCutsIn_cons]
    cases active : first.deferred with
    | true => simp [fireLoop, dueFirings, active, ih]
    | false =>
      have raises := fire_raises texts (worldAt k) first.rule first.tctx first.run
      change (∃ failure, (firingOf texts worldAt k first).result = _) ↔ _ at raises
      rw [← raises]
      cases result : (firingOf texts worldAt k first).result with
      | error failure =>
        rw [fireLoop_ends texts worldAt active (by simp [result])]
        -- Nothing after the failure is fired, so nothing may have been due.
        suffices dueFirings texts worldAt (k + 1) rest = [] ↔
            (∀ next ∈ rest, next.deferred = true) ∧ ¬ FailureCutsIn texts worldAt (k + 1) rest by
          simpa [dueFirings, active, result, @eq_comm _ []] using this
        rw [dueFirings_eq_nil]
        refine ⟨fun deferred => ⟨deferred, ?_⟩, And.left⟩
        rintro ⟨earlier, failing, later, rfl, isActive, _⟩
        simp [deferred failing (by simp)] at isActive
      | ok stops => cases stops with
        | true =>
          rw [fireLoop_ends texts worldAt active (by simp [result])]
          simp [dueFirings, active, result]
        | false =>
          rw [fireLoop_goesOn texts worldAt active result]
          simp [dueFirings, active, result, ih]

/-- For every rule set, event and world of each firing: the firings made are
those due, whatever raises, if and only if no rule that raises comes before
another one that is to be fired. -/
theorem failures_isolated_iff (rules : List Rule) (event : Event) :
    (handleEvent wire texts worldAt rules event).1 =
        dueFirings texts worldAt 0 (selectRules wire (worldAt 0) rules event) ↔
      ¬ FailureCutsIn texts worldAt 0 (selectRules wire (worldAt 0) rules event) :=
  fireLoop_isolates texts worldAt 0 (selectRules wire (worldAt 0) rules event)

end Isolation

/-- A house with nothing in it, where the script `1 +` does not compile. -/
def quietWorld : World where
  now := 0
  localTime := 0
  cache := ⟨∅, ∅⟩
  getDevice _ := none
  hubVars := ∅
  privBools _ _ := none
  calendars := none
  alerts := []
  pauseState _ := false
  cooldownMap _ := none
  inFlight _ := 0
  evalCondition script _ :=
    if script = "1 +" then .error "Expression compilation error: unexpected end of input" else .ok true

/-- Two rules on one event, the first with a script that does not compile. -/
def brokenThenSound : List Rule :=
  [{ Rule.minimal ⟨1⟩ (.customEvent "doorbell") [] with conditions := [.scriptExpression "1 +"] },
   Rule.minimal ⟨2⟩ (.customEvent "doorbell") []]

theorem failing_script_blocks_next_rule :
    let wire : Wire := ⟨fun _ => none, fun _ => none, fun _ => none, fun _ => .null⟩
    let texts : Texts := ⟨fun _ => "", fun _ => "", fun _ => "", fun _ => "", id⟩
    let event := Event.custom 0 "doorbell" .null
    let fired := (handleEvent wire texts (fun _ => quietWorld) brokenThenSound event).1
    let due := dueFirings texts (fun _ => quietWorld) 0
      (selectRules wire quietWorld brokenThenSound event)
    fired.map (·.1.rule.id) = [⟨1⟩] ∧
      due.map (fun (selected, firing) => (selected.rule.id, firing.effects)) =
        [(⟨1⟩, []), (⟨2⟩, [.spawnRun ⟨2⟩])] ∧
      fired ≠ due := by
  intro wire texts event fired due
  have firedIds : fired.map (·.1.rule.id) = [⟨1⟩] := by decide
  have dueEffects : due.map (fun (selected, firing) => (selected.rule.id, firing.effects)) =
      [(⟨1⟩, []), (⟨2⟩, [.spawnRun ⟨2⟩])] := by decide
  refine ⟨firedIds, dueEffects, fun same => ?_⟩
  have lengths := congrArg List.length dueEffects
  rw [← same, List.length_map, ← List.length_map (f := (·.1.rule.id)), firedIds] at lengths
  simp at lengths

end HomeCore.Engine
