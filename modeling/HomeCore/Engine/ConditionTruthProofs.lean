import HomeCore.Engine.RuleTextsProofs

/-! What the conditions of a rule say, as Boolean expressions over their checks. The
evaluation stops early, and still comes to the truth of the whole, as long as each
check it makes is decided. -/
namespace HomeCore.Engine

/-! ## Truth -/

def inWindow (start finish now : NaiveTime) : Bool :=
  if start ≤ finish then start ≤ now && now ≤ finish else start ≤ now || now ≤ finish

def modeOn (cache : Std.ExtTreeMap String AttrMap) (modeId : String) : Bool :=
  ((cache[modeId]?.bind fun attrs => attrs["on"]?).bind Json.asBool).getD false

/-- The change has all that is asked of it. -/
def changeMatches (kind : Option DeviceChangeKind) (source actorId actorName : Option String)
    (change : DeviceChange) : Bool :=
  kind.all (· == change.kind) && source.all (change.source == some ·) &&
    actorId.all (change.actorId == some ·) && actorName.all (change.actorName == some ·)

mutual

/-- What a condition says of the world it is asked in. A script without an answer
says nothing that holds. -/
def truth (ask : Asking) : Condition → Bool
  | .not condition => !truth ask condition
  | .and conditions => (truths ask conditions).all (·)
  | .or conditions => (truths ask conditions).any (·)
  | .xor conditions => (truths ask conditions).count true == 1
  | .deviceState deviceId attr op value =>
    deviceStateHolds ask.world.cache.deviceCache[deviceId]? attr op value
  | .timeWindow start finish => inWindow start finish ask.world.localTime
  | .scriptExpression script =>
    let scope : ScriptScope := { devices := ask.snapshot, hubVars := ask.world.hubVars }
    (ask.world.evalCondition script scope).toOption.any (·)
  | .timeElapsed deviceId attr durationSecs =>
    (ask.world.cache.attrChangedAt[deviceId]?.bind fun stamps => stamps[attr]?).any fun changedAt =>
      decide (durationSecs ≤ ((ask.world.now - changedAt).tdiv second).toNat)
  | .deviceLastChange deviceId kind source actorId actorName =>
    ((ask.world.getDevice deviceId).bind (·.lastChange)).any
      (changeMatches kind source actorId actorName)
  | .privateBooleanIs name value => (ask.world.privBools ask.ruleId name).getD false == value
  | .hubVariable name op value => ask.world.hubVars[name]?.any (compareOp · op value)
  | .modeIs modeId on => modeOn ask.world.cache.deviceCache modeId == on
  | .calendarActive calendarId titleContains => ask.world.calendars.any fun entries =>
    (entries.filter fun entry => calendarId.all (entry.id == ·)).any fun entry =>
      (activeEvent ask.texts ask.world titleContains entry.events).isSome
  | .alertActive filter atLeast =>
    decide (max atLeast 1 ≤ (ask.world.alerts.filter filter.selects).length % 2 ^ 32)
  | .noAlertActive filter => (ask.world.alerts.filter filter.selects).isEmpty
  | .triggerAlertActive => ask.trig.any fun id => ask.world.alerts.any (·.id == id)

def truths (ask : Asking) : List Condition → List Bool
  | [] => []
  | c :: rest => truth ask c :: truths ask rest

end

section
variable (ask : Asking)

theorem truths_eq (conditions : List Condition) :
    truths ask conditions = conditions.map (truth ask) := by
  induction conditions with
  | nil => rw [truths, List.map_nil]
  | cons c rest ih => rw [truths, ih, List.map_cons]

@[simp] theorem truth_not (condition : Condition) :
    truth ask (.not condition) = !truth ask condition := by
  rw [truth]

@[simp] theorem truth_and (conditions : List Condition) :
    truth ask (.and conditions) = conditions.all (truth ask) := by
  rw [truth, truths_eq, List.all_map]
  rfl

@[simp] theorem truth_or (conditions : List Condition) :
    truth ask (.or conditions) = conditions.any (truth ask) := by
  rw [truth, truths_eq, List.any_map]
  rfl

@[simp] theorem truth_xor (conditions : List Condition) :
    truth ask (.xor conditions) = (conditions.countP (truth ask) == 1) := by
  rw [truth, truths_eq, List.count, List.countP_map]
  simp [Function.comp_def]

end

/-! ## Verdicts -/

section Verdicts
variable {ask : Asking}

theorem decided_passed {conditionType reason : String} {passed : Bool} {actual expected : Option Json}
    {trace : ConditionTrace}
    (made : decided conditionType passed actual expected reason = .ok trace) : trace.passed = passed := by
  cases made
  rfl

/-- The verdict on a script is its answer. -/
theorem scriptTrace_truth {script : String} {trace : ConditionTrace}
    (made : scriptTrace ask.world ask.snapshot script = .ok trace) :
    trace.passed = truth ask (.scriptExpression script) := by
  rw [scriptTrace, Outcome.bind_ok] at made
  obtain ⟨shown, _, made⟩ := made
  rw [truth]
  split at made
  · cases made
  · rename_i result answered
    rw [decided_passed made, answered]
    simp [Except.toOption]

mutual

/-- A verdict is the truth of the condition. -/
theorem evaluateOne_truth : ∀ {condition : Condition} {trace : ConditionTrace},
    evaluateOne ask condition = .ok trace → trace.passed = truth ask condition
  | .not condition, trace, made => by
    rw [evaluateOne, Outcome.bind_ok] at made
    obtain ⟨inner, asked, made⟩ := made
    rw [decided_passed made, evaluateOne_truth asked, truth_not]
  | .and conditions, trace, made => by
    rw [evaluateOne, Outcome.bind_ok] at made
    obtain ⟨result, asked, made⟩ := made
    rw [decided_passed made, evaluateAnd_truth asked, truth_and]
  | .or conditions, trace, made => by
    rw [evaluateOne, Outcome.bind_ok] at made
    obtain ⟨result, asked, made⟩ := made
    rw [decided_passed made, evaluateOr_truth asked, truth_or]
  | .xor conditions, trace, made => by
    rw [evaluateOne, Outcome.bind_ok] at made
    obtain ⟨passed, asked, made⟩ := made
    rw [decided_passed made, evaluateXor_truth asked, truth_xor]
  | .scriptExpression script, trace, made => scriptTrace_truth made
  | .deviceState deviceId attr op value, trace, made => by
    have verdict := evaluateOne_deviceState ask deviceId attr op value
    rw [made] at verdict
    rw [truth]
    exact Except.ok.inj verdict
  | .timeWindow start finish, trace, made => by
    rw [decided_passed made, truth]
    rfl
  | .timeElapsed deviceId attr durationSecs, trace, made => by
    simp only [evaluateOne, timeElapsedTrace] at made
    rw [truth]
    split at made
    · rename_i untracked
      rw [decided_passed made, untracked]
      rfl
    · rename_i changedAt tracked
      rw [decided_passed made, tracked]
      rfl
  | .deviceLastChange deviceId kind source actorId actorName, trace, made => by
    simp only [evaluateOne, deviceLastChangeTrace] at made
    rw [truth]
    split at made
    · rename_i unknown
      rw [decided_passed made, unknown]
      rfl
    · rename_i record stored
      split at made
      · rename_i unchanged
        rw [decided_passed made, stored, Option.bind_some, unchanged]
        rfl
      · rename_i change changed
        rw [decided_passed made, stored, Option.bind_some, changed]
        rfl
  | .privateBooleanIs name value, trace, made => by
    rw [decided_passed made, truth]
  | .hubVariable name op value, trace, made => by
    rw [decided_passed made, truth]
  | .modeIs modeId on, trace, made => by
    rw [decided_passed made, truth]
    rfl
  | .calendarActive calendarId titleContains, trace, made => by
    simp only [evaluateOne, calendarActiveTrace] at made
    rw [truth]
    split at made
    · rename_i unset
      rw [decided_passed made, unset]
      rfl
    · rename_i entries configured
      rw [decided_passed made, configured, Option.any_some, List.isSome_findSome?]
  | .alertActive filter atLeast, trace, made => by
    rw [decided_passed made, truth]
  | .noAlertActive filter, trace, made => by
    rw [decided_passed made, truth]
  | .triggerAlertActive, trace, made => by
    simp only [evaluateOne, triggerAlertActiveTrace] at made
    rw [truth]
    split at made
    · rename_i unstarted
      rw [decided_passed made, unstarted]
      rfl
    · rename_i id started
      rw [decided_passed made, started]
      rfl

theorem evaluateAnd_truth : ∀ {conditions : List Condition} {result : Bool},
    evaluateAnd ask conditions = .ok result → result = conditions.all (truth ask)
  | [], result, made => by
    rw [evaluateAnd] at made
    cases made
    rfl
  | c :: rest, result, made => by
    rw [evaluateAnd, Outcome.bind_ok] at made
    obtain ⟨trace, asked, made⟩ := made
    rw [evaluateOne_truth asked] at made
    rw [List.all_cons]
    cases holds : truth ask c with
    | false =>
      rw [holds, if_neg Bool.false_ne_true] at made
      exact (Outcome.pure_ok.mp made).symm
    | true =>
      rw [holds, if_pos rfl] at made
      exact evaluateAnd_truth made

theorem evaluateOr_truth : ∀ {conditions : List Condition} {result : Bool},
    evaluateOr ask conditions = .ok result → result = conditions.any (truth ask)
  | [], result, made => by
    rw [evaluateOr] at made
    cases made
    rfl
  | c :: rest, result, made => by
    rw [evaluateOr, Outcome.bind_ok] at made
    obtain ⟨trace, asked, made⟩ := made
    rw [evaluateOne_truth asked] at made
    rw [List.any_cons]
    cases holds : truth ask c with
    | false =>
      rw [holds, if_neg Bool.false_ne_true] at made
      exact evaluateOr_truth made
    | true =>
      rw [holds, if_pos rfl] at made
      exact (Outcome.pure_ok.mp made).symm

theorem evaluateXor_truth : ∀ {conditions : List Condition} {passed : Nat},
    evaluateXor ask conditions = .ok passed → passed = conditions.countP (truth ask)
  | [], passed, made => by
    rw [evaluateXor] at made
    cases made
    rfl
  | c :: rest, passed, made => by
    rw [evaluateXor, Outcome.bind_ok] at made
    obtain ⟨first, asked, made⟩ := made
    obtain ⟨others, later, made⟩ := Outcome.bind_ok.mp made
    rw [List.countP_cons, ← evaluateXor_truth later, ← evaluateOne_truth asked]
    rw [← Outcome.pure_ok.mp made]
    split <;> rfl

end

/-! ## Checks that are decided -/

def isLogical : Condition → Bool
  | .not _ => true
  | .and _ => true
  | .or _ => true
  | .xor _ => true
  | _ => false

/-- The checks that the conditions are made of. -/
def leavesOf (conditions : List Condition) : List Condition :=
  (partsOfConditions conditions).filter (!isLogical ·)

theorem partsOfConditions_append (a b : List Condition) :
    partsOfConditions (a ++ b) = partsOfConditions a ++ partsOfConditions b := by
  induction a with
  | nil => simp [partsOfConditions]
  | cons c rest ih => rw [List.cons_append, partsOfConditions, ih, partsOfConditions, List.append_assoc]

theorem leavesOf_cons (c : Condition) (rest : List Condition) :
    leavesOf (c :: rest) = leavesOf [c] ++ leavesOf rest := by
  simp [leavesOf, partsOfConditions]

theorem leavesOf_of_logical {c : Condition} {inner : List Condition} (logical : isLogical c = true)
    (inside : c.parts = c :: partsOfConditions inner) : leavesOf [c] = leavesOf inner := by
  simp [leavesOf, partsOfConditions, inside, logical]

theorem leavesOf_not (c : Condition) : leavesOf [.not c] = leavesOf [c] :=
  leavesOf_of_logical rfl (by simp [Condition.parts, partsOfConditions])

theorem leavesOf_and (conditions : List Condition) : leavesOf [.and conditions] = leavesOf conditions :=
  leavesOf_of_logical rfl (by rw [Condition.parts])

theorem leavesOf_or (conditions : List Condition) : leavesOf [.or conditions] = leavesOf conditions :=
  leavesOf_of_logical rfl (by rw [Condition.parts])

theorem leavesOf_xor (conditions : List Condition) : leavesOf [.xor conditions] = leavesOf conditions :=
  leavesOf_of_logical rfl (by rw [Condition.parts])

def Answers (ask : Asking) (leaf : Condition) : Prop := ∃ trace, evaluateOne ask leaf = .ok trace

theorem answers_iff {leaf : Condition} : Answers ask leaf ↔ ¬ ConditionRaises ask leaf := by
  rw [← evaluateOne_raises, Answers]
  cases evaluateOne ask leaf with
  | error failure => simp
  | ok trace => simp

mutual

/-- What raises is one of the checks. -/
theorem conditionRaises_leaf : ∀ {c : Condition}, ConditionRaises ask c →
    ∃ leaf ∈ leavesOf [c], ConditionRaises ask leaf
  | .scriptExpression script, raises =>
    ⟨.scriptExpression script,
      by simp [leavesOf, partsOfConditions, Condition.parts, isLogical], raises⟩
  | .not condition, raises => by
    rw [ConditionRaises] at raises
    rw [leavesOf_not]
    exact conditionRaises_leaf raises
  | .and conditions, raises => by
    rw [ConditionRaises] at raises
    rw [leavesOf_and]
    exact andRaises_leaf raises
  | .or conditions, raises => by
    rw [ConditionRaises] at raises
    rw [leavesOf_or]
    exact orRaises_leaf raises
  | .xor conditions, raises => by
    rw [ConditionRaises] at raises
    rw [leavesOf_xor]
    exact xorRaises_leaf raises
  | .deviceState .., raises | .timeWindow .., raises | .timeElapsed .., raises
  | .deviceLastChange .., raises | .privateBooleanIs .., raises | .hubVariable .., raises
  | .modeIs .., raises | .calendarActive .., raises | .alertActive .., raises
  | .noAlertActive .., raises | .triggerAlertActive, raises => by
    rw [ConditionRaises] at raises
    · exact raises.elim
    all_goals nofun

theorem andRaises_leaf : ∀ {conditions : List Condition}, AndRaises ask conditions →
    ∃ leaf ∈ leavesOf conditions, ConditionRaises ask leaf
  | c :: rest, raises => by
    rw [AndRaises] at raises
    rw [leavesOf_cons]
    rcases raises with first | ⟨_, later⟩
    · obtain ⟨leaf, inside, raises⟩ := conditionRaises_leaf first
      exact ⟨leaf, List.mem_append_left _ inside, raises⟩
    · obtain ⟨leaf, inside, raises⟩ := andRaises_leaf later
      exact ⟨leaf, List.mem_append_right _ inside, raises⟩

theorem orRaises_leaf : ∀ {conditions : List Condition}, OrRaises ask conditions →
    ∃ leaf ∈ leavesOf conditions, ConditionRaises ask leaf
  | c :: rest, raises => by
    rw [OrRaises] at raises
    rw [leavesOf_cons]
    rcases raises with first | ⟨_, later⟩
    · obtain ⟨leaf, inside, raises⟩ := conditionRaises_leaf first
      exact ⟨leaf, List.mem_append_left _ inside, raises⟩
    · obtain ⟨leaf, inside, raises⟩ := orRaises_leaf later
      exact ⟨leaf, List.mem_append_right _ inside, raises⟩

theorem xorRaises_leaf : ∀ {conditions : List Condition}, XorRaises ask conditions →
    ∃ leaf ∈ leavesOf conditions, ConditionRaises ask leaf
  | c :: rest, raises => by
    rw [XorRaises] at raises
    rw [leavesOf_cons]
    rcases raises with first | later
    · obtain ⟨leaf, inside, raises⟩ := conditionRaises_leaf first
      exact ⟨leaf, List.mem_append_left _ inside, raises⟩
    · obtain ⟨leaf, inside, raises⟩ := xorRaises_leaf later
      exact ⟨leaf, List.mem_append_right _ inside, raises⟩

end

theorem answers_of_leaves {c : Condition} (answered : ∀ leaf ∈ leavesOf [c], Answers ask leaf) :
    Answers ask c := by
  rw [answers_iff]
  intro raises
  obtain ⟨leaf, inside, leafRaises⟩ := conditionRaises_leaf raises
  exact answers_iff.mp (answered leaf inside) leafRaises

/-! ## A rule's conditions -/

/-- The part of a list up to and including the first that does not have the property. -/
def throughFirstNot (holds : Condition → Bool) : List Condition → List Condition
  | [] => []
  | c :: rest => if holds c then c :: throughFirstNot holds rest else [c]

/-- The traces are those of the conditions through the first that is not true. -/
theorem evaluateConditions_traces {conditions : List Condition}
    (answered : ∀ c ∈ conditions, Answers ask c) :
    ∃ traces, evaluateConditions ask conditions = .ok traces ∧
      traces.map .ok = (throughFirstNot (truth ask) conditions).map (evaluateOne ask) := by
  induction conditions with
  | nil => exact ⟨[], rfl, rfl⟩
  | cons c rest ih =>
    obtain ⟨trace, asked⟩ := answered c List.mem_cons_self
    have verdict := evaluateOne_truth asked
    rw [throughFirstNot]
    cases holds : truth ask c with
    | false =>
      rw [holds] at verdict
      refine ⟨[trace], ?_, ?_⟩
      · simp [evaluateConditions, asked, verdict, bind, Except.bind, pure, Except.pure]
      · simp [asked]
    | true =>
      rw [holds] at verdict
      obtain ⟨traces, later, same⟩ := ih fun c listed => answered c (List.mem_cons_of_mem _ listed)
      refine ⟨trace :: traces, ?_, ?_⟩
      · simp [evaluateConditions, asked, verdict, later, bind, Except.bind, pure, Except.pure]
      · rw [if_pos rfl, List.map_cons, List.map_cons, same, asked]

/-- All of the list is there, and true, exactly where all of the conditions are true. -/
theorem throughFirstNot_all (holds : Condition → Bool) (conditions : List Condition) :
    ((throughFirstNot holds conditions).length = conditions.length ∧
      (throughFirstNot holds conditions).all holds = true) ↔ conditions.all holds = true := by
  induction conditions with
  | nil => simp [throughFirstNot]
  | cons c rest ih =>
    rw [throughFirstNot]
    cases is : holds c with
    | false => simp [is]
    | true =>
      rw [if_pos rfl, List.length_cons, List.length_cons, List.all_cons, List.all_cons, is,
        Bool.true_and, Bool.true_and, ← ih, Nat.add_right_cancel_iff]

theorem passed_of_map {conditions : List Condition} {traces : List ConditionTrace}
    (same : traces.map .ok = conditions.map (evaluateOne ask)) :
    traces.map (·.passed) = conditions.map (truth ask) := by
  induction conditions generalizing traces with
  | nil =>
    cases traces with
    | nil => rfl
    | cons trace traces => cases same
  | cons c rest ih =>
    cases traces with
    | nil => cases same
    | cons trace traces =>
      rw [List.map_cons, List.map_cons] at same
      obtain ⟨first, later⟩ := List.cons.inj same
      rw [List.map_cons, List.map_cons, ih later, evaluateOne_truth first.symm]

theorem conditionsPassed_iff {rule : Rule} {run : Run} {traces : List ConditionTrace}
    (checks : run.checks = true)
    (same : traces.map .ok = (throughFirstNot (truth ask) rule.conditions).map (evaluateOne ask)) :
    conditionsPassed rule run traces = true ↔ ∀ c ∈ rule.conditions, truth ask c = true := by
  have length : traces.length = (throughFirstNot (truth ask) rule.conditions).length := by
    simpa using congrArg List.length same
  have verdicts : traces.all (·.passed) =
      (throughFirstNot (truth ask) rule.conditions).all (truth ask) := by
    have passed := congrArg (List.all · id) (passed_of_map same)
    simpa [List.all_map, Function.comp_def] using passed
  rw [conditionsPassed, checks, Bool.not_true, Bool.false_or, verdicts, length, Bool.or_eq_true_iff,
    Bool.and_eq_true_iff, beq_iff_eq, throughFirstNot_all, List.all_eq_true, List.isEmpty_iff]
  constructor
  · rintro (unconditional | all)
    · rw [unconditional]
      exact fun c listed => absurd listed List.not_mem_nil
    · exact all
  · exact .inr

end Verdicts

/-- Where no check raises an error, a condition of any depth comes to its truth, a
rule's conditions pass where all of them are true, and the traces are those of the
conditions through the first that is not. -/
theorem conditions_are_boolean (ask : Asking) :
    (∀ c, (∀ leaf ∈ leavesOf [c], Answers ask leaf) →
      ∃ trace, evaluateOne ask c = .ok trace ∧ trace.passed = truth ask c) ∧
    ∀ (rule : Rule) (run : Run), run.checks = true →
      (∀ leaf ∈ leavesOf rule.conditions, Answers ask leaf) →
      ∃ traces, evaluateConditions ask rule.conditions = .ok traces ∧
        (conditionsPassed rule run traces = true ↔ ∀ c ∈ rule.conditions, truth ask c = true) ∧
        traces.map .ok = (throughFirstNot (truth ask) rule.conditions).map (evaluateOne ask) := by
  constructor
  · intro c answered
    obtain ⟨trace, asked⟩ := answers_of_leaves answered
    exact ⟨trace, asked, evaluateOne_truth asked⟩
  · intro rule run checks answered
    have each : ∀ c ∈ rule.conditions, Answers ask c := by
      intro c listed
      refine answers_of_leaves fun leaf inside => answered leaf ?_
      obtain ⟨before, after, split⟩ := List.append_of_mem listed
      rw [split, leavesOf, partsOfConditions_append, List.filter_append]
      refine List.mem_append_right _ ?_
      rw [← leavesOf, leavesOf_cons]
      exact List.mem_append_left _ inside
    obtain ⟨traces, asked, same⟩ := evaluateConditions_traces each
    exact ⟨traces, asked, conditionsPassed_iff checks same, same⟩

/-- Of two checks one is true, and the rule's second condition is not. -/
theorem evening_conditions :
    let texts : Texts := ⟨fun _ => "", fun _ => "", fun _ => "", fun _ => "", id⟩
    let ask : Asking := ⟨texts, quietWorld, ⟨1⟩, ∅, none⟩
    let evening : Condition :=
      .xor [.modeIs "mode_night" false, .not (.scriptExpression "sun_is_up()")]
    let rule := { Rule.minimal ⟨1⟩ .manualTrigger [] with
      conditions := [evening, .hubVariable "armed" .eq (.bool true), evening] }
    (∃ trace, evaluateOne ask evening = .ok trace ∧ trace.passed = truth ask evening) ∧
      ∃ traces, evaluateConditions ask rule.conditions = .ok traces ∧
        (conditionsPassed rule .event traces = true ↔ ∀ c ∈ rule.conditions, truth ask c = true) ∧
        traces.map .ok = (throughFirstNot (truth ask) rule.conditions).map (evaluateOne ask) := by
  intro texts ask evening rule
  have decides (leaf : Condition) (inside : leaf ∈ leavesOf rule.conditions) : Answers ask leaf := by
    simp only [rule, evening, leavesOf, partsOfConditions, Condition.parts] at inside
    fin_cases inside
    all_goals exact ⟨_, rfl⟩
  refine ⟨(conditions_are_boolean ask).1 evening fun leaf inside => decides leaf ?_,
    (conditions_are_boolean ask).2 rule .event rfl decides⟩
  rw [leavesOf_cons]
  exact List.mem_append_left _ inside

end HomeCore.Engine
