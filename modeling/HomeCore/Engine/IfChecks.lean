import HomeCore.Engine.ConditionTruthProofs

/-! What an if/otherwise asks. A script is run against the device states as they were
when the rule fired; any other check goes to the engine's judge, where there is one. -/
namespace HomeCore.Engine.IfChecks

/-- Decides any check, as the rule engine does for a rule's own conditions. -/
abbrev Judge := Condition → Std.ExtTreeMap String AttrMap → Except Failure Bool

/-- The judge of a rule, asked while the house is as `world` has it. -/
def judgeFor (texts : Texts) (world : World) (ruleId : Uuid) (trig : Option String) : Judge :=
  fun condition snapshot =>
    (evaluateOne ⟨texts, world, ruleId, snapshot, trig⟩ condition).map (·.passed)

/-- The kind that a check without a judge cannot be of. -/
def kindText : Condition → String
  | .deviceState .. => "DeviceState"
  | .timeWindow .. => "TimeWindow"
  | .scriptExpression .. => "ScriptExpression"
  | .timeElapsed .. => "TimeElapsed"
  | .deviceLastChange .. => "DeviceLastChange"
  | .not .. => "Not"
  | .and .. => "And"
  | .or .. => "Or"
  | .xor .. => "Xor"
  | .privateBooleanIs .. => "PrivateBooleanIs"
  | .hubVariable .. => "HubVariable"
  | .modeIs .. => "ModeIs"
  | .calendarActive .. => "CalendarActive"
  | .alertActive .. => "AlertActive"
  | .noAlertActive .. => "NoAlertActive"
  | .triggerAlertActive => "this"

/-- What the checks read, where no engine judges them. -/
structure Bare where
  localTime : NaiveTime
  snapshot : Std.ExtTreeMap String AttrMap
  evalCondition : String → ScriptScope → Except String Bool

def Bare.script (bare : Bare) (script : String) : Except Failure Bool :=
  match bare.evalCondition script { devices := bare.snapshot } with
  | .ok answer => .ok answer
  | .error message => .error (.error message)

mutual

/-- The kinds that need only the devices and the clock. -/
def checkPasses (bare : Bare) : Condition → Except Failure Bool
  | .deviceState deviceId attr op value =>
    .ok ((bare.snapshot[deviceId]?.bind fun attrs => attrs[attr]?).any (compareOp · op value))
  | .modeIs modeId on =>
    .ok (((bare.snapshot[modeId]?.bind fun attrs => attrs["on"]?).bind Json.asBool).getD false == on)
  | .timeWindow start finish =>
    let now := bare.localTime
    .ok (if start ≤ finish then start ≤ now && now ≤ finish else start ≤ now || now ≤ finish)
  | .scriptExpression script => bare.script script
  | .and conditions => checkAnd bare conditions
  | .or conditions => checkOr bare conditions
  | .xor conditions => do
    let yes ← checkXor bare conditions
    pure (yes == 1)
  | .not condition => do
    let inner ← checkPasses bare condition
    pure !inner
  | other => .error (.error ("an if/otherwise can't ask " ++ kindText other ++
      " — use a rule condition for that"))

def checkAnd (bare : Bare) : List Condition → Except Failure Bool
  | [] => .ok true
  | c :: rest => do
    if ← checkPasses bare c then checkAnd bare rest else pure false

def checkOr (bare : Bare) : List Condition → Except Failure Bool
  | [] => .ok false
  | c :: rest => do
    if ← checkPasses bare c then pure true else checkOr bare rest

def checkXor (bare : Bare) : List Condition → Except Failure Nat
  | [] => .ok 0
  | c :: rest => do
    let first ← checkPasses bare c
    let others ← checkXor bare rest
    pure (if first then others + 1 else others)

end

def ifPasses (bare : Bare) (judge : Option Judge) : IfCheck → Except Failure Bool
  | .script expression => bare.script expression
  | .check condition => match judge with
    | some judge => judge condition bare.snapshot
    | none => checkPasses bare condition

/-! What the judge of an if/otherwise goes by: a check on devices is decided on the
engine's cache as it is when it is asked, not on the snapshot of the firing. -/

def reading (cache : Std.ExtTreeMap String AttrMap) (deviceId attr : String) : Option Json :=
  cache[deviceId]?.bind fun attrs => attrs[attr]?

/-- The kinds that ask about devices, modes and variables. -/
def isStructured : Condition → Bool
  | .deviceState .. => true
  | .hubVariable .. => true
  | .privateBooleanIs .. => true
  | .modeIs .. => true
  | _ => false

/-- Built of such checks, at any depth. -/
def Structured (c : Condition) : Prop := ∀ leaf ∈ leavesOf [c], isStructured leaf = true

/-- The attribute of a device that a check asks about. -/
def asksAbout : Condition → Option (String × String)
  | .deviceState deviceId attr _ _ => some (deviceId, attr)
  | .modeIs modeId _ => some (modeId, "on")
  | _ => none

/-- The same house with these device states. -/
def withDevices (world : World) (devices : Std.ExtTreeMap String AttrMap) : World :=
  { world with cache := { world.cache with deviceCache := devices } }

/-! ## Truth -/

theorem deviceStateHolds_eq (cache : Std.ExtTreeMap String AttrMap) (deviceId attr : String)
    (op : CompareOp) (value : Json) :
    deviceStateHolds cache[deviceId]? attr op value =
      (reading cache deviceId attr).any (compareOp · op value) := by
  simp only [deviceStateHolds, reading]
  cases cache[deviceId]? with
  | none => rfl
  | some attrs => cases found : attrs[attr]? <;> simp [found]

theorem modeOn_eq (cache : Std.ExtTreeMap String AttrMap) (modeId : String) :
    modeOn cache modeId = ((reading cache modeId "on").bind Json.asBool).getD false := rfl

section Congr
variable {a b : Asking}

mutual

/-- The truth of a condition is settled by that of its checks. -/
theorem truth_congr : ∀ {c : Condition}, (∀ leaf ∈ leavesOf [c], truth a leaf = truth b leaf) →
    truth a c = truth b c
  | .not condition, same => by
    rw [leavesOf_not] at same
    rw [truth_not, truth_not, truth_congr same]
  | .and conditions, same => by
    rw [leavesOf_and] at same
    rw [truth, truth, truths_congr same]
  | .or conditions, same => by
    rw [leavesOf_or] at same
    rw [truth, truth, truths_congr same]
  | .xor conditions, same => by
    rw [leavesOf_xor] at same
    rw [truth, truth, truths_congr same]
  | .deviceState .., same | .timeWindow .., same | .scriptExpression .., same | .timeElapsed .., same
  | .deviceLastChange .., same | .privateBooleanIs .., same | .hubVariable .., same
  | .modeIs .., same | .calendarActive .., same | .alertActive .., same
  | .noAlertActive .., same | .triggerAlertActive, same => by
    refine same _ ?_
    simp [leavesOf, partsOfConditions, Condition.parts, isLogical]

theorem truths_congr : ∀ {conditions : List Condition},
    (∀ leaf ∈ leavesOf conditions, truth a leaf = truth b leaf) →
    truths a conditions = truths b conditions
  | [], _ => rfl
  | c :: rest, same => by
    rw [leavesOf_cons] at same
    have first := truth_congr fun leaf inside => same leaf (List.mem_append_left _ inside)
    have later := truths_congr fun leaf inside => same leaf (List.mem_append_right _ inside)
    rw [truths, truths, first, later]

end

end Congr

/-! ## The judge -/

section Judged
variable {texts : Texts} {world : World} {ruleId : Uuid} {trig : Option String}
  {snapshot : Std.ExtTreeMap String AttrMap}

/-- A structured check raises no error. -/
theorem answers_of_structured {ask : Asking} {c : Condition} (structured : Structured c) :
    Answers ask c := by
  refine answers_of_leaves fun leaf inside => answers_iff.mpr fun raises => ?_
  have kind := structured leaf inside
  cases leaf with
  | scriptExpression | not | and | or | xor => cases kind
  | _ => simp [ConditionRaises] at raises

theorem judgeFor_structured {c : Condition} (structured : Structured c) :
    judgeFor texts world ruleId trig c snapshot =
      .ok (truth ⟨texts, world, ruleId, snapshot, trig⟩ c) := by
  obtain ⟨trace, asked⟩ := answers_of_structured structured
  rw [judgeFor, asked, Except.map, evaluateOne_truth asked]

/-- A check comes to what the readings it asks for come to. -/
theorem truth_withDevices {leaf : Condition} (structured : isStructured leaf = true)
    (same : ∀ asked ∈ asksAbout leaf,
      reading world.cache.deviceCache asked.1 asked.2 = reading snapshot asked.1 asked.2) :
    truth ⟨texts, world, ruleId, snapshot, trig⟩ leaf =
      truth ⟨texts, withDevices world snapshot, ruleId, snapshot, trig⟩ leaf := by
  cases leaf with
  | deviceState deviceId attr op value =>
    rw [truth, truth, deviceStateHolds_eq, deviceStateHolds_eq, same (deviceId, attr) rfl]
    rfl
  | modeIs modeId on =>
    rw [truth, truth, modeOn_eq, modeOn_eq, same (modeId, "on") rfl]
    rfl
  | hubVariable | privateBooleanIs => simp only [truth, withDevices]
  | _ => cases structured

end Judged

/-- A check's verdict is the one on the snapshot of the firing where each attribute it
asks about reads as it did then. For every check to have that verdict, every attribute
of every device has to. -/
theorem checks_see_the_firing_iff (texts : Texts) (world : World) (ruleId : Uuid)
    (trig : Option String) (bare : Bare) :
    let judge := judgeFor texts world ruleId trig
    let judged (c : Condition) := ifPasses bare (some judge) (.check c)
    let atFiring (c : Condition) :=
      judgeFor texts (withDevices world bare.snapshot) ruleId trig c bare.snapshot
    let unchanged (deviceId attr : String) :=
      reading world.cache.deviceCache deviceId attr = reading bare.snapshot deviceId attr
    (∀ c, Structured c →
      (∀ leaf ∈ leavesOf [c], ∀ asked ∈ asksAbout leaf, unchanged asked.1 asked.2) →
      judged c = atFiring c) ∧
    ((∀ c, Structured c → judged c = atFiring c) ↔ ∀ deviceId attr, unchanged deviceId attr) := by
  intro judge judged atFiring unchanged
  have perTree (c : Condition) (structured : Structured c)
      (same : ∀ leaf ∈ leavesOf [c], ∀ asked ∈ asksAbout leaf, unchanged asked.1 asked.2) :
      judged c = atFiring c := by
    simp only [judged, judge, atFiring, ifPasses, judgeFor_structured structured]
    refine congrArg Except.ok (truth_congr fun leaf inside => ?_)
    exact truth_withDevices (structured leaf inside) (same leaf inside)
  refine ⟨perTree, ?_, ?_⟩
  · intro agree deviceId attr
    -- a check for the one value or the other tells them apart
    have tells (value : Json) : (reading world.cache.deviceCache deviceId attr).any (· == value) =
        (reading bare.snapshot deviceId attr).any (· == value) := by
      have structured : Structured (.deviceState deviceId attr .eq value) := by
        intro leaf inside
        simp only [leavesOf, partsOfConditions, Condition.parts] at inside
        fin_cases inside
        rfl
      have same := agree (.deviceState deviceId attr .eq value) structured
      simp only [judged, judge, atFiring, ifPasses, judgeFor_structured structured, truth, deviceStateHolds_eq,
        withDevices] at same
      exact Except.ok.inj same
    show reading world.cache.deviceCache deviceId attr = reading bare.snapshot deviceId attr
    cases live : reading world.cache.deviceCache deviceId attr with
    | some value =>
      have isSame := tells value
      rw [live, Option.any_some, beq_self_eq_true, eq_comm, Option.any_eq_true] at isSame
      obtain ⟨fired, atFire, equal⟩ := isSame
      rw [Option.mem_def.mp atFire, beq_iff_eq.mp equal]
    | none =>
      cases fired : reading bare.snapshot deviceId attr with
      | none => rfl
      | some value =>
        have isSame := tells value
        rw [live, fired, Option.any_none, Option.any_some, beq_self_eq_true] at isSame
        cases isSame
  · intro same c structured
    exact perTree c structured fun leaf inside asked asksIt => same asked.1 asked.2

/-! ## A lamp -/

def attic (on : Bool) : Std.ExtTreeMap String AttrMap :=
  Std.ExtTreeMap.ofList [("attic_lamp", Std.ExtTreeMap.ofList [("on", Json.bool on)])]

def untexted : Texts := ⟨fun _ => "", fun _ => "", fun _ => "", fun _ => "", id⟩

def firedWithLampOn : Bare := ⟨0, attic true, fun _ _ => .ok true⟩

def lampIsOn : Condition := .deviceState "attic_lamp" "on" .eq (.bool true)

/-- The lamp was on when the rule fired, and is switched off before the rule asks. -/
theorem lamp_switched_off_meanwhile :
    let judge := judgeFor untexted (withDevices quietWorld (attic false)) ⟨1⟩ none
    ifPasses firedWithLampOn (some judge) (.check lampIsOn) = .ok false ∧
      judgeFor untexted (withDevices quietWorld (attic true)) ⟨1⟩ none lampIsOn (attic true) = .ok true := by
  decide

/-- The lamp is still on. -/
theorem lamp_left_on :
    ifPasses firedWithLampOn (some (judgeFor untexted (withDevices quietWorld (attic true)) ⟨1⟩ none))
        (.check lampIsOn) =
      judgeFor untexted (withDevices quietWorld (attic true)) ⟨1⟩ none lampIsOn (attic true) := by
  have only (leaf : Condition) (inside : leaf ∈ leavesOf [lampIsOn]) : leaf = lampIsOn := by
    simpa [lampIsOn, leavesOf, partsOfConditions, Condition.parts, isLogical] using inside
  refine (checks_see_the_firing_iff untexted (withDevices quietWorld (attic true)) ⟨1⟩ none
    firedWithLampOn).1 lampIsOn ?_ ?_
  · intro leaf inside
    rw [only leaf inside]
    rfl
  · intro leaf inside asked asksIt
    rfl

end HomeCore.Engine.IfChecks
