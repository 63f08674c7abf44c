import HomeCore.Overwrites
import HomeCore.Rules.LoaderProofs

/-! Rule-local variables: what the engine writes at its start, what actions set, and
what a reload of the rules leaves. -/
namespace HomeCore.Variables
open Loader Resolver

/-- `rule_vars`, by rule and name. -/
abbrev RuleVars := Uuid × String → Option Json

/-! ## The action -/

section SetVariable
variable (round : Rat → Option Rat)

/-- The number as JSON; null where it is not finite. The cast to `i64` saturates. -/
def toJsonNumber : Option Rat → Json
  | none => .null
  | some f =>
    if f.den = 1 ∧ -2 ^ 63 ≤ f ∧ f ≤ 2 ^ 63 then
      let n := min f.num (2 ^ 63 - 1)
      .num (if 0 ≤ n then .posInt n.toNat else .negInt n)
    else .num (.float f)

/-- What the action makes of the current value; `round` takes a result to the nearest
double, none where it overflows. -/
def newValue (current : Option Json) (value : Json) : VariableOp → Json
  | .set => value
  | .toggle => .bool (!(current.bind Json.asBool).getD false)
  | .add => toJsonNumber (round ((current.bind Json.asF64).getD 0 + value.asF64.getD 0))
  | .subtract => toJsonNumber (round ((current.bind Json.asF64).getD 0 - value.asF64.getD 0))
  | .multiply => toJsonNumber (round ((current.bind Json.asF64).getD 0 * value.asF64.getD 1))
  | .divide =>
    let divisor := value.asF64.getD 1
    if divisor = 0 then .null else toJsonNumber (round ((current.bind Json.asF64).getD 0 / divisor))

def setVariable (ruleVars : RuleVars) (ruleId : Uuid) (name : String) (value : Json)
    (op : Option VariableOp) : RuleVars :=
  let key := (ruleId, name)
  Function.update ruleVars key (some (newValue round (ruleVars key) value (op.getD .set)))

end SetVariable

/-! ## The engine's start and a reload -/

/-- The entries of the rules' `variables` maps. -/
def declared (rules : List Rule) : List ((Uuid × String) × Json) :=
  rules.flatMap fun rule => rule.initialVariables.toList.map fun (name, initial) => ((rule.id, name), initial)

def initialVars (rules : List Rule) : RuleVars := Overwrites.written (fun _ => none) (declared rules)

/-- What `purge_callback` retains of `rule_vars`. -/
def purge (liveRules : List Rule) (ruleVars : RuleVars) : RuleVars := fun key =>
  if key.1 ∈ liveRules.map (·.id) then ruleVars key else none

/-- The engine as far as its variables go. `touched` is no part of it: it marks what an
action has set since the rule was loaded or last reloaded. -/
structure Engine where
  set : RuleSet
  ruleVars : RuleVars
  touched : Uuid × String → Bool

inductive Op where
  | setVariable (ruleId : Uuid) (name : String) (value : Json) (op : Option VariableOp)
  | reload (devices : List DeviceState) (batch : Batch)

section Steps
variable (codec : RuleCodec) (dir : String) (round : Rat → Option Rat)

/-- `RuleEngine::new`, on the rules loaded at start-up. -/
def start (devices : List DeviceState) (draws : Draws) (files : Files) : Engine :=
  let set := startSet codec dir devices draws files
  ⟨set, initialVars set.live, fun _ => false⟩

/-- The rules that a reload loads and puts into the live set: those of the changed files,
or all of them when the device list could only be read the second time. -/
def loadedRules (devices : List DeviceState) (set : RuleSet) (batch : Batch) : List Rule :=
  if batch.devicesRead then
    let files := batch.edits.foldl Edit.apply set.files
    compileRules ((loadEach codec dir batch.draws batch.changed files).1.map (·.2)) devices
  else if batch.devicesReadAgain then (reload codec dir devices set batch).live
  else []

def reloadRules (engine : Engine) (devices : List DeviceState) (batch : Batch) : Engine where
  set := reload codec dir devices engine.set batch
  ruleVars :=
    let after := reload codec dir devices engine.set batch
    if batch.devicesRead then purge after.live engine.ruleVars
    else if batch.devicesReadAgain then purge after.source engine.ruleVars
    else engine.ruleVars
  touched := fun key =>
    engine.touched key && !((loadedRules codec dir devices engine.set batch).map (·.id)).contains key.1

def step (engine : Engine) : Op → Engine
  | .setVariable ruleId name value op =>
    { engine with
      ruleVars := setVariable round engine.ruleVars ruleId name value op
      touched := Function.update engine.touched (ruleId, name) true }
  | .reload devices batch => reloadRules codec dir engine devices batch

/-- The loaded rules find each of their variables at its initial value. -/
def FindsInitial (engine : Engine) : Op → Prop
  | .setVariable .. => True
  | .reload devices batch =>
    ∀ entry ∈ declared (loadedRules codec dir devices engine.set batch),
      engine.ruleVars entry.1 = some entry.2

end Steps

/-- Every declared variable of a live rule has a value, its initial one unless an action
has set it. -/
def DeclaredHeld (engine : Engine) : Prop :=
  ∀ entry ∈ declared engine.set.live, ∃ value, engine.ruleVars entry.1 = some value ∧
    (engine.touched entry.1 = false → value = entry.2)

/-- No variable is declared with two initial values. -/
def OneInitial (rules : List Rule) : Prop :=
  ∀ entry ∈ declared rules, ∀ other ∈ declared rules, entry.1 = other.1 → entry.2 = other.2

/-! ## What is declared -/

theorem mem_declared {rules : List Rule} {entry : (Uuid × String) × Json} :
    entry ∈ declared rules ↔
      ∃ rule ∈ rules, rule.id = entry.1.1 ∧ rule.initialVariables[entry.1.2]? = some entry.2 := by
  obtain ⟨⟨ruleId, name⟩, initial⟩ := entry
  simp only [declared, List.mem_flatMap, List.mem_map, Prod.mk.injEq]
  constructor
  · rintro ⟨rule, member, ⟨key, value⟩, listed, ⟨sameId, rfl⟩, rfl⟩
    exact ⟨rule, member, sameId, Std.ExtTreeMap.mem_toList_iff_getElem?_eq_some.mp listed⟩
  · rintro ⟨rule, member, sameId, found⟩
    exact ⟨rule, member, (name, initial), Std.ExtTreeMap.mem_toList_iff_getElem?_eq_some.mpr found,
      ⟨sameId, rfl⟩, rfl⟩

theorem declared_mono {rules more : List Rule} (subset : rules ⊆ more) : declared rules ⊆ declared more := by
  intro entry member
  obtain ⟨rule, isRule, declares⟩ := mem_declared.mp member
  exact mem_declared.mpr ⟨rule, subset isRule, declares⟩

/-! ## What a reload leaves -/

section Reload
variable {codec : RuleCodec} {dir : String} {round : Rat → Option Rat} {devices : List DeviceState}
  {engine : Engine} {batch : Batch}

/-- A rule that is live after a reload was loaded by it, or was live and is none of them. -/
theorem live_reload (set : RuleSet) {rule : Rule} (live : rule ∈ (reload codec dir devices set batch).live) :
    rule ∈ loadedRules codec dir devices set batch ∨
      rule ∈ set.live ∧ rule.id ∉ (loadedRules codec dir devices set batch).map (·.id) := by
  by_cases read : batch.devicesRead = true
  · rw [reload, surgicalReload] at live
    simp only [read, if_true] at live
    rw [loadedRules, if_pos read]
    rcases mem_applyRuleDiff.mp live with ⟨was, _, other⟩ | new
    · exact .inr ⟨was, other⟩
    · exact .inl new
  · rw [loadedRules, if_neg read]
    by_cases readAgain : batch.devicesReadAgain = true
    · rw [if_pos readAgain]
      exact .inl live
    · rw [reload, surgicalReload] at live
      simp only [read, fullReload, readAgain] at live
      rw [if_neg readAgain]
      exact .inr ⟨live, List.not_mem_nil⟩

theorem loadedRules_live (set : RuleSet) :
    loadedRules codec dir devices set batch ⊆ (reload codec dir devices set batch).live := by
  intro rule loaded
  rw [loadedRules] at loaded
  split at loaded
  · next read =>
    rw [reload, surgicalReload]
    simp only [read, if_true]
    exact mem_applyRuleDiff.mpr (.inr loaded)
  · split at loaded
    · exact loaded
    · cases loaded

/-- A full reload purges by the rules as written, which have the ids of the compiled ones. -/
theorem source_ids (set : RuleSet) (notRead : batch.devicesRead = false)
    (readAgain : batch.devicesReadAgain = true) :
    (reload codec dir devices set batch).source.map (·.id) =
      (reload codec dir devices set batch).live.map (·.id) := by
  rw [reload, surgicalReload]
  simp only [notRead, Bool.false_eq_true, if_false, fullReload, readAgain, if_true]
  rw [compileRules_eq, List.map_map]
  exact (List.map_congr_left fun rule _ => compiled_id devices rule).symm

/-- The purge leaves the variables of the rules that are live. -/
theorem ruleVars_reload {key : Uuid × String}
    (live : key.1 ∈ (reload codec dir devices engine.set batch).live.map (·.id)) :
    (reloadRules codec dir engine devices batch).ruleVars key = engine.ruleVars key := by
  simp only [reloadRules]
  split
  · exact if_pos live
  · next notRead =>
    split
    · next readAgain =>
      rw [← source_ids engine.set (Bool.eq_false_iff.mpr notRead) readAgain] at live
      exact if_pos live
    · rfl

theorem id_of_declared {rules : List Rule} {entry : (Uuid × String) × Json}
    (member : entry ∈ declared rules) : entry.1.1 ∈ rules.map (·.id) := by
  obtain ⟨rule, isRule, isId, _⟩ := mem_declared.mp member
  exact List.mem_map.mpr ⟨rule, isRule, isId⟩

theorem touched_loaded {entry : (Uuid × String) × Json}
    (member : entry ∈ declared (loadedRules codec dir devices engine.set batch)) :
    (reloadRules codec dir engine devices batch).touched entry.1 = false := by
  have loaded := id_of_declared member
  simp only [reloadRules, List.contains_eq_mem, loaded, decide_true, Bool.not_true, Bool.and_false]

theorem touched_other {key : Uuid × String}
    (other : key.1 ∉ (loadedRules codec dir devices engine.set batch).map (·.id)) :
    (reloadRules codec dir engine devices batch).touched key = engine.touched key := by
  simp only [reloadRules, List.contains_eq_mem, other, decide_false, Bool.not_false, Bool.and_true]

/-- A reload keeps the declared variables exactly when the rules it loads find theirs
already there. -/
theorem declaredHeld_reload (held : DeclaredHeld engine) :
    DeclaredHeld (reloadRules codec dir engine devices batch) ↔
      FindsInitial codec dir engine (.reload devices batch) := by
  have loadedLive : declared (loadedRules codec dir devices engine.set batch) ⊆
      declared (reload codec dir devices engine.set batch).live :=
    declared_mono (loadedRules_live engine.set)
  constructor
  · intro after entry member
    have live := loadedLive member
    obtain ⟨value, found, untouched⟩ := after entry live
    rw [ruleVars_reload (id_of_declared live)] at found
    rw [found, untouched (touched_loaded member)]
  · intro finds entry member
    rw [ruleVars_reload (id_of_declared member)]
    obtain ⟨rule, live, declares⟩ := mem_declared.mp member
    rcases live_reload engine.set live with loaded | ⟨was, other⟩
    · have isInitial := finds entry (mem_declared.mpr ⟨rule, loaded, declares⟩)
      exact ⟨entry.2, isInitial, fun _ => rfl⟩
    · rw [touched_other (declares.1 ▸ other)]
      exact held entry (mem_declared.mpr ⟨rule, was, declares⟩)

/-- An action only ever gives a variable a value. -/
theorem declaredHeld_setVariable (held : DeclaredHeld engine) (ruleId : Uuid) (name : String)
    (value : Json) (op : Option VariableOp) :
    DeclaredHeld (step codec dir round engine (.setVariable ruleId name value op)) := by
  intro entry member
  obtain ⟨current, found, untouched⟩ := held entry member
  simp only [step, setVariable]
  by_cases same : entry.1 = (ruleId, name)
  · rw [same, Function.update_self, Function.update_self]
    exact ⟨_, rfl, fun impossible => by cases impossible⟩
  · rw [Function.update_of_ne same, Function.update_of_ne same]
    exact ⟨current, found, untouched⟩

theorem declaredHeld_step (op : Op) (held : DeclaredHeld engine) :
    DeclaredHeld (step codec dir round engine op) ↔ FindsInitial codec dir engine op := by
  cases op with
  | setVariable ruleId name value op =>
    exact ⟨fun _ => trivial, fun _ => declaredHeld_setVariable held ruleId name value op⟩
  | reload devices batch => exact declaredHeld_reload held

end Reload

/-! ## The engine's start -/

theorem declaredHeld_start {codec : RuleCodec} {dir : String} {devices : List DeviceState} {draws : Draws}
    {files : Files} :
    DeclaredHeld (start codec dir devices draws files) ↔
      OneInitial (startSet codec dir devices draws files).live := by
  constructor
  · intro held entry member other otherMember same
    obtain ⟨value, found, initial⟩ := held entry member
    obtain ⟨twin, foundTwin, initialTwin⟩ := held other otherMember
    rw [← same, found] at foundTwin
    rw [← initial rfl, ← initialTwin rfl]
    exact Option.some.inj foundTwin
  · intro agree entry member
    have written : initialVars (startSet codec dir devices draws files).live entry.1 = some entry.2 :=
      Overwrites.written_of_same (fun other otherMember same => agree other otherMember entry member same)
        (.inr ⟨entry, member, rfl⟩)
    exact ⟨entry.2, written, fun _ => rfl⟩

/-- The declared variables are there throughout a run exactly when no variable is declared twice at
the start and every reload brings in rules that find their variables at the initial values. -/
theorem declared_variables_iff (codec : RuleCodec) (dir : String) (round : Rat → Option Rat)
    (devices : List DeviceState) (draws : Draws) (files : Files) (ops : List Op) :
    Runs.Always (step codec dir round) DeclaredHeld (start codec dir devices draws files) ops ↔
      OneInitial (startSet codec dir devices draws files).live ∧
        Runs.EachStep (step codec dir round) (FindsInitial codec dir)
          (start codec dir devices draws files) ops := by
  have runs (held : DeclaredHeld (start codec dir devices draws files)) :
      Runs.Always (step codec dir round) DeclaredHeld (start codec dir devices draws files) ops ↔
        Runs.EachStep (step codec dir round) (FindsInitial codec dir)
          (start codec dir devices draws files) ops :=
    Runs.always_iff_eachStep (fun _ op => declaredHeld_step op) held ops
  constructor
  · intro always
    have held := always.first
    exact ⟨declaredHeld_start.mp held, (runs held).mp always⟩
  · rintro ⟨agree, steps⟩
    have held := declaredHeld_start.mpr agree
    exact (runs held).mpr steps

/-! ## A rule added while the engine runs -/

/-- A text that is a rule with a variable. -/
def countingCodec : RuleCodec where
  parseRon text :=
    if text = "count" then
      some { Rule.minimal ⟨1⟩ .manualTrigger [] with
        initialVariables := Std.ExtTreeMap.ofList [("count", Json.num (.posInt 0))] }
    else none
  parseToml _ := none
  printRon _ := none
  printToml _ := none
  uuidV5 _ := ⟨5⟩

def addCountRule : Batch where
  edits := [.write "count.ron" (some "count")]
  changed := ["count.ron"]
  nodup := by decide
  ruleFiles := by decide
  reported := by simp [Edit.name]
  draws := sampleDraws
  devicesRead := true
  devicesReadAgain := true

/-- A rule whose file is written while the engine runs has no variables. -/
theorem added_rule_lacks_variables :
    ¬ Runs.Always (step countingCodec "rules" some) DeclaredHeld
      (start countingCodec "rules" [] sampleDraws ∅) [.reload [] addCountRule] := by
  intro always
  obtain ⟨value, found, _⟩ := always.last ((⟨1⟩, "count"), .num (.posInt 0)) (by decide)
  have absent : ([Op.reload [] addCountRule].foldl (step countingCodec "rules" some)
      (start countingCodec "rules" [] sampleDraws ∅)).ruleVars (⟨1⟩, "count") = none := by decide
  rw [absent] at found
  cases found

end HomeCore.Variables
