import HomeCore.Engine.RefusedProofs

/-! Rules with an error. Nothing on the way from an event to an action looks at the error: such a rule
stays quiet as long as it is off, nobody asks for it, and no other rule runs its actions. -/
namespace HomeCore.Engine

/-- The dispatcher, beside the exit flags of the contexts in which the actions of a rule with an error
were started. -/
structure BrokenWatch where
  dispatcher : Dispatcher
  broken : List Nat

/-- The rule whose actions a turn of the task is about to run. -/
def calledRule (s : System) (task : Nat) : Option Rule :=
  match onTop s task with
  | some (.action ctx (.runRuleActions ruleId)) =>
    if maxCallDepth ≤ ctx.callDepth then none else s.shared.rules.find? (·.id = ruleId)
  | _ => none

/-- The event is one of the rule's moments, and not one that has to be held first. -/
def startedBy (wire : Wire) (event : Event) (rule : Rule) : Bool :=
  rule.enabled && (foundTrigger wire event rule).any fun (_, trigger) =>
    (triggerForDuration trigger).isNone

/-- The rule that an event starts, as far as the event and the rule set tell. -/
def Starts (wire : Wire) (rules : List Rule) (event : Event) (rule : Rule) : Prop :=
  match event with
  | .custom _ eventType payload =>
    if eventType = "scheduler_tick" then namedRule wire (rules.filter (·.enabled)) payload = some rule
    else if eventType = manualRunEvent then namedRule wire rules payload = some rule
    else if eventType = "deferred_rule_fire" then
      namedRule wire (rules.filter (·.enabled)) payload = some rule
    else startedBy wire event rule = true
  | _ => startedBy wire event rule = true

namespace BrokenWatch
variable (wire : Wire) (texts : Texts)

def start (rules : List Rule) : BrokenWatch := ⟨Dispatcher.start rules, []⟩

/-- The rule whose actions are started at the input: the one that is admitted, or called. -/
def startedRule (w : BrokenWatch) : DispatchInput → Option Rule
  | .judge world => do
    let selected ← w.dispatcher.current
    let (rule, _) ← w.dispatcher.system.firing
    match verdict texts world selected.rule selected.tctx selected.run with
    | .admitRun => some rule
    | _ => none
  | .other (.poll task _) => calledRule w.dispatcher.system task
  | _ => none

def step (w : BrokenWatch) (input : DispatchInput) : BrokenWatch where
  dispatcher := w.dispatcher.step wire texts input
  broken := match (w.startedRule texts input).bind (·.error) with
    | some _ => w.dispatcher.system.shared.made :: w.broken
    | none => w.broken

/-- No task is about to execute an action of a rule with an error. -/
def BrokenNeverRun (w : BrokenWatch) : Prop :=
  ∀ task ctx action, onTop w.dispatcher.system task = some (.action ctx action) →
    ctx.exitFlag ∉ w.broken

/-- No rule with an error is started by the event, or run by the action that is executed. -/
def Sound (w : BrokenWatch) : DispatchInput → Prop
  | .receive _ event => ∀ rule ∈ w.dispatcher.system.shared.rules,
      Starts wire w.dispatcher.system.shared.rules event rule → rule.error = none
  | .other (.poll task _) => ∀ rule ∈ calledRule w.dispatcher.system task, rule.error = none
  | _ => True

end BrokenWatch

/-! ## From an event to the rules it starts -/

section Selection
variable {wire : Wire} {rules : List Rule}

theorem matchRules_starts {event : Event} {selected : Selected}
    (member : selected ∈ matchRules wire rules event) (now : selected.deferred = false) :
    selected.rule ∈ rules ∧ startedBy wire event selected.rule = true := by
  obtain ⟨rule, isEnabled, found⟩ := List.mem_filterMap.mp member
  obtain ⟨inRules, enabled⟩ := List.mem_filter.mp isEnabled
  obtain ⟨⟨index, trigger⟩, isFound, rfl⟩ := Option.map_eq_some_iff.mp found
  refine ⟨inRules, ?_⟩
  rw [startedBy, enabled, Bool.true_and, isFound, Option.any_some, Option.isNone_iff_eq_none]
  simpa using now

theorem namedRule_mem {payload : Json} {rule : Rule} (named : namedRule wire rules payload = some rule) :
    rule ∈ rules := by
  simp only [namedRule, Option.bind_eq_bind, Option.bind_eq_some_iff] at named
  obtain ⟨id, _, found⟩ := named
  exact List.mem_of_find?_eq_some found

theorem schedulerTick_starts {payload : Json} {selected : Selected}
    (member : selected ∈ schedulerTick wire rules payload) :
    namedRule wire (rules.filter (·.enabled)) payload = some selected.rule := by
  rw [schedulerTick] at member
  split at member
  · cases member
  · next named =>
    rw [List.mem_singleton] at member
    rw [member, named]

theorem manualFire_starts {payload : Json} {selected : Selected}
    (member : selected ∈ manualFire wire rules payload) :
    namedRule wire rules payload = some selected.rule := by
  rw [manualFire] at member
  split at member
  · cases member
  · next named =>
    rw [List.mem_singleton] at member
    rw [member, named]

theorem recheck_starts {cache : Std.ExtTreeMap String AttrMap} {available : String → Option Bool}
    {ruleId : Uuid} {index : Nat} {held : Option Bool} {selected : Selected}
    (member : selected ∈ recheck cache available rules ruleId index held) :
    rules.find? (fun rule => rule.id = ruleId ∧ rule.enabled = true) = some selected.rule := by
  rw [recheck] at member
  split at member
  · cases member
  · next found =>
    dsimp only at member
    split at member
    · rw [List.mem_singleton] at member
      rw [member, found]
    · cases member

/-- The first enabled rule of an id is the first of that id among the enabled ones. -/
theorem find?_enabled (rules : List Rule) (ruleId : Uuid) :
    rules.find? (fun rule => rule.id = ruleId ∧ rule.enabled = true) =
      (rules.filter (·.enabled)).find? (·.id = ruleId) := by
  rw [List.find?_filter]
  congr 1
  funext rule
  simp only [Bool.decide_and, Bool.decide_eq_true]
  exact Bool.and_comm _ _

theorem deferredFire_starts {world : World} {payload : Json} {selected : Selected}
    (member : selected ∈ deferredFire wire world rules payload) :
    namedRule wire (rules.filter (·.enabled)) payload = some selected.rule := by
  rw [deferredFire] at member
  split at member
  · cases member
  · next named =>
    have found := recheck_starts member
    rw [find?_enabled] at found
    simp only [namedRule, named, Option.bind_eq_bind, Option.bind_some, found]

/-- Whatever is fired at once is a rule of the set that the event starts. -/
theorem selectRules_starts {world : World} {event : Event} {selected : Selected}
    (member : selected ∈ selectRules wire world rules event) (now : selected.deferred = false) :
    selected.rule ∈ rules ∧ Starts wire rules event selected.rule := by
  have matched : ∀ event, selected ∈ matchRules wire rules event → selected.rule ∈ rules ∧
      startedBy wire event selected.rule = true :=
    fun event member => matchRules_starts member now
  have enabled : ∀ payload, namedRule wire (rules.filter (·.enabled)) payload = some selected.rule →
      selected.rule ∈ rules := fun payload named => (List.mem_filter.mp (namedRule_mem named)).1
  cases event with
  | custom at_ eventType payload =>
    simp only [selectRules, Starts] at member ⊢
    split at member
    · next tick =>
      have named := schedulerTick_starts member
      exact ⟨enabled payload named, by rwa [if_pos tick]⟩
    split at member
    · next noTick manual =>
      have named := manualFire_starts member
      exact ⟨namedRule_mem named, by rwa [if_neg noTick, if_pos manual]⟩
    split at member
    · next noTick noManual deferred =>
      have named := deferredFire_starts member
      exact ⟨enabled payload named, by rwa [if_neg noTick, if_neg noManual, if_pos deferred]⟩
    · next noTick noManual noDeferred =>
      rw [if_neg noTick, if_neg noManual, if_neg noDeferred]
      exact matched _ member
  | _ => exact matched _ member

end Selection

/-! ## The loop -/

/-- Nothing that is due or being fired has an error. -/
structure Dispatcher.Whole (d : Dispatcher) : Prop where
  due : ∀ selected ∈ d.due, selected.rule.error = none
  firing : ∀ rule counter, d.system.firing = some (rule, counter) → rule.error = none

section Loop
variable {wire : Wire} {texts : Texts} {d : Dispatcher}

/-- A step of the engine leaves the rule being fired, or begins with one that has no error. -/
theorem Dispatcher.Whole.firing_step (whole : d.Whole) {input : Input}
    (sound : ∀ rule, input = .check rule → rule.error = none) :
    ∀ rule counter, (Engine.step d.system input).firing = some (rule, counter) → rule.error = none := by
  intro rule counter found
  rcases step_firing found with ⟨before, _⟩ | ⟨isCheck, _⟩
  · exact whole.firing rule counter before
  · exact sound rule isCheck

theorem whole_receive (whole : d.Whole) (world : World) (event : Event)
    (sound : ∀ rule ∈ d.system.shared.rules, Starts wire d.system.shared.rules event rule →
      rule.error = none) : (d.receive wire world event).Whole := by
  rw [Dispatcher.receive]
  split
  · exact whole
  · refine ⟨fun selected member => ?_, whole.firing⟩
    obtain ⟨isSelected, now⟩ := List.mem_filter.mp member
    obtain ⟨inRules, starts⟩ := selectRules_starts isSelected (by simpa using now)
    exact sound selected.rule inRules starts

theorem whole_fireNext (whole : d.Whole) (world : World) : (d.fireNext world).Whole := by
  rw [Dispatcher.fireNext]
  split
  · next selected rest _ isDue =>
    have isSound : selected.rule.error = none := whole.due selected (by simp [isDue])
    have later : ∀ other ∈ rest, other.rule.error = none :=
      fun other member => whole.due other (by simp [isDue, member])
    split
    · refine ⟨later, whole.firing_step fun rule isCheck => ?_⟩
      cases isCheck
      exact isSound
    · exact ⟨later, whole.firing_step fun rule isCheck => by cases isCheck⟩
    · exact ⟨later, whole.firing⟩
    · exact ⟨fun _ member => (by cases member), whole.firing⟩
  · exact whole

theorem verdict_cases (texts : Texts) (world : World) (rule : Rule) (tctx : TriggerContext) (run : Run) :
    verdict texts world rule tctx run = .admitRun ∨ verdict texts world rule tctx run = .refuse := by
  rw [verdict]
  split
  · split
    · exact .inl rfl
    · exact .inr rfl
  · exact .inr rfl

theorem whole_judge (whole : d.Whole) (world : World) : (d.judge texts world).Whole := by
  rw [Dispatcher.judge]
  split
  · exact whole
  · next rule tctx _ run _ =>
    refine ⟨fun selected member => ?_, whole.firing_step fun checked isCheck => ?_⟩
    · dsimp only at member
      split at member
      · cases member
      · exact whole.due selected member
    · rcases verdict_cases texts world rule tctx run with isVerdict | isVerdict <;>
        rw [isVerdict] at isCheck <;> cases isCheck

end Loop

/-! ## The run -/

namespace BrokenWatch
variable {wire : Wire} {texts : Texts} {w : BrokenWatch} {input : DispatchInput}

/-- Nothing of a rule with an error was started, and nothing of one is about to be. -/
structure NoneBroken (w : BrokenWatch) : Prop where
  started : w.broken = []
  whole : w.dispatcher.Whole

theorem NoneBroken.brokenNeverRun (quiet : NoneBroken w) : BrokenNeverRun w := by
  intro task ctx action _ started
  rw [quiet.started] at started
  cases started

/-- The rule that an input starts has no error. -/
theorem startedRule_sound (quiet : NoneBroken w) (sound : w.Sound wire input) :
    ∀ rule ∈ w.startedRule texts input, rule.error = none := by
  intro rule started
  cases input with
  | receive | next => cases started
  | judge world =>
    simp only [startedRule, Option.bind_eq_bind, Option.mem_def, Option.bind_eq_some_iff] at started
    obtain ⟨selected, _, ⟨fired, counter⟩, firing, isVerdict⟩ := started
    split at isVerdict
    · rw [Option.some_inj] at isVerdict
      exact quiet.whole.firing rule counter (isVerdict ▸ firing)
    · cases isVerdict
  | other engineInput =>
    cases engineInput with
    | poll task answer => exact sound rule started
    | _ => cases started

theorem noneBroken_step (quiet : NoneBroken w) (sound : w.Sound wire input) :
    NoneBroken (w.step wire texts input) := by
  constructor
  · have noError : (w.startedRule texts input).bind (·.error) = none := by
      rw [Option.bind_eq_none_iff]
      exact startedRule_sound quiet sound
    simp only [step, noError]
    exact quiet.started
  · cases input with
    | receive world event => exact whole_receive quiet.whole world event sound
    | next world => exact whole_fireNext quiet.whole world
    | judge world => exact whole_judge quiet.whole world
    | other engineInput =>
      change (if engineInput.ofLoop then w.dispatcher else
        { w.dispatcher with system := Engine.step w.dispatcher.system engineInput }).Whole
      split
      · exact quiet.whole
      · next own =>
        refine ⟨quiet.whole.due, quiet.whole.firing_step fun rule isCheck => ?_⟩
        rw [isCheck] at own
        exact absurd rfl own

theorem noneBroken_start (rules : List Rule) : NoneBroken (start rules) where
  started := rfl
  whole := ⟨fun _ member => (by cases member), fun _ _ found => (by cases found)⟩

/-- No action of a rule with an error is executed in any run in which no event starts such a rule and
no action runs the actions of one. -/
theorem broken_rules_never_run (wire : Wire) (texts : Texts) (rules : List Rule)
    (inputs : List DispatchInput)
    (sound : Runs.EachStep (step wire texts) (Sound wire) (start rules) inputs) :
    Runs.Always (step wire texts) BrokenNeverRun (start rules) inputs := by
  have always : Runs.Always (step wire texts) NoneBroken (start rules) inputs :=
    Runs.invariant NoneBroken (fun w input quiet isSound => noneBroken_step quiet isSound)
      (noneBroken_start rules) sound
  exact always.mono fun w quiet => quiet.brokenNeverRun

/-! ## Asked to run -/

/-- Every id that can be read is the first rule's. -/
def oneRule : Wire := ⟨fun _ => none, fun _ => some ⟨1⟩, fun _ => none, fun _ => .null⟩

def askedToRun : List DispatchInput :=
  [.receive quietWorld (.custom 0 manualRunEvent (.obj [("rule_id", .str "the first")])),
    .next quietWorld, .judge quietWorld, .other (.poll 0 {})]

def nightLight : Rule :=
  Rule.minimal ⟨1⟩ .manualTrigger [.setDeviceState "lamp" (.obj [("on", .bool true)]) false]

/-- The device it turns on was deleted. -/
def lightOfDeletedLamp : Rule :=
  { nightLight with enabled := false, error := some "references deleted device: lamp" }

theorem sound_rule_runs :
    Runs.Always (step oneRule noTexts) BrokenNeverRun (start [nightLight]) askedToRun := by
  refine broken_rules_never_run oneRule noTexts [nightLight] askedToRun
    ⟨fun rule inRules _ => ?_, trivial, trivial, fun rule called => ?_, trivial⟩
  · rw [List.mem_singleton.mp inRules]
    rfl
  · cases called

/-- The frame acts for a rule that was broken when it was fired. -/
def actsBroken (w : BrokenWatch) : Frame → Bool
  | .action ctx _ => w.broken.contains ctx.exitFlag
  | _ => false

/-- A rule that is off for its error runs when someone asks for it. -/
theorem broken_rule_runs :
    ¬ Runs.Always (step oneRule noTexts) BrokenNeverRun (start [lightOfDeletedLamp]) askedToRun := by
  intro always
  have never := Runs.Always.last always
  generalize reached : List.foldl (step oneRule noTexts) _ _ = w at never
  have executes : (onTop w.dispatcher.system 0).any w.actsBroken = true := by
    rw [← reached]
    decide
  obtain ⟨frame, isOnTop, isBroken⟩ := (Option.any_eq_true _ _).mp executes
  cases frame with
  | action ctx action => exact never 0 ctx action isOnTop (List.contains_iff_mem.mp isBroken)
  | _ => cases isBroken

end BrokenWatch
end HomeCore.Engine
