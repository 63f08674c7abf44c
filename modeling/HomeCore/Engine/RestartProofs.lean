import HomeCore.Engine.RuleRunsProofs

/-! Stopping the runs that a restart supersedes. An exit flag is read before each
action of the context it belongs to, so it stops a run that has handed over
nothing yet and is in no rule that it called. -/
namespace HomeCore.Engine
open ForkJoin hiding Task
open scoped List

/-! ## Which runs are to stop -/

/-- A later run of the same rule was admitted as a restart. -/
def Superseded (s : System) (i : Nat) (run : RuleRun) : Prop :=
  s.runs[i]? = some run ∧ ∃ j later, i < j ∧ s.runs[j]? = some later ∧ later.ruleId = run.ruleId ∧
    later.mode = .restart

/-- The input begins an action in a task of the run. -/
def StartsAction (s : System) (run : RuleRun) : Input → Prop
  | .poll i _ => ∃ task ctx action, s.tasks[i]? = some task ∧ run.main = some task.owner ∧
    onTop s i = some (.action ctx action)
  | _ => False

/-- Nothing begins in a run that a restart has superseded. -/
def RestartsStop (s : System) (input : Input) : Prop :=
  ∀ i run, Superseded s i run → ¬ StartsAction s run input

/-- The flag that a restart of the rule raises. -/
def latestFlag (s : System) (ruleId : Uuid) : Option Nat :=
  (s.ruleInFlight ruleId).bind fun counter => s.counters[counter]?.bind RuleRuns.latest

/-- An action that is handed over and yet to begin. -/
def Frame.pending : Frame → Bool
  | .action .. => true
  | _ => false

/-- A list of actions that has come to its end. -/
def Frame.spent : Frame → Bool
  | .ruleActions _ [] => true
  | .actions _ [] => true
  | _ => false

/-- The frame is no pending action, and where it has any left, it reads this flag
or one that is set. -/
def Frame.settled (shared : Shared) (flag : Nat) (frame : Frame) : Bool :=
  !frame.pending &&
    (frame.spent || frame.ctx?.all fun ctx => ctx.exitFlag == flag || exiting shared ctx)

/-- Every busy run of the rule holds the flag that a restart raises, or was told
to exit before. -/
def Tellable (s : System) (rule : Rule) : Prop :=
  ∀ run ∈ s.runs, run.ruleId = rule.id → busy s run = true →
    run.exitFlag ∈ s.shared.exited ∨ latestFlag s rule.id = some run.exitFlag

/-- No run of the rule has handed over an action that is yet to begin, or has
actions left in a rule that it called. -/
def Settled (s : System) (rule : Rule) : Prop :=
  ∀ run ∈ s.runs, run.ruleId = rule.id →
    ∀ frame ∈ runFrames s run, frame.settled s.shared run.exitFlag = true

instance (s : System) (rule : Rule) : Decidable (Tellable s rule) :=
  inferInstanceAs (Decidable (∀ run ∈ s.runs, _))

instance (s : System) (rule : Rule) : Decidable (Settled s rule) :=
  inferInstanceAs (Decidable (∀ run ∈ s.runs, _))

/-- What a restart needs of the runs before it, when it raises a flag and when it
is admitted. -/
def Stoppable (s : System) : Input → Prop
  | .check rule => s.firing = none → rule.runMode = .restart → Tellable s rule
  | .admitRun => ∀ firing ∈ s.firing, firing.1.runMode = .restart → Settled s firing.1
  | _ => True

instance Stoppable.decidable (s : System) : (input : Input) → Decidable (Stoppable s input)
  | .check rule =>
    inferInstanceAs (Decidable (s.firing = none → rule.runMode = .restart → Tellable s rule))
  | .admitRun =>
    inferInstanceAs (Decidable (∀ firing ∈ s.firing, firing.1.runMode = .restart → Settled s firing.1))
  | .refuse => .isTrue trivial
  | .cancelOnFalse _ => .isTrue trivial
  | .takeTurn _ => .isTrue trivial
  | .poll .. => .isTrue trivial
  | .retire _ => .isTrue trivial
  | .setRules _ => .isTrue trivial
  | .purge _ => .isTrue trivial

/-! ## Quiet frames -/

/-- The frame will hand over no action. -/
def Frame.quiet (shared : Shared) (frame : Frame) : Bool :=
  !frame.pending && (frame.spent || frame.ctx?.all (exiting shared))

section Quiet
variable {shared shared' : Shared} {frame f : Frame}

theorem quiet_iff : frame.quiet shared = true ↔ frame.pending = false ∧
    (frame.spent = true ∨ ∀ ctx ∈ frame.ctx?, exiting shared ctx = true) := by
  simp [Frame.quiet, Option.all_eq_true]

theorem exiting_mono (more : shared.exited ⊆ shared'.exited) {ctx : ExecutorContext}
    (exits : exiting shared ctx = true) : exiting shared' ctx = true := by
  simp only [exiting, List.contains_iff_mem] at exits ⊢
  exact more exits

theorem quiet_mono (more : shared.exited ⊆ shared'.exited) (quiet : frame.quiet shared = true) :
    frame.quiet shared' = true := by
  obtain ⟨noAction, rest⟩ := quiet_iff.mp quiet
  exact quiet_iff.mpr ⟨noAction, rest.imp id fun exits ctx runs => exiting_mono more (exits ctx runs)⟩

/-- A raised flag makes quiet what was settled under it. -/
theorem quiet_of_settled {flag : Nat} (settled : frame.settled shared flag = true)
    (raised : flag ∈ shared.exited) : frame.quiet shared = true := by
  simp only [Frame.settled, Bool.and_eq_true, Bool.not_eq_true', Bool.or_eq_true,
    Option.all_eq_true, beq_iff_eq] at settled
  refine quiet_iff.mpr ⟨settled.1, settled.2.imp id fun reads ctx runs => ?_⟩
  rcases reads ctx runs with same | exits
  · simpa [exiting, same] using raised
  · exact exits

theorem Successor.not_spent (next : Successor shared frame f) : frame.spent = false := by
  cases next <;> rfl

/-- An action is handed over by another that is not done, or past a flag that is down. -/
theorem Successor.pending (next : Successor shared frame f) (begins : f.pending = true) :
    frame.pending = true ∨ ∃ ctx ∈ frame.ctx?, exiting shared ctx = false := by
  cases next with
  | handedAt step rest goes => exact .inr ⟨_, rfl, goes⟩
  | handedInner step rest goes => exact .inr ⟨_, rfl, goes⟩
  | branch among => exact .inl rfl
  | _ => cases begins

theorem Successor.quiet (next : Successor shared frame f) (quiet : frame.quiet shared = true) :
    f.quiet shared = true := by
  obtain ⟨noAction, rest⟩ := quiet_iff.mp quiet
  have exits := rest.resolve_left (by simp [next.not_spent])
  refine quiet_iff.mpr ⟨?_, .inr fun ctx runs => ?_⟩
  · by_contra begins
    rcases next.pending (by simpa using begins) with pending | ⟨ctx, runs, goes⟩
    · simp [noAction] at pending
    · simp [exits ctx runs] at goes
  · rcases next.ctx with nowhere | same | ⟨caller, ruleId, rfl, _⟩
    · simp [nowhere] at runs
    · exact exits ctx (same ▸ runs)
    · cases noAction

end Quiet

/-! ## Runs -/

/-- The run hands over no action any more, now or when its turn comes. -/
def Quiet (s : System) (run : RuleRun) : Prop :=
  (run.main = none → run.exitFlag ∈ s.shared.exited) ∧
  ∀ frame ∈ runFrames s run, frame.quiet s.shared = true

structure Stopping (s : System) : Prop where
  owned : Owned s.tasks
  mains : ∀ run ∈ s.runs, ∀ main ∈ run.main, main < s.tasks.length
  /-- A restart that is being fired has told every busy run of its rule to exit. -/
  told : ∀ rule counter, s.firing = some (rule, counter) → rule.runMode = .restart →
    ∀ run ∈ s.runs, run.ruleId = rule.id → busy s run = true → run.exitFlag ∈ s.shared.exited
  quiet : ∀ i run, Superseded s i run → Quiet s run

section Steps
variable {s : System} {input : Input} {run run' : RuleRun}

theorem busy_iff : busy s run = true ↔
    run.main = none ∨ ∃ main ∈ run.main, ∃ frame, frame ∈ ownedFrames s.tasks main := by
  cases main : run.main with
  | none => simp [busy, main]
  | some m =>
    simp only [busy, runFrames, main, Option.isNone_some, Bool.false_or, Option.elim_some]
    rw [Bool.not_eq_true', List.isEmpty_eq_false_iff_exists_mem]
    simp

/-- A run that is busy was busy before. -/
theorem busy_before (stopping : Stopping s) (isRun : run ∈ s.runs)
    (continues : Continues s (step s input) run run') (isBusy : busy (step s input) run' = true) :
    busy s run = true := by
  rcases busy_iff.mp isBusy with waits | ⟨main, isMain, f, member⟩
  · rcases continues.main with same | ⟨waited, _⟩
    · exact busy_iff.mpr (.inl (same ▸ waits))
    · exact busy_iff.mpr (.inl waited)
  · rcases continues.main with same | ⟨waited, _⟩
    · rw [same] at isMain
      rcases frames_step stopping.owned input (stopping.mains run isRun main isMain) member with
        old | ⟨frame, among, _⟩
      · exact busy_iff.mpr (.inr ⟨main, isMain, f, old⟩)
      · exact busy_iff.mpr (.inr ⟨main, isMain, frame, among⟩)
    · exact busy_iff.mpr (.inl waited)

theorem Quiet.after (stopping : Stopping s) (isRun : run ∈ s.runs)
    (continues : Continues s (step s input) run run') (quiet : Quiet s run) :
    Quiet (step s input) run' := by
  have grows := (step_grows s input).2
  refine ⟨fun waits => ?_, fun f member => ?_⟩
  · rcases continues.main with same | ⟨_, began, _⟩
    · rw [continues.exitFlag]
      exact grows (quiet.1 (same ▸ waits))
    · simp [began] at waits
  · rcases continues.main with same | ⟨waited, began, spawned⟩
    · cases isMain : run.main with
      | none => simp [runFrames, same, isMain] at member
      | some main =>
        simp only [runFrames, same, isMain, Option.elim_some] at member
        have before : ∀ frame ∈ ownedFrames s.tasks main, frame.quiet s.shared = true := by
          simpa [runFrames, isMain] using quiet.2
        rcases frames_step stopping.owned input (stopping.mains run isRun main isMain) member with
          old | ⟨frame, among, next⟩
        · exact quiet_mono grows (before f old)
        · exact quiet_mono grows (next.quiet (before frame among))
    · -- the run has just got its turn, with its flag set
      simp only [runFrames, began, spawned, begin, executeActions, Option.elim_some,
        ownedFrames_add_root stopping.owned, if_true, List.mem_singleton] at member
      subst member
      refine quiet_iff.mpr ⟨rfl, .inr fun ctx runs => ?_⟩
      cases runs
      simpa [exiting] using grows (quiet.1 waited)

/-- A restart raises the flag of the latest run. -/
theorem checkMode_exits {rule : Rule} (restarts : rule.runMode = .restart) {flag : Nat}
    (latest : latestFlag s rule.id = some flag) : flag ∈ (checkMode s rule).shared.exited := by
  simp only [latestFlag, Option.bind_eq_some_iff] at latest
  obtain ⟨counter, registered, runs, found, isLatest⟩ := latest
  have entered : entry s rule.id = (s, counter) := by
    unfold entry
    rw [registered]
  simp [checkMode, entered, found, restarts, modeRefusal, restartEffects, applyEffect, isLatest,
    cancelDelaysOf_kept, exitRule]

theorem Stopping.told_step (stopping : Stopping s) (stoppable : Stoppable s input) {rule : Rule}
    {counter : Nat} (firing : (step s input).firing = some (rule, counter))
    (restarts : rule.runMode = .restart) (isRun : run' ∈ (step s input).runs)
    (ofRule : run'.ruleId = rule.id) (isBusy : busy (step s input) run' = true) :
    run'.exitFlag ∈ (step s input).shared.exited := by
  have grows := (step_grows s input).2
  obtain ⟨i, found⟩ := List.mem_iff_getElem?.mp isRun
  rcases step_firing firing with ⟨before, other⟩ | ⟨rfl, idle, _, _⟩
  · rcases step_run found with ⟨run, wasRun, continues⟩ | ⟨_, _, _, rfl, _⟩
    · have member := List.mem_of_getElem? wasRun
      rw [continues.exitFlag]
      exact grows (stopping.told rule counter before restarts run member
        (continues.ruleId.symm.trans ofRule) (busy_before stopping member continues isBusy))
    · exact absurd rfl other
  · have isCheck : step s (.check rule) = checkMode s rule := by simp [step, idle]
    rw [isCheck] at isRun isBusy grows ⊢
    rw [checkMode_runs] at isRun
    have wasBusy : busy s run' = true := by
      rwa [busy, runFrames, checkMode_tasks, ← runFrames, ← busy] at isBusy
    rcases stoppable idle restarts run' isRun ofRule wasBusy with told | latest
    · exact grows told
    · exact checkMode_exits restarts latest

/-- The runs that an admitted restart supersedes are quiet. -/
theorem Stopping.quiet_now (stopping : Stopping s) (stoppable : Stoppable s .admitRun) {rule : Rule}
    {counter : Nat} (firing : s.firing = some (rule, counter)) (restarts : rule.runMode = .restart)
    (isRun : run ∈ s.runs) (ofRule : run.ruleId = rule.id) : Quiet s run := by
  have told := stopping.told rule counter firing restarts run isRun ofRule
  refine ⟨fun waits => told (busy_iff.mpr (.inl waits)), fun frame member => ?_⟩
  have isBusy : busy s run = true := by
    simp only [busy, Bool.or_eq_true, Bool.not_eq_true', List.isEmpty_eq_false_iff_exists_mem]
    exact .inr ⟨frame, member⟩
  exact quiet_of_settled (stoppable (rule, counter) firing restarts run isRun ofRule frame member)
    (told isBusy)

theorem Stopping.quiet_step (stopping : Stopping s) (stoppable : Stoppable s input) {i : Nat}
    (superseded : Superseded (step s input) i run') : Quiet (step s input) run' := by
  obtain ⟨found, j, later', earlier, foundLater, sameRule, restarts⟩ := superseded
  obtain ⟨run, isRun, continues⟩ := step_earlier earlier found foundLater
  have member := List.mem_of_getElem? isRun
  refine Quiet.after stopping member continues ?_
  rcases step_run foundLater with ⟨later, isLater, goesOn⟩ | ⟨_, rule, counter, rfl, firing, rfl⟩
  · refine stopping.quiet i run ⟨isRun, j, later, earlier, isLater, ?_, goesOn.mode ▸ restarts⟩
    rw [← goesOn.ruleId, ← continues.ruleId, sameRule]
  · exact stopping.quiet_now stoppable firing restarts member (continues.ruleId.symm.trans sameRule.symm)

theorem Stopping.step (stopping : Stopping s) (stoppable : Stoppable s input) :
    Stopping (step s input) where
  owned := owned_step stopping.owned input
  mains := step_main stopping.mains
  told := fun _ _ firing restarts _ isRun ofRule isBusy =>
    stopping.told_step stoppable firing restarts isRun ofRule isBusy
  quiet := fun _ _ superseded => stopping.quiet_step stoppable superseded

theorem Stopping.restartsStop (stopping : Stopping s) (input : Input) : RestartsStop s input := by
  intro i run superseded starts
  cases input with
  | poll t answer =>
    obtain ⟨task, ctx, action, found, isMain, top⟩ := starts
    obtain ⟨_, below, sameTask, _, stack⟩ := onTop_iff.mp top
    cases found.symm.trans sameTask
    have member : .action ctx action ∈ runFrames s run := by
      simp only [runFrames, isMain, Option.elim_some]
      refine mem_ownedFrames.mpr ⟨task, List.mem_of_getElem? found, rfl, ?_⟩
      rw [frames_top stack]
      exact List.mem_cons_self
    have := (stopping.quiet i run superseded).2 _ member
    simp [Frame.quiet, Frame.pending] at this
  | _ => exact starts

end Steps

theorem stopping_start (rules : List Rule) : Stopping (System.start rules) where
  owned := fun _ member => absurd member List.not_mem_nil
  mains := fun _ member => absurd member List.not_mem_nil
  told := fun _ _ firing => by cases firing
  quiet := fun _ _ superseded => by cases superseded.1

/-- In a run whose restarts find the runs before them stoppable, no action begins
in a run that a restart has superseded. -/
theorem restarts_stop (rules : List Rule) (inputs : List Input)
    (stoppable : Runs.EachStep step Stoppable (System.start rules) inputs) :
    Runs.EachStep step RestartsStop (System.start rules) inputs := by
  have throughout := Runs.invariant Stopping (fun s input stopping isStoppable => stopping.step isStoppable)
    (stopping_start rules) stoppable
  exact throughout.eachStep fun s input stopping => stopping.restartsStop input

/-! ## A light that is turned off later -/

/-- Turn it off in a minute; each firing starts the minute anew. -/
def offInAMinute : Rule :=
  { Rule.minimal ⟨1⟩ .manualTrigger
      [.delay 60 true none, .setDeviceState "light" (.obj [("on", .bool false)]) false] with
    runMode := .restart }

/-- Fired again while it sleeps, the first run ends without turning anything off. -/
theorem first_run_stops :
    let inputs := [.check offInAMinute, .admitRun, .poll 0 {}, .poll 0 {}, .check offInAMinute, .admitRun,
      .poll 0 {}, .poll 0 {}, .poll 0 {}]
    endingOf (inputs.foldl step (System.start [offInAMinute])).tasks 0 = some .ok ∧
      Runs.EachStep step RestartsStop (System.start [offInAMinute]) inputs := by
  intro inputs
  exact ⟨by decide, restarts_stop [offInAMinute] inputs (by decide)⟩

/-- The same steps, as a rule of their own. -/
def theSteps : Rule :=
  Rule.minimal ⟨2⟩ .manualTrigger
    [.delay 60 true none, .setDeviceState "light" (.obj [("on", .bool false)]) false]

def offByCall : Rule :=
  { Rule.minimal ⟨3⟩ .manualTrigger [.runRuleActions ⟨2⟩] with runMode := .restart }

/-- Fired again while the called rule sleeps, the first run turns the light off. -/
theorem called_rule_goes_on :
    ¬ Runs.EachStep step RestartsStop (System.start [theSteps, offByCall])
      ([.check offByCall, .admitRun, .poll 0 {}, .poll 0 {}, .poll 0 {}, .poll 0 {},
        .check offByCall, .admitRun, .poll 0 {}, .poll 0 {}] ++ [.poll 0 {}]) := by
  intro steps
  have stops := steps.last
  generalize reached : List.foldl step (System.start [theSteps, offByCall]) _ = s at stops
  have first : s.runs[0]?.map (fun run => (run.ruleId, run.main)) = some (⟨3⟩, some 0) := by
    rw [← reached]
    decide
  have second : s.runs[1]?.map (fun run => (run.ruleId, run.mode)) = some (⟨3⟩, .restart) := by
    rw [← reached]
    decide
  have owner : s.tasks[0]?.map (·.owner) = some 0 := by
    rw [← reached]
    decide
  have top : (onTop s 0).any Frame.pending = true := by
    rw [← reached]
    decide
  obtain ⟨run, isRun, runIs⟩ := Option.map_eq_some_iff.mp first
  obtain ⟨later, isLater, laterIs⟩ := Option.map_eq_some_iff.mp second
  obtain ⟨task, isTask, taskIs⟩ := Option.map_eq_some_iff.mp owner
  obtain ⟨frame, onTop, pending⟩ := (Option.any_eq_true _ _).mp top
  cases frame with
  | action ctx action =>
    obtain ⟨runRule, runMain⟩ := Prod.mk.inj runIs
    obtain ⟨laterRule, laterMode⟩ := Prod.mk.inj laterIs
    refine stops 0 run ⟨isRun, 1, later, by omega, isLater, laterRule.trans runRule.symm, laterMode⟩ ?_
    exact ⟨task, ctx, action, isTask, by rw [runMain, taskIs], onTop⟩
  | _ => cases pending

end HomeCore.Engine
