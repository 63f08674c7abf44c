import HomeCore.Engine.RuleRunsProofs
import HomeCore.ForkJoin.Structure

/-! One run at a time. A run is counted from its admission until its task
returns, and that is when all of it is over: as long as no parallel step gives
up on a branch that is still running, and no reload forgets a rule in use. -/
namespace HomeCore.Engine
open ForkJoin hiding Task
open scoped List

/-- Of two runs of a rule that are executing, the later was not to be the only one. -/
def SingleAlone (s : System) : Prop :=
  ∀ (i j : Nat) (run later : RuleRun), i < j → s.runs[i]? = some run → s.runs[j]? = some later →
    later.ruleId = run.ruleId → later.mode = .single →
    ¬ (executing s run = true ∧ executing s later = true)

/-- The run waits for its turn, or its task has not returned. -/
def unfinished (s : System) (run : RuleRun) : Bool :=
  run.main.all fun main => (endingOf s.tasks main).isNone

/-- No parallel step fails while a branch that it awaits is running, and no
reload drops a rule that has an unfinished run or is being fired. -/
def Undisturbed (s : System) : Input → Prop
  | .poll i _ => orderly s.tasks i = true
  | .purge liveRules =>
    (∀ run ∈ s.runs, unfinished s run = true → liveRules.any (·.id = run.ruleId) = true) ∧
      ∀ firing ∈ s.firing, liveRules.any (·.id = firing.1.id) = true
  | _ => True

instance Undisturbed.decidable (s : System) : (input : Input) → Decidable (Undisturbed s input)
  | .poll i _ => inferInstanceAs (Decidable (orderly s.tasks i = true))
  | .purge liveRules => inferInstanceAs (Decidable
    ((∀ run ∈ s.runs, unfinished s run = true → liveRules.any (·.id = run.ruleId) = true) ∧
      ∀ firing ∈ s.firing, liveRules.any (·.id = firing.1.id) = true))
  | .check _ => .isTrue trivial
  | .admitRun => .isTrue trivial
  | .refuse => .isTrue trivial
  | .cancelOnFalse _ => .isTrue trivial
  | .takeTurn _ => .isTrue trivial
  | .retire _ => .isTrue trivial
  | .setRules _ => .isTrue trivial

/-- The runs that are counted in a `RuleRuns`. -/
def countedIn (runs : List RuleRun) (counter : Nat) : Nat :=
  runs.countP fun run => run.counter == counter && !run.retired

/-- No count is below the number of runs that are counted in it. -/
def CountsRuns (s : System) : Prop :=
  ∀ counter runs, s.counters[counter]? = some runs → countedIn s.runs counter ≤ runs.count

/-- The map leads to a `RuleRuns` that was made. -/
def CountersMade (s : System) : Prop :=
  ∀ ruleId counter, s.ruleInFlight ruleId = some counter → counter < s.counters.length

/-- A run that is not over is counted, and where its rule finds it. -/
structure Counted (s : System) : Prop where
  structured : Structured s.tasks
  made : CountersMade s
  counters : ∀ run ∈ s.runs, run.counter < s.counters.length
  counted : CountsRuns s
  retired : ∀ run ∈ s.runs, run.retired = true → unfinished s run = false
  registered : ∀ run ∈ s.runs, unfinished s run = true →
    s.ruleInFlight run.ruleId = some run.counter
  firing : ∀ rule counter, s.firing = some (rule, counter) → s.ruleInFlight rule.id = some counter
  /-- While a single rule is being fired, it has no runs. -/
  free : ∀ rule counter, s.firing = some (rule, counter) → rule.runMode = .single →
    ∀ runs, s.counters[counter]? = some runs → runs.count = 0
  /-- Of the runs before a single one none goes on. -/
  alone : ∀ (i j : Nat) (run later : RuleRun), i < j → s.runs[i]? = some run →
    s.runs[j]? = some later → later.ruleId = run.ruleId → later.mode = .single →
    unfinished s run = false

section Steps
variable {s : System} {input : Input} {run run' : RuleRun}

theorem endingOf_step {k : Nat} {ending : Ending} (isOver : endingOf s.tasks k = some ending) :
    endingOf (step s input).tasks k = some ending := by
  rcases step_tasks s input with same | ⟨i, answer, shared, _, polled⟩ | ⟨run, spawned⟩
  · rwa [same]
  · exact poll_ended polled isOver
  · rw [spawned, begin]
    exact endingOf_append isOver

theorem finished_step (continues : Continues s (step s input) run run')
    (finished : unfinished s run = false) : unfinished (step s input) run' = false := by
  cases isMain : run.main with
  | none => simp [unfinished, isMain] at finished
  | some main =>
    have same : run'.main = some main := by
      rcases continues.main with same | ⟨waited, _⟩
      · rw [same, isMain]
      · rw [isMain] at waited
        cases waited
    simp only [unfinished, isMain, same, Option.all_some, Option.isNone_eq_false_iff] at finished ⊢
    obtain ⟨ending, isOver⟩ := Option.isSome_iff_exists.mp finished
    rw [endingOf_step isOver]
    rfl

/-- A run that executes is unfinished: its branches are over before its task is. -/
theorem unfinished_of_executing (structured : Structured s.tasks) (executes : executing s run = true) :
    unfinished s run = true := by
  simp only [executing, Option.any_eq_true, List.any_eq_true, Bool.and_eq_true, beq_iff_eq,
    Option.isNone_iff_eq_none] at executes
  obtain ⟨main, isMain, task, member, owned, is_running⟩ := executes
  obtain ⟨k, found⟩ := List.mem_iff_getElem?.mp member
  have root := (structured.root_running found is_running).1
  rw [owned] at root
  simp only [unfinished, Option.mem_def.mp isMain, Option.all_some, root, Option.isNone_none]

theorem Counted.singleAlone (counted : Counted s) : SingleAlone s := by
  rintro i j run later earlier isRun isLater sameRule single ⟨executes, _⟩
  have finished := counted.alone i j run later earlier isRun isLater sameRule single
  rw [unfinished_of_executing counted.structured executes] at finished
  cases finished

theorem structured_step (structured : Structured s.tasks) (undisturbed : Undisturbed s input) :
    Structured (step s input).tasks := by
  rcases step_tasks s input with same | ⟨i, answer, shared, rfl, polled⟩ | ⟨run, spawned⟩
  · rwa [same]
  · exact structured.after_poll undisturbed polled
  · rw [spawned]
    exact structured.add_root _

/-! ## The map of runs -/

theorem entry_registered (s : System) (ruleId : Uuid) :
    (entry s ruleId).1.ruleInFlight ruleId = some (entry s ruleId).2 := by
  unfold entry
  split
  · assumption
  · exact Function.update_self ..

theorem entry_keeps {ruleId id : Uuid} {counter : Nat} (registered : s.ruleInFlight id = some counter) :
    (entry s ruleId).1.ruleInFlight id = some counter := by
  unfold entry
  split
  · exact registered
  · rename_i absent
    have other : id ≠ ruleId := by
      rintro rfl
      rw [absent] at registered
      cases registered
    exact (Function.update_of_ne other ..).trans registered

theorem checkMode_inFlight (s : System) (rule : Rule) :
    (checkMode s rule).ruleInFlight = (entry s rule.id).1.ruleInFlight := by
  unfold checkMode
  simp only
  split <;> rfl

theorem checkMode_counters (s : System) (rule : Rule) :
    (checkMode s rule).counters = (entry s rule.id).1.counters := by
  unfold checkMode
  simp only
  split <;> rfl

/-- Only a purge takes a rule out of the map. -/
theorem step_keeps {id : Uuid} {counter : Nat} (registered : s.ruleInFlight id = some counter)
    (live : ∀ liveRules, input = .purge liveRules → liveRules.any (·.id = id) = true) :
    (step s input).ruleInFlight id = some counter := by
  have moves := step_moves s input
  generalize step s input = s' at moves ⊢
  cases moves with
  | same _ _ inFlight => rwa [inFlight]
  | check rule =>
    rw [checkMode_inFlight]
    exact entry_keeps registered
  | purge liveRules => simpa only [purge, live liveRules rfl, if_true] using registered
  | admitRun | takeTurn | drop | retire => exact registered

theorem countersMade_entry (made : CountersMade s) (ruleId : Uuid) : CountersMade (entry s ruleId).1 := by
  intro id counter found
  unfold entry at found ⊢
  split at found
  · exact made id counter found
  · simp only [List.length_append, List.length_singleton] at found ⊢
    by_cases same : id = ruleId
    · subst same
      rw [Function.update_self] at found
      cases found
      exact Nat.lt_succ_self _
    · rw [Function.update_of_ne same] at found
      exact (made id counter found).trans (Nat.lt_succ_self _)

/-! ## The counts -/

theorem countedIn_none {runs : List RuleRun} {counter : Nat} (below : ∀ run ∈ runs, run.counter < counter) :
    countedIn runs counter = 0 := by
  refine List.countP_eq_zero.mpr fun run member => ?_
  have := below run member
  simp only [Bool.and_eq_true, beq_iff_eq, not_and]
  omega

theorem countsRuns_entry (counts : CountsRuns s) (counters : ∀ run ∈ s.runs, run.counter < s.counters.length)
    (ruleId : Uuid) : CountsRuns (entry s ruleId).1 := by
  unfold entry
  split
  · exact counts
  · intro counter runs found
    simp only [List.getElem?_append] at found
    split at found
    · exact counts counter runs found
    · rename_i new
      rw [countedIn_none fun run member => (counters run member).trans_le (by omega)]
      exact Nat.zero_le _

theorem lookup_modify {counters : List RuleRuns} {k counter : Nat} {f : RuleRuns → RuleRuns}
    {runs' : RuleRuns} (found : (counters.modify k f)[counter]? = some runs') :
    ∃ runs, counters[counter]? = some runs ∧ runs' = if k = counter then f runs else runs := by
  simp only [List.getElem?_modify, Option.map_eq_map, Option.map_eq_some_iff] at found
  obtain ⟨runs, isThere, rfl⟩ := found
  exact ⟨runs, isThere, rfl⟩

theorem release_count (runs : RuleRuns) (i : Nat) : (runs.release i).count = runs.count := by
  unfold RuleRuns.release
  split <;> rfl

theorem countsRuns_admitRun (counts : CountsRuns s) (rule : Rule) (counter : Nat) :
    CountsRuns (admitRun s rule counter) := by
  intro c runs found
  obtain ⟨before, isThere, rfl⟩ := lookup_modify found
  have bound := counts c before isThere
  simp only [admitRun, countedIn, List.countP_append, List.countP_singleton, newRun] at bound ⊢
  by_cases same : counter = c
  · simp only [same, beq_self_eq_true, Bool.not_false, Bool.and_self, if_true]
    omega
  · simpa [same] using bound

theorem countedIn_set {runs : List RuleRun} {i : Nat} (found : runs[i]? = some run)
    (sameCounter : run'.counter = run.counter) (sameRetired : run'.retired = run.retired) (counter : Nat) :
    countedIn (runs.set i run') counter = countedIn runs counter := by
  obtain ⟨bound, isRun⟩ := List.getElem?_eq_some_iff.mp found
  rw [countedIn, countedIn, List.countP_set bound, isRun, sameCounter, sameRetired]
  split
  · rename_i isCounted
    have one : 0 < countedIn runs counter :=
      List.countP_pos_iff.mpr ⟨run, List.mem_of_getElem? found, isCounted⟩
    rw [countedIn] at one
    omega
  · rfl

/-- A run that retires is counted in one place, and no more in it. -/
theorem countedIn_retire {runs : List RuleRun} {i : Nat} (found : runs[i]? = some run)
    (isCounted : run.retired = false) (counter : Nat) :
    countedIn (runs.set i { run with retired := true }) counter =
      countedIn runs counter - if run.counter = counter then 1 else 0 := by
  obtain ⟨bound, isRun⟩ := List.getElem?_eq_some_iff.mp found
  rw [countedIn, countedIn, List.countP_set bound, isRun]
  simp [isCounted]

theorem countsRuns_step (counts : CountsRuns s) (counters : ∀ run ∈ s.runs, run.counter < s.counters.length)
    (input : Input) : CountsRuns (step s input) := by
  have moves := step_moves s input
  generalize step s input = s' at moves ⊢
  cases moves with
  | same sameRuns sameCounters =>
    intro counter runs found
    rw [sameRuns]
    exact counts counter runs (sameCounters ▸ found)
  | check rule =>
    intro counter runs found
    rw [checkMode_counters] at found
    rw [checkMode_runs, ← entry_runs s rule.id]
    exact countsRuns_entry counts counters rule.id counter runs found
  | admitRun firing => exact countsRuns_admitRun counts _ _
  | @takeTurn i run isRun waits =>
    intro counter runs found
    obtain ⟨before, isThere, rfl⟩ := lookup_modify found
    rw [countedIn_set isRun (by rfl) (by rfl)]
    have bound := counts counter before isThere
    split <;> exact bound
  | drop i counter =>
    intro c runs found
    obtain ⟨before, isThere, rfl⟩ := lookup_modify found
    have bound := counts c before isThere
    split
    · rwa [release_count]
    · exact bound
  | @retire i run isRun counted returned =>
    intro counter runs found
    obtain ⟨before, isThere, rfl⟩ := lookup_modify found
    have bound := counts counter before isThere
    rw [countedIn_retire isRun counted]
    by_cases same : run.counter = counter
    · simp only [if_pos same]
      omega
    · simpa only [if_neg same, Nat.sub_zero] using bound
  | purge => exact counts

/-- Only an admission adds to a count. -/
theorem step_count_le (other : input ≠ .admitRun) {counter : Nat} {runs' : RuleRuns}
    (old : counter < s.counters.length) (found : (step s input).counters[counter]? = some runs') :
    ∃ runs, s.counters[counter]? = some runs ∧ runs'.count ≤ runs.count := by
  have moves := step_moves s input
  generalize step s input = s' at moves found
  cases moves with
  | same _ counters => exact ⟨runs', counters ▸ found, le_refl _⟩
  | check rule =>
    rw [checkMode_counters, entry] at found
    split at found
    · exact ⟨runs', found, le_refl _⟩
    · rw [List.getElem?_append_left old] at found
      exact ⟨runs', found, le_refl _⟩
  | admitRun => exact absurd rfl other
  | takeTurn =>
    obtain ⟨runs, isThere, rfl⟩ := lookup_modify found
    exact ⟨runs, isThere, by split <;> exact le_refl _⟩
  | drop =>
    obtain ⟨runs, isThere, rfl⟩ := lookup_modify found
    exact ⟨runs, isThere, by split <;> simp [release_count]⟩
  | retire =>
    obtain ⟨runs, isThere, rfl⟩ := lookup_modify found
    exact ⟨runs, isThere, by split <;> simp⟩
  | purge => exact ⟨runs', found, le_refl _⟩

theorem length_counters (s : System) (input : Input) :
    s.counters.length ≤ (step s input).counters.length := by
  have moves := step_moves s input
  generalize step s input = s' at moves ⊢
  cases moves with
  | same _ counters => rw [counters]
  | check rule =>
    rw [checkMode_counters, entry]
    split <;> simp
  | admitRun | takeTurn | drop | retire => simp [admitRun]
  | purge => exact le_refl _

/-! ## The invariant -/

theorem countersMade_step (made : CountersMade s) (input : Input) : CountersMade (step s input) := by
  intro id counter found
  have moves := step_moves s input
  generalize step s input = s' at moves found ⊢
  cases moves with
  | same _ counters inFlight =>
    rw [counters]
    exact made id counter (inFlight ▸ found)
  | check rule =>
    rw [checkMode_inFlight] at found
    rw [checkMode_counters]
    exact countersMade_entry made rule.id id counter found
  | admitRun | takeTurn | drop | retire =>
    simpa only [admitRun, List.length_modify] using made id counter found
  | purge liveRules =>
    simp only [purge] at found
    split at found
    · exact made id counter found
    · cases found

/-- A run retires once its task has returned. -/
theorem retired_step (retired : ∀ run ∈ s.runs, run.retired = true → unfinished s run = false)
    (input : Input) : ∀ run ∈ (step s input).runs, run.retired = true →
      unfinished (step s input) run = false := by
  intro run' member isRetired
  obtain ⟨i, found⟩ := List.mem_iff_getElem?.mp member
  rcases step_run found with ⟨run, isRun, continues⟩ | ⟨_, rule, counter, _, _, rfl⟩
  · refine finished_step continues ?_
    rcases continues.retired with same | returned
    · exact retired run (List.mem_of_getElem? isRun) (same ▸ isRetired)
    · obtain ⟨ending, isOver⟩ := Option.isSome_iff_exists.mp returned
      obtain ⟨main, isMain, ended⟩ := Option.bind_eq_some_iff.mp isOver
      simp [unfinished, isMain, ended]
  · cases isRetired

theorem Counted.registered_step (counted : Counted s) (undisturbed : Undisturbed s input)
    (member : run' ∈ (step s input).runs) (goesOn : unfinished (step s input) run' = true) :
    (step s input).ruleInFlight run'.ruleId = some run'.counter := by
  obtain ⟨i, found⟩ := List.mem_iff_getElem?.mp member
  rcases step_run found with ⟨run, isRun, continues⟩ | ⟨_, rule, counter, rfl, firing, rfl⟩
  · have among := List.mem_of_getElem? isRun
    have wentOn : unfinished s run = true := by
      by_contra finished
      rw [finished_step continues (by simpa using finished)] at goesOn
      cases goesOn
    rw [continues.ruleId, continues.counter]
    refine step_keeps (counted.registered run among wentOn) ?_
    rintro liveRules rfl
    exact undisturbed.1 run among wentOn
  · exact step_keeps (counted.firing rule counter firing) (by simp)

theorem Counted.firing_step (counted : Counted s) (undisturbed : Undisturbed s input) {rule : Rule}
    {counter : Nat} (firing : (step s input).firing = some (rule, counter)) :
    (step s input).ruleInFlight rule.id = some counter := by
  rcases step_firing firing with ⟨before, _⟩ | ⟨rfl, idle, rfl, _⟩
  · refine step_keeps (counted.firing rule counter before) ?_
    rintro liveRules rfl
    exact undisturbed.2 (rule, counter) before
  · simp only [step, idle, Option.isSome_none, Bool.false_eq_true, if_false, checkMode_inFlight]
    exact entry_registered s rule.id

theorem modeRefusal_single {count : Nat} (passes : modeRefusal .single count = none) : count = 0 := by
  by_contra some_run
  simp [modeRefusal, Nat.pos_of_ne_zero some_run] at passes

/-- A single rule is fired when it has no runs, and nothing is admitted meanwhile. -/
theorem Counted.free_step (counted : Counted s) {rule : Rule} {counter : Nat}
    (firing : (step s input).firing = some (rule, counter)) (single : rule.runMode = .single)
    {runs : RuleRuns} (found : (step s input).counters[counter]? = some runs) : runs.count = 0 := by
  rcases step_firing firing with ⟨before, other⟩ | ⟨rfl, idle, _, passes⟩
  · have old := counted.made _ _ (counted.firing rule counter before)
    obtain ⟨runsBefore, wasThere, fewer⟩ := step_count_le other old found
    have none := counted.free rule counter before single runsBefore wasThere
    omega
  · simp only [step, idle, Option.isSome_none, Bool.false_eq_true, if_false, checkMode_counters] at found
    rw [single, found, Option.getD_some] at passes
    exact modeRefusal_single passes

theorem Counted.count_pos (counted : Counted s) (member : run ∈ s.runs) (goesOn : unfinished s run = true) :
    ∃ runs, s.counters[run.counter]? = some runs ∧ 0 < runs.count := by
  have isThere := List.getElem?_eq_getElem (counted.counters run member)
  refine ⟨_, isThere, ?_⟩
  have isCounted : run.retired = false := by
    by_contra isRetired
    rw [counted.retired run member (by simpa using isRetired)] at goesOn
    cases goesOn
  have one : 0 < countedIn s.runs run.counter :=
    List.countP_pos_iff.mpr ⟨run, member, by simp [isCounted]⟩
  exact one.trans_le (counted.counted run.counter _ isThere)

theorem Counted.alone_step (counted : Counted s) {i j : Nat} {later' : RuleRun} (earlier : i < j)
    (found : (step s input).runs[i]? = some run') (foundLater : (step s input).runs[j]? = some later')
    (sameRule : later'.ruleId = run'.ruleId) (single : later'.mode = .single) :
    unfinished (step s input) run' = false := by
  obtain ⟨run, isRun, continues⟩ := step_earlier earlier found foundLater
  refine finished_step continues ?_
  rcases step_run foundLater with ⟨later, isLater, goesOn⟩ | ⟨_, rule, counter, rfl, firing, rfl⟩
  · refine counted.alone i j run later earlier isRun isLater ?_ (goesOn.mode ▸ single)
    rw [← goesOn.ruleId, ← continues.ruleId, sameRule]
  · -- the run would be counted in the `RuleRuns` that the mode check found empty
    by_contra wentOn
    simp only [Bool.not_eq_false] at wentOn
    have member := List.mem_of_getElem? isRun
    have registered := counted.registered run member wentOn
    rw [← continues.ruleId, ← sameRule, newRun, counted.firing rule counter firing] at registered
    have inUse : counter = run.counter := Option.some.inj registered
    obtain ⟨runs, isThere, counts⟩ := counted.count_pos member wentOn
    have none := counted.free rule counter firing single runs (inUse ▸ isThere)
    omega

theorem Counted.counters_step (counted : Counted s) (input : Input) :
    ∀ run ∈ (step s input).runs, run.counter < (step s input).counters.length := by
  intro run' member
  refine lt_of_lt_of_le ?_ (length_counters s input)
  obtain ⟨i, found⟩ := List.mem_iff_getElem?.mp member
  rcases step_run found with ⟨run, isRun, continues⟩ | ⟨_, rule, counter, _, firing, rfl⟩
  · rw [continues.counter]
    exact counted.counters run (List.mem_of_getElem? isRun)
  · exact counted.made _ _ (counted.firing rule counter firing)

theorem Counted.step (counted : Counted s) (undisturbed : Undisturbed s input) :
    Counted (step s input) where
  structured := structured_step counted.structured undisturbed
  made := countersMade_step counted.made input
  counters := counted.counters_step input
  counted := countsRuns_step counted.counted counted.counters input
  retired := retired_step counted.retired input
  registered := fun _ member goesOn => counted.registered_step undisturbed member goesOn
  firing := fun _ _ firing => counted.firing_step undisturbed firing
  free := fun _ _ firing single _ found => counted.free_step firing single found
  alone := fun _ _ _ _ earlier found foundLater sameRule single =>
    counted.alone_step earlier found foundLater sameRule single

end Steps

theorem counted_start (rules : List Rule) : Counted (System.start rules) where
  structured := fun _ _ found => by cases found
  made := fun _ _ found => by cases found
  counters := fun _ member => absurd member List.not_mem_nil
  counted := fun _ _ found => by cases found
  retired := fun _ member => absurd member List.not_mem_nil
  registered := fun _ member => absurd member List.not_mem_nil
  firing := fun _ _ firing => by cases firing
  free := fun _ _ firing => by cases firing
  alone := fun _ _ _ _ _ found => by cases found

/-- In a run in which no parallel step gives up on a running branch and no reload
drops a rule in use, a single rule never has two runs executing. -/
theorem single_alone (rules : List Rule) (inputs : List Input)
    (undisturbed : Runs.EachStep step Undisturbed (System.start rules) inputs) :
    Runs.Always step SingleAlone (System.start rules) inputs := by
  have throughout := Runs.invariant Counted (fun s input counted isUndisturbed => counted.step isUndisturbed)
    (counted_start rules) undisturbed
  exact throughout.mono fun s counted => counted.singleAlone

/-! ## Two things at once -/

/-- Call a script and let a minute pass, in parallel. -/
def scriptAndMinute : Rule :=
  { Rule.minimal ⟨1⟩ .manualTrigger
      [.parallel [.runScript "announce()", .delay 60 true none]] with
    runMode := .single }

/-- Fired in between it is refused; when both branches are over it runs again. -/
theorem runs_one_after_another :
    let inputs := [.check scriptAndMinute, .admitRun, .poll 0 {}, .poll 0 {}, .check scriptAndMinute, .admitRun,
      .poll 1 {}, .poll 1 {}, .poll 2 {}, .purge [scriptAndMinute], .poll 0 {}, .poll 2 {}, .poll 2 {},
      .poll 0 {}, .poll 0 {}, .poll 0 {}, .poll 0 {}, .retire 0, .check scriptAndMinute, .admitRun]
    (inputs.foldl step (System.start [scriptAndMinute])).runs.length = 2 ∧
      Runs.Always step SingleAlone (System.start [scriptAndMinute]) inputs := by
  intro inputs
  exact ⟨by decide, single_alone [scriptAndMinute] inputs (by decide)⟩

/-- When the script fails the run returns, while its other branch sleeps on. -/
theorem branch_outlives_run :
    ¬ Runs.Always step SingleAlone (System.start [scriptAndMinute])
      [.check scriptAndMinute, .admitRun, .poll 0 {}, .poll 0 {}, .poll 1 ⟨.failed, false, [], ⟨0⟩⟩,
        .poll 2 {}, .poll 0 {}, .retire 0, .check scriptAndMinute, .admitRun] := by
  intro always
  have alone := always.last
  generalize reached : List.foldl step (System.start [scriptAndMinute]) _ = s at alone
  have first : s.runs[0]?.map (fun run => (run.ruleId, executing s run)) = some (⟨1⟩, true) := by
    rw [← reached]
    decide
  have second : s.runs[1]?.map (fun run => (run.ruleId, run.mode, executing s run)) =
      some (⟨1⟩, .single, true) := by
    rw [← reached]
    decide
  obtain ⟨run, isRun, runIs⟩ := Option.map_eq_some_iff.mp first
  obtain ⟨later, isLater, laterIs⟩ := Option.map_eq_some_iff.mp second
  simp only [Prod.mk.injEq] at runIs laterIs
  exact alone 0 1 run later (by omega) isRun isLater (laterIs.1.trans runIs.1.symm) laterIs.2.1
    ⟨runIs.2, laterIs.2.2⟩

end HomeCore.Engine
