import HomeCore.Engine.DelayProofs
import HomeCore.Engine.Dispatch
import HomeCore.Engine.FireProofs
import HomeCore.Engine.RestartProofs
import HomeCore.Engine.SingleProofs

/-! Firings whose conditions do not pass. A rule in restart mode has by then stopped its run in
flight and cut its delays short; in any other mode its runs do not notice. -/
namespace HomeCore.Engine
open ForkJoin hiding Task

/-- What the map has of a rule; a rule without runs starts from nothing. -/
def ruleRunsOf (s : System) (ruleId : Uuid) : RuleRuns :=
  ((s.ruleInFlight ruleId).bind (s.counters[·]?)).getD {}

/-- The runs of a rule go on from `s` to `s'` as if nothing had happened. -/
structure LeftAlone (rule : Rule) (s s' : System) : Prop where
  tasks : s'.tasks = s.tasks
  runs : s'.runs = s.runs
  flags : ∀ run ∈ s.runs, run.ruleId = rule.id → executing s run = true →
    (run.exitFlag ∈ s'.shared.exited ↔ run.exitFlag ∈ s.shared.exited)
  delays : ∀ key, keyOfRule rule.id key = true →
    s'.shared.delayRegistry[key]? = s.shared.delayRegistry[key]?
  notified : s'.shared.notified = s.shared.notified
  ruleRuns : ruleRunsOf s' rule.id = ruleRunsOf s rule.id

/-- There is nothing for a restart of the rule to stop: its latest run is over or was told to stop,
and none of its delays is registered. -/
def NothingToStop (s : System) (ruleId : Uuid) : Prop :=
  (∀ run ∈ s.runs, run.ruleId = ruleId → executing s run = true →
    latestFlag s ruleId = some run.exitFlag → run.exitFlag ∈ s.shared.exited) ∧
  ∀ key, keyOfRule ruleId key = true → s.shared.delayRegistry[key]? = none

/-! ## The verdict -/

section Verdict
variable (texts : Texts) (world : World) (rule : Rule) (tctx : TriggerContext) (run : Run)

/-- The conditions are judged false, or cannot be judged. -/
def ConditionsFail : Prop :=
  ∀ traces, judgedConditions texts world rule tctx run = .ok traces →
    conditionsPassed rule run traces = false

/-- The times of the last firings, after what a firing does to them. -/
def cooldownsAfter (before : Uuid → Option DateTime) : List FireEffect → Uuid → Option DateTime
  | [] => before
  | .startCooldown ruleId since :: rest =>
    cooldownsAfter (Function.update before ruleId (some since)) rest
  | _ :: rest => cooldownsAfter before rest

variable {texts world rule tctx run}

theorem verdict_refuse (fails : ConditionsFail texts world rule tctx run) :
    verdict texts world rule tctx run = .refuse := by
  rw [verdict]
  split
  · next traces judged => rw [fails traces judged, if_neg Bool.false_ne_true]
  · rfl

theorem cooldownsAfter_restart (before : Uuid → Option DateTime) :
    cooldownsAfter before (restartEffects rule) = before := by
  rw [restartEffects]
  split <;> rfl

/-- A firing that does not pass its conditions starts no cooldown, wherever it ends. -/
theorem fire_cooldowns (fails : ConditionsFail texts world rule tctx run)
    (before : Uuid → Option DateTime) :
    cooldownsAfter before (fire texts world rule tctx run).effects = before := by
  have judged : cooldownsAfter before (fireJudged texts world rule tctx run).effects = before := by
    rw [fireJudged]
    split
    · exact cooldownsAfter_restart before
    · next traces judged =>
      rw [fails traces judged, if_neg Bool.false_ne_true]
      exact cooldownsAfter_restart before
  rw [fire]
  split
  · rfl
  split
  · rfl
  split
  · rfl
  · dsimp only [refused]
    split <;> rfl
  split
  · rfl
  · rfl
  split
  · rfl
  · exact judged

end Verdict

/-! ## The mode check -/

section Check
variable {s : System} {rule : Rule}

theorem ruleRunsOf_entry (s : System) (ruleId : Uuid) :
    ruleRunsOf (entry s ruleId).1 ruleId = ruleRunsOf s ruleId := by
  rw [entry]
  cases registered : s.ruleInFlight ruleId with
  | some counter => rfl
  | none => simp [ruleRunsOf, registered]

theorem entry_runs_eq (s : System) (ruleId : Uuid) :
    (entry s ruleId).1.counters[(entry s ruleId).2]?.getD {} = ruleRunsOf s ruleId := by
  rw [← ruleRunsOf_entry, ruleRunsOf, entry_registered, Option.bind_some]

theorem latest_ruleRunsOf (s : System) (ruleId : Uuid) :
    (ruleRunsOf s ruleId).latest = latestFlag s ruleId := by
  rw [ruleRunsOf, latestFlag]
  cases s.ruleInFlight ruleId with
  | none => rfl
  | some counter =>
    rw [Option.bind_some, Option.bind_some]
    cases s.counters[counter]? <;> rfl

theorem ruleRunsOf_checkMode (s : System) (rule : Rule) :
    ruleRunsOf (checkMode s rule) rule.id = ruleRunsOf s rule.id := by
  rw [ruleRunsOf, checkMode_inFlight, checkMode_counters, ← ruleRunsOf, ruleRunsOf_entry]

/-- What the latest run of a restarted rule is told before the delays are cut short. -/
def toldToStop (s : System) (ruleId : Uuid) : Shared :=
  (latestFlag s ruleId).elim s.shared (exitRule s.shared)

theorem checkMode_shared (s : System) (rule : Rule) :
    (checkMode s rule).shared =
      if rule.runMode = .restart then cancelDelaysOf (toldToStop s rule.id) rule.id else s.shared := by
  rw [checkMode]
  dsimp only
  rw [entry_runs_eq]
  split
  · next refused =>
    have other : rule.runMode ≠ .restart := by
      intro restarts
      simp [restarts, modeRefusal] at refused
    rw [if_neg other, entry_shared]
  · dsimp only
    rw [restartEffects, entry_shared]
    split
    · simp only [List.foldl_cons, List.foldl_nil, applyEffect, latest_ruleRunsOf, toldToStop]
    · rfl

theorem toldToStop_registry (s : System) (ruleId : Uuid) :
    (toldToStop s ruleId).delayRegistry = s.shared.delayRegistry ∧
      (toldToStop s ruleId).notified = s.shared.notified := by
  rw [toldToStop]
  cases latestFlag s ruleId <;> exact ⟨rfl, rfl⟩

theorem mem_toldToStop {ruleId : Uuid} {flag : Nat} :
    flag ∈ (toldToStop s ruleId).exited ↔
      latestFlag s ruleId = some flag ∨ flag ∈ s.shared.exited := by
  rw [toldToStop]
  cases latestFlag s ruleId with
  | none => simp
  | some latest => simp [exitRule, eq_comm]

/-- Cancelling the delays of a rule without any does nothing. -/
theorem cancelDelaysOf_none {shared : Shared} {ruleId : Uuid}
    (none : ∀ key, keyOfRule ruleId key = true → shared.delayRegistry[key]? = none) :
    cancelDelaysOf shared ruleId = shared := by
  have noKeys : shared.delayRegistry.keys.filter (keyOfRule ruleId) = [] := by
    refine List.filter_eq_nil_iff.mpr fun key member isOfRule => ?_
    have registered := Std.ExtTreeMap.isSome_getElem?_iff_mem.mpr (Std.ExtTreeMap.mem_keys.mp member)
    rw [none key isOfRule] at registered
    cases registered
  rw [cancelDelaysOf, noKeys, List.foldl_nil]

theorem foldl_cancelDelay_registry (keys : List String) (shared : Shared) (key : String) :
    (keys.foldl cancelDelay shared).delayRegistry[key]? =
      if key ∈ keys then none else shared.delayRegistry[key]? := by
  induction keys generalizing shared with
  | nil => rfl
  | cons first rest ih =>
    rw [List.foldl_cons, ih, cancelDelay_registry]
    by_cases same : key = first
    · simp [same]
    · simp [same]

/-- None of a rule's delays is registered once they are cancelled. -/
theorem cancelDelaysOf_registry (shared : Shared) {ruleId : Uuid} {key : String}
    (isOfRule : keyOfRule ruleId key = true) :
    (cancelDelaysOf shared ruleId).delayRegistry[key]? = none := by
  rw [cancelDelaysOf, foldl_cancelDelay_registry]
  split
  · rfl
  · next absent =>
    apply Std.ExtTreeMap.getElem?_eq_none
    intro member
    exact absent (List.mem_filter.mpr ⟨Std.ExtTreeMap.mem_keys.mpr member, isOfRule⟩)

/-- The mode check leaves the rule's runs alone exactly when it is no restart, or one with nothing
to stop. -/
theorem leftAlone_check_iff (s : System) (rule : Rule) :
    LeftAlone rule s (checkMode s rule) ↔ (rule.runMode = .restart → NothingToStop s rule.id) := by
  constructor
  · rintro leftAlone restarts
    have shared := checkMode_shared s rule
    rw [if_pos restarts] at shared
    constructor
    · intro run isRun ofRule executes isLatest
      refine (leftAlone.flags run isRun ofRule executes).mp ?_
      rw [shared, (cancelDelaysOf_kept _ _).2, mem_toldToStop]
      exact .inl isLatest
    · intro key isOfRule
      rw [← leftAlone.delays key isOfRule, shared]
      exact cancelDelaysOf_registry _ isOfRule
  · intro nothing
    have kept : (∀ run ∈ s.runs, run.ruleId = rule.id → executing s run = true →
        (run.exitFlag ∈ (checkMode s rule).shared.exited ↔ run.exitFlag ∈ s.shared.exited)) ∧
        (checkMode s rule).shared.delayRegistry = s.shared.delayRegistry ∧
        (checkMode s rule).shared.notified = s.shared.notified := by
      rw [checkMode_shared]
      split
      · next restarts =>
        obtain ⟨toldAlready, noDelays⟩ := nothing restarts
        obtain ⟨registry, notified⟩ := toldToStop_registry s rule.id
        rw [cancelDelaysOf_none (by rw [registry]; exact noDelays)]
        refine ⟨fun run isRun ofRule executes => ?_, registry, notified⟩
        rw [mem_toldToStop]
        exact or_iff_right_of_imp (toldAlready run isRun ofRule executes)
      · exact ⟨fun _ _ _ _ => Iff.rfl, rfl, rfl⟩
    obtain ⟨flags, registry, notified⟩ := kept
    exact ⟨checkMode_tasks s rule, checkMode_runs s rule, flags, fun key _ => by rw [registry], notified,
      ruleRunsOf_checkMode s rule⟩

theorem leftAlone_refuse (s : System) (rule : Rule) : LeftAlone rule s (step s .refuse) :=
  ⟨rfl, rfl, fun _ _ _ _ => Iff.rfl, fun _ _ => rfl, rfl, rfl⟩

end Check

/-- A firing whose conditions do not pass leaves the rule's runs alone, at its mode check and, after
whatever other tasks did meanwhile, at its verdict, and starts no cooldown, if and only if the rule
does not restart or there was nothing for a restart to stop. -/
theorem refused_firing_harmless_iff (texts : Texts) (world : World) (rule : Rule)
    (tctx : TriggerContext) (run : Run) (fails : ConditionsFail texts world rule tctx run)
    (s : System) (idle : s.firing = none) (meanwhile : List Input) :
    let checked := step s (.check rule)
    let later := meanwhile.foldl step checked
    (LeftAlone rule s checked ∧ LeftAlone rule later (step later (verdict texts world rule tctx run)) ∧
      cooldownsAfter world.cooldownMap (fire texts world rule tctx run).effects = world.cooldownMap) ↔
      (rule.runMode = .restart → NothingToStop s rule.id) := by
  intro checked later
  have isCheck : checked = checkMode s rule := by simp [checked, step, idle]
  rw [verdict_refuse fails, isCheck, leftAlone_check_iff]
  exact and_iff_left ⟨leftAlone_refuse later rule, fire_cooldowns fails world.cooldownMap⟩

/-! ## A light that is turned off later, unless it is needed -/

/-- Restarts only where its script passes. -/
def offUnlessNeeded : Rule := { offInAMinute with conditions := [.scriptExpression "unneeded()"] }

/-- The script says that the light is needed. -/
def neededWorld : World := { quietWorld with evalCondition := fun _ _ => .ok false }

def noTexts : Texts := ⟨fun _ => "", fun _ => "", fun _ => "", fun _ => "", id⟩

theorem offUnlessNeeded_fails : ConditionsFail noTexts neededWorld offUnlessNeeded {} .event := by
  have fails : ((judgedConditions noTexts neededWorld offUnlessNeeded {} .event).toOption.all fun traces =>
      !conditionsPassed offUnlessNeeded .event traces) = true := by
    decide
  intro traces judged
  rw [judged] at fails
  simpa [Except.toOption] using fails

/-- Fired once, and asleep. -/
def asleep (rule : Rule) : System :=
  [.check rule, .admitRun, .poll 0 {}, .poll 0 {}].foldl step (System.start [rule])

/-- Where runs may go side by side, the one that sleeps goes on sleeping. -/
theorem refused_parallel_goes_on :
    let rule := { offUnlessNeeded with runMode := .parallel }
    LeftAlone rule (asleep rule) (step (asleep rule) (.check rule)) ∧
      (asleep rule).runs.any (executing (asleep rule)) = true := by
  intro rule
  have fails : ConditionsFail noTexts neededWorld rule {} .event := offUnlessNeeded_fails
  have idle : (asleep rule).firing = none := by
    rw [← Option.isNone_iff_eq_none]
    decide
  have harmless := refused_firing_harmless_iff noTexts neededWorld rule {} .event fails (asleep rule)
    idle []
  exact ⟨(harmless.mpr fun restarts => by cases restarts).1, by decide⟩

/-- Its run sleeps, and the light is needed when the rule is fired again: the run is told to stop and
its delay is cut short. -/
theorem refused_restart_stops_run :
    let s := asleep offUnlessNeeded
    s.firing = none ∧ ConditionsFail noTexts neededWorld offUnlessNeeded {} .event ∧
      ¬ LeftAlone offUnlessNeeded s (step s (.check offUnlessNeeded)) := by
  intro s
  have idle : s.firing = none := by
    rw [← Option.isNone_iff_eq_none]
    decide
  refine ⟨idle, offUnlessNeeded_fails, fun leftAlone => ?_⟩
  have notified : (step s (.check offUnlessNeeded)).shared.notified ≠ s.shared.notified := by
    decide
  exact notified leftAlone.notified

end HomeCore.Engine
