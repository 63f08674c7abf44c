import HomeCore.Engine.Executor
import HomeCore.Engine.Fire

/-! The runs of rules over the life of an engine. One loop fires rules, one at a
time; between the check of a rule's mode and the start of its run its conditions
are judged, and meanwhile runs go on, end, and rules are reloaded. -/
namespace HomeCore.Engine
open ForkJoin hiding Task

/-- What is kept of a rule's runs while it is in use. -/
structure RuleRuns where
  count : Nat := 0
  /-- The exit flag of the latest run. -/
  latest : Option Nat := none
  /-- The run that holds the one permit of `queue`. -/
  turn : Option Nat := none

/-- A run that was admitted. -/
structure RuleRun where
  ruleId : Uuid
  mode : RunMode
  actions : List RuleAction
  exitFlag : Nat
  /-- The `RuleRuns` it is counted in. -/
  counter : Nat
  /-- The task that executes its actions, once it is its turn. -/
  main : Option Nat
  retired : Bool

structure System where
  shared : Shared
  tasks : Machine
  runs : List RuleRun
  /-- Every `RuleRuns` made so far; those that were dropped from the map are
  still held by their runs. -/
  counters : List RuleRuns
  ruleInFlight : Uuid → Option Nat
  /-- The rule that the loop is firing, past its mode check, with its `RuleRuns`. -/
  firing : Option (Rule × Nat)

def System.start (rules : List Rule) : System where
  shared := { made := 0, exited := [], delayRegistry := ∅, notified := [], rules := rules }
  tasks := []
  runs := []
  counters := []
  ruleInFlight := fun _ => none
  firing := none

inductive Input where
  /-- A rule has passed its gates and comes to the check of its mode. -/
  | check (rule : Rule)
  /-- The conditions of the rule being fired did not pass, or could not be judged. -/
  | refuse
  /-- They passed. -/
  | admitRun
  /-- A required expression was false, for a rule that cancels on that. -/
  | cancelOnFalse (ruleId : Uuid)
  /-- A queued run gets its turn. -/
  | takeTurn (run : Nat)
  /-- A task runs up to its next suspension. -/
  | poll (task : Nat) (answer : Answer)
  /-- The spawned task of a run returns. -/
  | retire (run : Nat)
  | setRules (rules : List Rule)
  /-- The callback after a reload. -/
  | purge (liveRules : List Rule)

/-- `entry(rule_id).or_insert_with(..)`. -/
def entry (s : System) (ruleId : Uuid) : System × Nat :=
  match s.ruleInFlight ruleId with
  | some counter => (s, counter)
  | none =>
    ({ s with
        counters := s.counters ++ [{}]
        ruleInFlight := Function.update s.ruleInFlight ruleId (some s.counters.length) },
      s.counters.length)

def applyEffect (latest : Option Nat) (shared : Shared) : FireEffect → Shared
  | .stopLatest _ => latest.elim shared (exitRule shared)
  | .cancelDelays ruleId => cancelDelaysOf shared ruleId
  | .startCooldown .. => shared
  | .spawnRun _ => shared

/-- The run mode concurrency check of `fire`. -/
def checkMode (s : System) (rule : Rule) : System :=
  let (s, counter) := entry s rule.id
  let runs := s.counters[counter]?.getD {}
  if (modeRefusal rule.runMode runs.count).isSome then s
  else
    { s with
      shared := (restartEffects rule).foldl (applyEffect runs.latest) s.shared
      firing := some (rule, counter) }

/-- The run's task is spawned. -/
def begin (s : System) (run : RuleRun) : Machine :=
  s.tasks ++ [executeActions run.ruleId run.exitFlag s.tasks.length run.actions]

def isQueued : RunMode → Bool
  | .queued _ => true
  | _ => false

/-- The run of a rule that is being fired. A queued one first waits for its turn. -/
def newRun (s : System) (rule : Rule) (counter : Nat) : RuleRun where
  ruleId := rule.id
  mode := rule.runMode
  actions := rule.actions
  exitFlag := s.shared.made
  counter := counter
  main := if isQueued rule.runMode then none else some s.tasks.length
  retired := false

/-- The end of `fire`: the run is counted and spawned. -/
def admitRun (s : System) (rule : Rule) (counter : Nat) : System :=
  { s with
    shared := { s.shared with made := s.shared.made + 1 }
    tasks := if isQueued rule.runMode then s.tasks else begin s (newRun s rule counter)
    runs := s.runs ++ [newRun s rule counter]
    counters := s.counters.modify counter fun runs =>
      { runs with count := runs.count + 1, latest := some s.shared.made }
    firing := none }

/-- The permit is free again when the run that holds it is over. -/
def RuleRuns.release (runs : RuleRuns) (run : Nat) : RuleRuns :=
  if runs.turn = some run then { runs with turn := none } else runs

def takeTurn (s : System) (i : Nat) : System :=
  match s.runs[i]? with
  | none => s
  | some run =>
    if run.main.isSome ∨ (s.counters[run.counter]?.bind RuleRuns.turn).isSome = true then s
    else
      { s with
        tasks := begin s run
        runs := s.runs.set i { run with main := some s.tasks.length }
        counters := s.counters.modify run.counter fun runs => { runs with turn := some i } }

/-- The run returned, and is counted no more; one that panicked only drops what
it holds. -/
def retire (s : System) (i : Nat) : System :=
  match s.runs[i]? with
  | none => s
  | some run =>
    match run.retired, run.main.bind (endingOf s.tasks) with
    | false, some .panicked =>
      { s with counters := s.counters.modify run.counter fun runs => runs.release i }
    | false, some _ =>
      { s with
        runs := s.runs.set i { run with retired := true }
        counters := s.counters.modify run.counter fun runs =>
          { runs.release i with count := runs.count - 1 } }
    | _, _ => s

/-- `purge_callback`, for what it does to the runs. -/
def purge (s : System) (liveRules : List Rule) : System :=
  { s with
    ruleInFlight := fun id => if liveRules.any (·.id = id) then s.ruleInFlight id else none }

def step (s : System) : Input → System
  | .check rule => if s.firing.isSome then s else checkMode s rule
  | .refuse => { s with firing := none }
  | .admitRun => match s.firing with
    | none => s
    | some (rule, counter) => admitRun s rule counter
  | .cancelOnFalse ruleId =>
    if s.firing.isSome then s else { s with shared := cancelDelaysOf s.shared ruleId }
  | .takeTurn run => takeTurn s run
  | .poll task answer => match ForkJoin.poll react s.shared s.tasks task answer with
    | none => s
    | some (shared, tasks) => { s with shared := shared, tasks := tasks }
  | .retire run => retire s run
  | .setRules rules => { s with shared := { s.shared with rules := rules } }
  | .purge liveRules => purge s liveRules

/-- The run has an unfinished task, be it a branch of a parallel step. -/
def executing (s : System) (run : RuleRun) : Bool :=
  run.main.any fun main => s.tasks.any fun task => task.owner == main && task.ending.isNone

/-- The frames of the run's tasks. -/
def runFrames (s : System) (run : RuleRun) : List Frame :=
  run.main.elim [] (ownedFrames s.tasks)

/-- The run waits for its turn, or has something left to do in one of its tasks. -/
def busy (s : System) (run : RuleRun) : Bool := run.main.isNone || !(runFrames s run).isEmpty

/-- The frame that a turn of the task is for. -/
def onTop (s : System) (task : Nat) : Option Frame :=
  match s.tasks[task]? with
  | some ⟨_, .work frame :: _, none⟩ => some frame
  | _ => none

end HomeCore.Engine
