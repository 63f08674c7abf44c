import HomeCore.Engine.SingleProofs

/-! The turns of queued runs. The task of a run asks for its turn when it is first polled, which may
be in any order, and the one permit goes to whoever asked first. -/
namespace HomeCore.Engine

structure TurnQueue where
  system : System
  /-- The runs whose tasks have asked for their turn, in the order in which they did. -/
  asked : List Nat

inductive QueueInput where
  /-- The task of a queued run is polled for the first time. -/
  | ask (run : Nat)
  | engine (input : Input)

/-- The run waits for the permit of this `RuleRuns`. -/
def waitsFor (s : System) (counter i : Nat) : Bool :=
  s.runs[i]?.any fun run => run.counter == counter && run.main.isNone

namespace TurnQueue

def start (rules : List Rule) : TurnQueue := ⟨System.start rules, []⟩

/-- Whose turn is next. -/
def next (q : TurnQueue) (counter : Nat) : Option Nat := q.asked.find? (waitsFor q.system counter)

def ask (q : TurnQueue) (i : Nat) : TurnQueue :=
  if (q.system.runs[i]?.any fun run => isQueued run.mode) && !q.asked.contains i then
    { q with asked := q.asked ++ [i] }
  else q

/-- Whether the semaphore lets the engine take the step. -/
def permits (q : TurnQueue) : Input → Bool
  | .takeTurn i => q.system.runs[i]?.any fun run => q.next run.counter == some i
  | _ => true

def step (q : TurnQueue) : QueueInput → TurnQueue
  | .ask i => q.ask i
  | .engine input => if q.permits input then { q with system := Engine.step q.system input } else q

end TurnQueue

end HomeCore.Engine

/-! Queued runs of a rule, one at a time, in the order of their admission, and no more than the rule
allows: as long as their tasks ask for their turns in that order, no run ends before its branches, and
no reload forgets a rule in use. -/
namespace HomeCore.Engine
open ForkJoin hiding Task

/-- The runs of a rule that wait or execute, of those admitted up to the `j`-th. -/
def pendingUpTo (s : System) (ruleId : Uuid) (j : Nat) : Nat :=
  (List.range (j + 1)).countP fun i =>
    s.runs[i]?.any fun run => run.ruleId == ruleId && unfinished s run

/-- What the mode `Queued` promises about the runs of a rule. -/
structure QueueKept (s : System) : Prop where
  /-- No two of them execute at the same time. -/
  alone : ∀ (i j : Nat) (run later : RuleRun), i < j → s.runs[i]? = some run →
    s.runs[j]? = some later → later.ruleId = run.ruleId → isQueued run.mode = true →
    isQueued later.mode = true → ¬ (executing s run = true ∧ executing s later = true)
  /-- One that began was not overtaken: those admitted before it are over. -/
  inOrder : ∀ (i j : Nat) (run later : RuleRun), i < j → s.runs[i]? = some run →
    s.runs[j]? = some later → later.ruleId = run.ruleId → isQueued run.mode = true →
    isQueued later.mode = true → later.main.isSome = true → unfinished s run = false
  /-- Those that waited or executed when one was admitted are within its limit, itself included. -/
  bounded : ∀ (j : Nat) (run : RuleRun) (maxQueue : Nat), s.runs[j]? = some run →
    run.mode = .queued maxQueue → unfinished s run = true → pendingUpTo s run.ruleId j ≤ maxQueue

/-- The task of a run asks for its turn after those of the queued runs of its rule that were admitted
before it. -/
def AsksInOrder (q : TurnQueue) (k : Nat) : Prop :=
  ∀ run ∈ q.system.runs[k]?, ∀ i < k, ∀ earlier ∈ q.system.runs[i]?,
    earlier.ruleId = run.ruleId → isQueued earlier.mode = true → i ∈ q.asked

def TurnQueue.Orderly (q : TurnQueue) : QueueInput → Prop
  | .ask k => AsksInOrder q k
  | .engine input => Undisturbed q.system input

instance AsksInOrder.decidable (q : TurnQueue) (k : Nat) : Decidable (AsksInOrder q k) :=
  inferInstanceAs (Decidable (∀ run ∈ q.system.runs[k]?, ∀ i < k, ∀ earlier ∈ q.system.runs[i]?,
    earlier.ruleId = run.ruleId → isQueued earlier.mode = true → i ∈ q.asked))

instance TurnQueue.Orderly.decidable (q : TurnQueue) : (input : QueueInput) → Decidable (q.Orderly input)
  | .ask k => AsksInOrder.decidable q k
  | .engine input => Undisturbed.decidable q.system input

/-! ## The permit -/

section Permit
variable {s : System} {input : Input}

def turnOf (s : System) (counter : Nat) : Option Nat := s.counters[counter]?.bind RuleRuns.turn

theorem turn_modify (counters : List RuleRuns) (k : Nat) (f : RuleRuns → RuleRuns) (counter : Nat) :
    (counters.modify k f)[counter]?.bind RuleRuns.turn =
      counters[counter]?.bind fun runs => (if k = counter then f runs else runs).turn := by
  rw [List.getElem?_modify]
  cases counters[counter]? <;> rfl

/-- A change that leaves the turn where it is, or another `RuleRuns` is changed. -/
theorem turn_modify_same {counters : List RuleRuns} {k : Nat} {f : RuleRuns → RuleRuns} {counter : Nat}
    (same : k = counter → ∀ runs ∈ counters[counter]?, (f runs).turn = runs.turn) :
    (counters.modify k f)[counter]?.bind RuleRuns.turn = counters[counter]?.bind RuleRuns.turn := by
  rw [turn_modify]
  cases isThere : counters[counter]? with
  | none => rfl
  | some runs =>
    simp only [Option.bind_some]
    split
    · next isCounter => exact same isCounter runs isThere
    · rfl

theorem turnOf_entry (s : System) (ruleId : Uuid) (counter : Nat) :
    turnOf (entry s ruleId).1 counter = turnOf s counter := by
  rw [entry]
  split
  · rfl
  · rw [turnOf, turnOf, List.getElem?_append]
    split
    · rfl
    · next beyond =>
      rw [List.getElem?_eq_none (Nat.le_of_not_lt beyond), List.getElem?_singleton]
      split <;> rfl

/-- What a step does to a permit: nothing, unless a run takes it that finds it free, or the one that
has it is over. -/
inductive Permit (s : System) (counter : Nat) : Input → System → Prop where
  | same {input : Input} {s' : System} (turn : turnOf s' counter = turnOf s counter) :
      Permit s counter input s'
  | taken {i : Nat} {run : RuleRun} {s' : System} (found : s.runs[i]? = some run)
      (waited : run.main = none) (isCounter : run.counter = counter) (free : turnOf s counter = none)
      (turn : turnOf s' counter = some i) : Permit s counter (.takeTurn i) s'
  | released {i : Nat} {run : RuleRun} {s' : System} (found : s.runs[i]? = some run)
      (isOver : (run.main.bind (endingOf s.tasks)).isSome = true) (held : turnOf s counter = some i)
      (turn : turnOf s' counter = none) : Permit s counter (.retire i) s'

theorem permit_release {i counter : Nat} {run : RuleRun} (found : s.runs[i]? = some run)
    (isOver : (run.main.bind (endingOf s.tasks)).isSome = true) {f : RuleRuns → RuleRuns}
    {s' : System} (counters : s'.counters = s.counters.modify run.counter f)
    (releases : ∀ runs, (f runs).turn = (runs.release i).turn) : Permit s counter (.retire i) s' := by
  by_cases held : run.counter = counter ∧ turnOf s counter = some i
  · refine .released found isOver held.2 ?_
    obtain ⟨runs, isThere, turn⟩ := Option.bind_eq_some_iff.mp held.2
    rw [turnOf, counters, turn_modify, isThere, Option.bind_some, if_pos held.1, releases]
    simp [RuleRuns.release, turn]
  · refine .same ?_
    rw [turnOf, counters]
    refine turn_modify_same fun isCounter runs isThere => ?_
    have other : runs.turn ≠ some i := by
      intro turn
      refine held ⟨isCounter, ?_⟩
      rw [turnOf, Option.mem_def.mp isThere]
      exact turn
    rw [releases, RuleRuns.release, if_neg other]

theorem permit_takeTurn (s : System) (i counter : Nat) :
    Permit s counter (.takeTurn i) (takeTurn s i) := by
  rw [takeTurn]
  split
  · exact .same rfl
  next run found =>
  split
  · exact .same rfl
  next free =>
  obtain ⟨waited, free⟩ := not_or.mp free
  by_cases isTaken : run.counter = counter ∧ counter < s.counters.length
  · obtain ⟨rfl, inRange⟩ := isTaken
    refine .taken found (by simpa using waited) rfl (by simpa [turnOf] using free) ?_
    rw [turnOf, turn_modify, List.getElem?_eq_getElem inRange, Option.bind_some, if_pos rfl]
  · refine .same (turn_modify_same fun isCounter runs isThere => ?_)
    have inRange := (List.getElem?_eq_some_iff.mp (Option.mem_def.mp isThere)).1
    exact absurd ⟨isCounter, inRange⟩ isTaken

theorem step_permit (s : System) (input : Input) (counter : Nat) :
    Permit s counter input (step s input) := by
  cases input with
  | check rule =>
    rw [step]
    split
    · exact .same rfl
    · refine .same ?_
      rw [turnOf, checkMode_counters]
      exact turnOf_entry s rule.id counter
  | admitRun =>
    rw [step]
    split
    · exact .same rfl
    · exact .same (turn_modify_same fun _ _ _ => rfl)
  | cancelOnFalse ruleId =>
    rw [step]
    split <;> exact .same rfl
  | takeTurn i => exact permit_takeTurn s i counter
  | poll i answer =>
    rw [step]
    split <;> exact .same rfl
  | retire i =>
    rw [step, retire]
    split
    · exact .same rfl
    next run found =>
    split
    · next isOver => exact permit_release found (by rw [isOver]; rfl) rfl fun _ => rfl
    · next isOver => exact permit_release found (by rw [isOver]; rfl) rfl fun _ => rfl
    · exact .same rfl
  | refuse | setRules | purge => exact .same rfl

theorem takeTurn_begins {i k : Nat} {run run' : RuleRun} (found : s.runs[i]? = some run)
    (waited : run.main = none) (found' : (takeTurn s k).runs[i]? = some run')
    (began : run'.main.isSome = true) : k = i ∧ turnOf s run.counter = none := by
  have unbegun : ¬ (takeTurn s k).runs[i]? = some run := by
    intro same
    rw [same, Option.some_inj] at found'
    rw [← found', waited] at began
    cases began
  rw [takeTurn] at unbegun
  split at unbegun
  · exact absurd found unbegun
  next taking isTaking =>
  split at unbegun
  · exact absurd found unbegun
  next free =>
  by_cases same : k = i
  · subst same
    rw [isTaking, Option.some_inj] at found
    subst found
    exact ⟨rfl, by simpa [turnOf] using (not_or.mp free).2⟩
  · rw [List.getElem?_set_ne same] at unbegun
    exact absurd found unbegun

/-- A queued run begins by taking the permit, which it finds free. -/
theorem begins_by_turn {i : Nat} {run run' : RuleRun} (found : s.runs[i]? = some run)
    (waited : run.main = none) (found' : (step s input).runs[i]? = some run')
    (began : run'.main.isSome = true) : input = .takeTurn i ∧ turnOf s run.counter = none := by
  by_cases isTake : ∃ k, input = .takeTurn k
  · obtain ⟨k, rfl⟩ := isTake
    obtain ⟨rfl, free⟩ := takeTurn_begins found waited found' began
    exact ⟨rfl, free⟩
  · exfalso
    have unbegun : run' = run → False := by
      rintro rfl
      rw [waited] at began
      cases began
    have moves := step_moves s input
    generalize step s input = s' at moves found'
    cases moves with
    | same runs =>
      rw [runs, found, Option.some_inj] at found'
      exact unbegun found'.symm
    | check rule =>
      rw [checkMode_runs, found, Option.some_inj] at found'
      exact unbegun found'.symm
    | admitRun firing =>
      have inRange := (List.getElem?_eq_some_iff.mp found).1
      rw [admitRun, List.getElem?_append_left inRange, found, Option.some_inj] at found'
      exact unbegun found'.symm
    | @takeTurn k => exact isTake ⟨k, rfl⟩
    | drop | purge =>
      exact unbegun (Option.some_inj.mp (found'.symm.trans found))
    | @retire k retiring isRetiring =>
      by_cases same : k = i
      · subst same
        rw [isRetiring, Option.some_inj] at found
        subst found
        have inRange := (List.getElem?_eq_some_iff.mp isRetiring).1
        rw [List.getElem?_set_self inRange, Option.some_inj] at found'
        rw [← found'] at began
        rw [waited] at began
        cases began
      · rw [List.getElem?_set_ne same, found, Option.some_inj] at found'
        exact unbegun found'.symm

end Permit

/-! ## The system behind the queue -/

section Steps
variable {s : System} {input : Input}

/-- The runs that began and are not over have the permit. -/
def TurnsHeld (s : System) : Prop :=
  ∀ (i : Nat) (run : RuleRun), s.runs[i]? = some run → isQueued run.mode = true →
    run.main.isSome = true → unfinished s run = true → turnOf s run.counter = some i

/-- While a queued rule is being fired, there is room for its run. -/
def RoomLeft (s : System) : Prop :=
  ∀ (rule : Rule) (counter maxQueue : Nat), s.firing = some (rule, counter) →
    rule.runMode = .queued maxQueue → ∀ runs, s.counters[counter]? = some runs → runs.count < maxQueue

def Bounded (s : System) : Prop :=
  ∀ (j : Nat) (run : RuleRun) (maxQueue : Nat), s.runs[j]? = some run →
    run.mode = .queued maxQueue → unfinished s run = true → pendingUpTo s run.ruleId j ≤ maxQueue

theorem length_runs (s : System) (input : Input) : s.runs.length ≤ (step s input).runs.length := by
  have moves := step_moves s input
  generalize step s input = s' at moves ⊢
  cases moves with
  | same runs => rw [runs]
  | check rule => rw [checkMode_runs]
  | admitRun | takeTurn | retire => simp [admitRun]
  | drop | purge => exact le_refl _

theorem unfinished_before {run run' : RuleRun} (continues : Continues s (step s input) run run')
    (goesOn : unfinished (step s input) run' = true) : unfinished s run = true := by
  by_contra finished
  rw [finished_step continues (by simpa using finished)] at goesOn
  cases goesOn

theorem turnsHeld_step (held : TurnsHeld s) (counted : Counted s) : TurnsHeld (step s input) := by
  intro i run' found queued began goesOn
  rcases step_run found with ⟨run, isRun, continues⟩ | ⟨_, rule, counter, rfl, _, rfl⟩
  · have wentOn := unfinished_before continues goesOn
    have wasQueued : isQueued run.mode = true := continues.mode ▸ queued
    have permit := step_permit s input run.counter
    rw [continues.counter]
    cases isMain : run.main with
    | none =>
      obtain ⟨rfl, free⟩ := begins_by_turn isRun isMain found began
      have isThere := List.getElem?_eq_getElem (counted.counters run (List.mem_of_getElem? isRun))
      change turnOf (takeTurn s i) run.counter = some i
      have waits : ¬ (run.main.isSome = true ∨
          (s.counters[run.counter]?.bind RuleRuns.turn).isSome = true) := by
        rw [isMain, show s.counters[run.counter]?.bind RuleRuns.turn = none from free]
        simp
      simp only [takeTurn, isRun, if_neg waits]
      rw [turnOf, turn_modify, isThere, Option.bind_some, if_pos rfl]
    | some main =>
      have before := held i run isRun wasQueued (by rw [isMain]; rfl) wentOn
      cases permit with
      | same turn => rw [turn, before]
      | taken _ _ _ free =>
        rw [before] at free
        cases free
      | @released k other _ isOther isOver holds =>
        rw [before, Option.some_inj] at holds
        subst holds
        rw [isRun, Option.some_inj] at isOther
        subst isOther
        rw [isMain, Option.bind_some] at isOver
        simp only [unfinished, isMain, Option.all_some, Option.isNone_iff_eq_none] at wentOn
        rw [wentOn] at isOver
        cases isOver
  · simp only [newRun] at queued began
    rw [if_pos queued] at began
    cases began

theorem modeRefusal_queued {maxQueue count : Nat}
    (passes : modeRefusal (.queued maxQueue) count = none) : count < maxQueue := by
  by_contra full
  simp [modeRefusal, Nat.le_of_not_lt full] at passes

/-- Nothing is admitted between the check of a rule's mode and the admission of its run. -/
theorem roomLeft_step (room : RoomLeft s) (counted : Counted s) : RoomLeft (step s input) := by
  intro rule counter maxQueue firing queued runs found
  rcases step_firing firing with ⟨before, other⟩ | ⟨rfl, idle, _, passes⟩
  · have old := counted.made _ _ (counted.firing rule counter before)
    obtain ⟨runsBefore, wasThere, fewer⟩ := step_count_le other old found
    have wasRoom := room rule counter maxQueue before queued runsBefore wasThere
    omega
  · simp only [step, idle, Option.isSome_none, Bool.false_eq_true, if_false, checkMode_counters] at found
    rw [queued, found, Option.getD_some] at passes
    exact modeRefusal_queued passes

theorem countP_range {α : Type} (xs : List α) (p : α → Bool) :
    (List.range xs.length).countP (fun i => xs[i]?.any p) = xs.countP p := by
  induction xs using List.reverseRecOn with
  | nil => rfl
  | append_singleton xs x ih =>
    rw [List.length_append, List.length_singleton, List.range_succ, List.countP_append,
      List.countP_append, List.countP_singleton, List.countP_singleton, ← ih]
    congr 1
    · refine List.countP_congr fun i inRange => ?_
      rw [List.getElem?_append_left (List.mem_range.mp inRange)]
    · simp

/-- The unfinished runs of a rule are counted where the rule finds them. -/
theorem unfinished_counted (counted : Counted s) {ruleId : Uuid} {counter : Nat}
    (registered : s.ruleInFlight ruleId = some counter) :
    (s.runs.countP fun run => run.ruleId == ruleId && unfinished s run) ≤ countedIn s.runs counter := by
  refine List.countP_mono_left fun run member isUnfinished => ?_
  simp only [Bool.and_eq_true, beq_iff_eq] at isUnfinished
  obtain ⟨ofRule, goesOn⟩ := isUnfinished
  have itsCounter := counted.registered run member goesOn
  rw [ofRule, registered, Option.some_inj] at itsCounter
  have isCounted : run.retired = false := by
    by_contra isRetired
    rw [counted.retired run member (by simpa using isRetired)] at goesOn
    cases goesOn
  simp [itsCounter, isCounted]

/-- What is unfinished after a step, up to a run that was there before, was unfinished before. -/
theorem pending_step (ruleId : Uuid) {i : Nat} (old : i < s.runs.length)
    (pending : ((step s input).runs[i]?.any fun run =>
      run.ruleId == ruleId && unfinished (step s input) run) = true) :
    (s.runs[i]?.any fun run => run.ruleId == ruleId && unfinished s run) = true := by
  obtain ⟨run', found, isPending⟩ := (Option.any_eq_true _ _).mp pending
  simp only [Bool.and_eq_true, beq_iff_eq] at isPending
  rcases step_run found with ⟨run, isRun, continues⟩ | ⟨last, _⟩
  · rw [isRun, Option.any_some, Bool.and_eq_true, beq_iff_eq]
    exact ⟨continues.ruleId ▸ isPending.1, unfinished_before continues isPending.2⟩
  · omega

theorem bounded_step (bounded : Bounded s) (room : RoomLeft s) (counted : Counted s) :
    Bounded (step s input) := by
  intro j run' maxQueue found queued goesOn
  rcases step_run found with ⟨run, isRun, continues⟩ | ⟨rfl, rule, counter, rfl, firing, rfl⟩
  · have inRange := (List.getElem?_eq_some_iff.mp isRun).1
    have before := bounded j run maxQueue isRun (continues.mode ▸ queued)
      (unfinished_before continues goesOn)
    refine le_trans ?_ before
    rw [continues.ruleId]
    refine List.countP_mono_left fun i member => ?_
    have := List.mem_range.mp member
    exact pending_step run.ruleId (by omega)
  · -- the earlier ones are counted, and the count left room for one more
    have registered := counted.firing rule counter firing
    have isThere := List.getElem?_eq_getElem (counted.made _ _ registered)
    have wasRoom := room rule counter maxQueue firing queued _ isThere
    have areCounted := counted.counted counter _ isThere
    have earlier := unfinished_counted counted registered
    rw [← countP_range] at earlier
    have still : (List.range s.runs.length).countP (fun i => (step s .admitRun).runs[i]?.any fun run =>
        run.ruleId == rule.id && unfinished (step s .admitRun) run) ≤
        (List.range s.runs.length).countP fun i => s.runs[i]?.any fun run =>
          run.ruleId == rule.id && unfinished s run :=
      List.countP_mono_left fun i member => pending_step rule.id (List.mem_range.mp member)
    change pendingUpTo _ rule.id _ ≤ _
    rw [pendingUpTo, List.range_succ, List.countP_append]
    have one : [s.runs.length].countP (fun i => (step s .admitRun).runs[i]?.any fun run =>
        run.ruleId == rule.id && unfinished (step s .admitRun) run) ≤ 1 := List.countP_le_length
    omega

end Steps

/-! ## The line of those who asked -/

structure InTurn (q : TurnQueue) : Prop where
  counted : Counted q.system
  held : TurnsHeld q.system
  room : RoomLeft q.system
  bounded : Bounded q.system
  known : ∀ i ∈ q.asked, i < q.system.runs.length
  /-- The queued runs of its rule that were admitted before a run are in the line before it. -/
  inLine : ∀ (i j : Nat) (run later : RuleRun), i < j → q.system.runs[i]? = some run →
    q.system.runs[j]? = some later → later.ruleId = run.ruleId → isQueued run.mode = true →
    ∀ before after, q.asked = before ++ j :: after → i ∈ before
  inOrder : ∀ (i j : Nat) (run later : RuleRun), i < j → q.system.runs[i]? = some run →
    q.system.runs[j]? = some later → later.ruleId = run.ruleId → isQueued run.mode = true →
    isQueued later.mode = true → later.main.isSome = true → unfinished q.system run = false

theorem InTurn.queueKept {q : TurnQueue} (inTurn : InTurn q) : QueueKept q.system where
  alone := by
    rintro i j run later earlier isRun isLater sameRule queued laterQueued ⟨executes, laterExecutes⟩
    have began : later.main.isSome = true := by
      obtain ⟨main, isMain, _⟩ := (Option.any_eq_true _ _).mp laterExecutes
      exact Option.isSome_iff_exists.mpr ⟨main, isMain⟩
    have isOver := inTurn.inOrder i j run later earlier isRun isLater sameRule queued laterQueued began
    rw [unfinished_of_executing inTurn.counted.structured executes] at isOver
    cases isOver
  inOrder := inTurn.inOrder
  bounded := inTurn.bounded

/-- The run whose turn it is finds the queued runs of its rule that were admitted before it over. -/
theorem InTurn.first_in_line {q : TurnQueue} (inTurn : InTurn q) {i j : Nat} {run later : RuleRun}
    (earlier : i < j) (isRun : q.system.runs[i]? = some run) (isLater : q.system.runs[j]? = some later)
    (sameRule : later.ruleId = run.ruleId) (queued : isQueued run.mode = true)
    (waits : later.main = none) (free : turnOf q.system later.counter = none)
    (itsTurn : q.next later.counter = some j) : unfinished q.system run = false := by
  by_contra goesOn
  rw [Bool.not_eq_false] at goesOn
  have laterGoesOn : unfinished q.system later = true := by rw [unfinished, waits]; rfl
  have itsCounter := inTurn.counted.registered run (List.mem_of_getElem? isRun) goesOn
  have sameCounter := inTurn.counted.registered later (List.mem_of_getElem? isLater) laterGoesOn
  rw [sameRule, itsCounter, Option.some_inj] at sameCounter
  cases isMain : run.main with
  | some main =>
    have holds := inTurn.held i run isRun queued (by rw [isMain]; rfl) goesOn
    rw [sameCounter, free] at holds
    cases holds
  | none =>
    obtain ⟨_, before, after, line, noneBefore⟩ := List.find?_eq_some_iff_append.mp itsTurn
    have isBefore := inTurn.inLine i j run later earlier isRun isLater sameRule queued before after line
    have passedOver := noneBefore i isBefore
    rw [waitsFor, isRun, Option.any_some, sameCounter, isMain] at passedOver
    simp at passedOver

theorem inTurn_ask {q : TurnQueue} (inTurn : InTurn q) {k : Nat} (asks : AsksInOrder q k) :
    InTurn (q.ask k) := by
  rw [TurnQueue.ask]
  split
  · next isNew =>
    obtain ⟨asking, isAsking, _⟩ := (Option.any_eq_true _ _).mp (Bool.and_eq_true_iff.mp isNew).1
    refine ⟨inTurn.counted, inTurn.held, inTurn.room, inTurn.bounded, ?_, ?_, inTurn.inOrder⟩
    · intro i member
      rcases List.mem_append.mp member with before | last
      · exact inTurn.known i before
      · rw [List.mem_singleton.mp last]
        exact (List.getElem?_eq_some_iff.mp isAsking).1
    · intro i j run later earlier isRun isLater sameRule queued before after line
      rcases List.eq_nil_or_concat after with rfl | ⟨rest, last, rfl⟩
      · -- it has just asked
        obtain ⟨rfl, isLast⟩ := List.append_inj' line rfl
        cases isLast
        exact asks later isLater i earlier run isRun sameRule.symm queued
      · have line : q.asked ++ [k] = (before ++ j :: rest) ++ [last] := by simpa using line
        obtain ⟨earlierLine, _⟩ := List.append_inj' line rfl
        exact inTurn.inLine i j run later earlier isRun isLater sameRule queued before rest earlierLine
  · exact inTurn

theorem inTurn_engine {q : TurnQueue} (inTurn : InTurn q) {input : Input}
    (undisturbed : Undisturbed q.system input) (permitted : q.permits input = true) :
    InTurn { q with system := step q.system input } where
  counted := inTurn.counted.step undisturbed
  held := turnsHeld_step inTurn.held inTurn.counted
  room := roomLeft_step inTurn.room inTurn.counted
  bounded := bounded_step inTurn.bounded inTurn.room inTurn.counted
  known := by
    intro i member
    have old := inTurn.known i member
    have grows := length_runs q.system input
    change i < (step q.system input).runs.length
    omega
  inLine := by
    intro i j run' later' earlier found foundLater sameRule queued before after line
    have old := inTurn.known j (by rw [line]; simp)
    obtain ⟨run, isRun, continues⟩ := step_earlier earlier found foundLater
    rcases step_run foundLater with ⟨later, isLater, laterContinues⟩ | ⟨last, _⟩
    · refine inTurn.inLine i j run later earlier isRun isLater ?_ (continues.mode ▸ queued) before after line
      rw [← continues.ruleId, ← laterContinues.ruleId, sameRule]
    · omega
  inOrder := by
    intro i j run' later' earlier found foundLater sameRule queued laterQueued began
    obtain ⟨run, isRun, continues⟩ := step_earlier earlier found foundLater
    refine finished_step continues ?_
    have wasQueued : isQueued run.mode = true := continues.mode ▸ queued
    rcases step_run foundLater with ⟨later, isLater, goesOn⟩ | ⟨_, rule, counter, rfl, _, rfl⟩
    · have sameBefore : later.ruleId = run.ruleId := by rw [← continues.ruleId, ← goesOn.ruleId, sameRule]
      cases isMain : later.main with
      | some main =>
        exact inTurn.inOrder i j run later earlier isRun isLater sameBefore wasQueued
          (goesOn.mode ▸ laterQueued) (by rw [isMain]; rfl)
      | none =>
        obtain ⟨rfl, free⟩ := begins_by_turn isLater isMain foundLater began
        have itsTurn : q.next later.counter = some j := by
          simpa [TurnQueue.permits, isLater] using permitted
        exact inTurn.first_in_line earlier isRun isLater sameBefore wasQueued isMain free itsTurn
    · simp only [newRun] at laterQueued began
      rw [if_pos laterQueued] at began
      cases began

theorem inTurn_step {q : TurnQueue} (inTurn : InTurn q) {input : QueueInput}
    (orderly : q.Orderly input) : InTurn (q.step input) := by
  cases input with
  | ask k => exact inTurn_ask inTurn orderly
  | engine input =>
    rw [TurnQueue.step]
    split
    · next permitted => exact inTurn_engine inTurn orderly permitted
    · exact inTurn

theorem inTurn_start (rules : List Rule) : InTurn (TurnQueue.start rules) where
  counted := counted_start rules
  held := fun _ _ found => by cases found
  room := fun _ _ _ firing => by cases firing
  bounded := fun _ _ _ found => by cases found
  known := fun _ member => absurd member List.not_mem_nil
  inLine := fun _ _ _ _ _ found => by cases found
  inOrder := fun _ _ _ _ _ found => by cases found

/-- As long as the tasks of a rule ask for their turns in the order of its firings, and its runs are
left undisturbed, its queued runs keep to the queue. -/
theorem queued_runs_in_turn (rules : List Rule) (inputs : List QueueInput)
    (orderly : Runs.EachStep TurnQueue.step TurnQueue.Orderly (TurnQueue.start rules) inputs) :
    Runs.Always TurnQueue.step (fun q => QueueKept q.system) (TurnQueue.start rules) inputs := by
  have throughout := Runs.invariant InTurn (fun q input inTurn isOrderly => inTurn_step inTurn isOrderly)
    (inTurn_start rules) orderly
  exact throughout.mono fun q inTurn => inTurn.queueKept

/-! ## Two in the queue -/

/-- Lets a minute pass, with room for two firings. -/
def queuedMinute : Rule :=
  { Rule.minimal ⟨1⟩ .manualTrigger [.delay 60 true none] with runMode := .queued 2 }

/-- The second firing waits until the first is through, and a third finds no room. -/
theorem second_waits_for_first :
    let inputs := [.engine (.check queuedMinute), .engine .admitRun, .engine (.check queuedMinute),
      .engine .admitRun, .engine (.check queuedMinute), .ask 0, .ask 1, .engine (.takeTurn 0),
      .engine (.takeTurn 1), .engine (.poll 0 {}), .engine (.poll 0 {}), .engine (.poll 0 {}),
      .engine (.poll 0 {}), .engine (.poll 0 {}), .engine (.retire 0), .engine (.takeTurn 1), .engine (.poll 1 {})]
    ((inputs.foldl TurnQueue.step (TurnQueue.start [queuedMinute])).system.runs.map
        fun run => (run.main, run.retired)) = [(some 0, true), (some 1, false)] ∧
      Runs.Always TurnQueue.step (fun q => QueueKept q.system) (TurnQueue.start [queuedMinute]) inputs := by
  intro inputs
  exact ⟨by decide, queued_runs_in_turn [queuedMinute] inputs (by decide)⟩

/-- The task of the second firing is polled first, and goes first. -/
theorem second_overtakes_first :
    ¬ Runs.Always TurnQueue.step (fun q => QueueKept q.system) (TurnQueue.start [queuedMinute])
      [.engine (.check queuedMinute), .engine .admitRun, .engine (.check queuedMinute),
        .engine .admitRun, .ask 1, .engine (.takeTurn 1)] := by
  intro always
  have kept := always.last
  generalize reached : List.foldl TurnQueue.step (TurnQueue.start [queuedMinute]) _ = q at kept
  have first : q.system.runs[0]?.map (fun run => (run.ruleId, isQueued run.mode, run.main)) =
      some (⟨1⟩, true, none) := by
    rw [← reached]
    decide
  have second : q.system.runs[1]?.map (fun run => (run.ruleId, isQueued run.mode, run.main)) =
      some (⟨1⟩, true, some 0) := by
    rw [← reached]
    decide
  obtain ⟨run, isRun, runIs⟩ := Option.map_eq_some_iff.mp first
  obtain ⟨later, isLater, laterIs⟩ := Option.map_eq_some_iff.mp second
  simp only [Prod.mk.injEq] at runIs laterIs
  have isOver := kept.inOrder 0 1 run later (by omega) isRun isLater (laterIs.1.trans runIs.1.symm)
    runIs.2.1 laterIs.2.1 (by rw [laterIs.2.2]; rfl)
  rw [unfinished, runIs.2.2] at isOver
  cases isOver

end HomeCore.Engine
