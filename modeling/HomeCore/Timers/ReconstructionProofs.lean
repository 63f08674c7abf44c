import HomeCore.Timers.Reconstruction
import HomeCore.Timers.AgreementProofs

/-! A restart of the process under a timer. What is left of a countdown is worked out again from
the record, so nobody notices the restart where the record tells of the countdown; but nothing
repeats a countdown that would have woken in between. -/
namespace HomeCore
namespace TimerSystem
variable {timer : TimerSystem} {record : TimerRecord} {plan : TimerPlan}

/-! ## What every run keeps -/

/-- What the record of a running timer has: a start that is past, a length, and whether its
countdown repeats. -/
structure Describes (now : DateTime) (record : TimerRecord) (repeats : Bool) : Prop where
  startedAt : ∃ started, record.startedAt = some started ∧ started ≤ now
  durationSecs : record.durationSecs.isSome = true
  repeats : repeats = record.repeats.getD false

structure Described (timer : TimerSystem) : Prop where
  tidy : timer.Tidy
  running : ∀ record ∈ timer.record, record.status = some .running →
    ∃ id task wakeAt, timer.handle = some id ∧ timer.tasks id = some task ∧ task.cut = false ∧
      task.phase = .sleeping wakeAt ∧ Describes timer.now record task.repeats
  resting : ∀ record ∈ timer.record, record.status ≠ some .running → timer.handle = none
  paused : ∀ record ∈ timer.record, record.status = some .paused → record.durationSecs.isSome = true

/-- A plan leaves a record that describes what it spawns. -/
structure PlanDescribes (now : DateTime) (record : TimerRecord) (plan : TimerPlan) : Prop where
  spawned : ∀ spawn ∈ plan.spawns,
    Describes now (record.withState now plan.status plan.extra) spawn.repeats
  rested : plan.spawns = none → plan.status ≠ .running ∧ (plan.status = .paused →
    (record.withState now plan.status plan.extra).durationSecs.isSome = true)

theorem Described.settle (described : timer.Described) {command : TimerCommand}
    (describes : ∀ record ∈ timer.record, PlanDescribes timer.now record plan) :
    (timer.settle command plan).Described := by
  have written : ∀ record ∈ (timer.settle command plan).record, ∃ before ∈ timer.record,
      record = before.withState timer.now plan.status plan.extra := by
    intro record stored
    rw [settle_record] at stored
    obtain ⟨before, storedBefore, same⟩ := Option.map_eq_some_iff.mp (Option.mem_def.mp stored)
    exact ⟨before, storedBefore, same.symm⟩
  refine ⟨described.tidy.settle command plan, ?_, ?_, ?_⟩
  · intro record stored isRunning
    obtain ⟨before, storedBefore, rfl⟩ := written record stored
    cases spawns : plan.spawns with
    | none => exact absurd (Option.some.inj isRunning) ((describes before storedBefore).rested spawns).1
    | some spawn =>
      obtain ⟨newest, found⟩ := settle_newest spawns
      refine ⟨timer.spawned, _, _, newest, found, rfl, rfl, ?_⟩
      rw [settle_now]
      exact (describes before storedBefore).spawned spawn spawns
  · intro record stored notRunning
    obtain ⟨before, _, rfl⟩ := written record stored
    cases spawns : plan.spawns with
    | none => exact settle_rests spawns
    | some spawn =>
      have isRunning := plan.spawnsRunning (by rw [spawns]; rfl)
      exact absurd (congrArg some isRunning) notRunning
  · intro record stored isPaused
    obtain ⟨before, storedBefore, rfl⟩ := written record stored
    cases spawns : plan.spawns with
    | none => exact ((describes before storedBefore).rested spawns).2 (Option.some.inj isPaused)
    | some spawn =>
      have isRunning := plan.spawnsRunning (by rw [spawns]; rfl)
      cases isRunning.symm.trans (Option.some.inj isPaused)

/-! ## Commands -/

theorem planDescribes_runs {now : DateTime} {cancels : Bool} {extra : TimerExtra} {spawn : TimerSpawn}
    (describes : Describes now (record.withState now .running extra) spawn.repeats) :
    PlanDescribes now record (.runs cancels extra spawn) := by
  refine ⟨fun other spawned => ?_, by rintro ⟨⟩⟩
  cases spawned
  exact describes

theorem planDescribes_rests {now : DateTime} {cancels : Bool} {status : TimerStatus} {extra : TimerExtra}
    (atRest : status ≠ .running) (keeps : status = .paused →
      (record.withState now status extra).durationSecs.isSome = true) :
    PlanDescribes now record (.rests cancels status extra) :=
  ⟨by rintro _ ⟨⟩, fun _ => ⟨atRest, keeps⟩⟩

/-- A timer with a registered countdown is running. -/
theorem Described.usual_running (described : timer.Described) (stored : timer.record = some record)
    {usual : Nat} (hasTask : timer.usual = some usual) : record.status = some .running := by
  by_contra notRunning
  rw [TimerSystem.usual, described.resting record stored notRunning] at hasTask
  cases hasTask

theorem start_planDescribes {now : DateTime} {durationSecs : Option Nat} {label : Option String}
    {repeats : Option Bool} {usual : Option Nat} {stored : Option TimerRecord}
    (planned : (TimerCommand.start durationSecs label repeats).plan now stored usual = some plan) :
    PlanDescribes now record plan := by
  simp only [TimerCommand.plan] at planned
  split at planned
  · cases planned
  · cases planned
    exact planDescribes_runs ⟨⟨now, rfl, le_rfl⟩, rfl, rfl⟩

theorem Described.pause_planDescribes (described : timer.Described)
    (stored : timer.record = some record)
    (planned : TimerCommand.pause.plan timer.now timer.record timer.usual = some plan) :
    PlanDescribes timer.now record plan := by
  simp only [TimerCommand.plan] at planned
  split at planned
  · cases planned
  · rename_i hasTask
    rw [Option.isNone_iff_eq_none] at hasTask
    obtain ⟨usual, hasTask⟩ := Option.ne_none_iff_exists'.mp hasTask
    have isRunning := described.usual_running stored hasTask
    obtain ⟨_, _, _, _, _, _, _, describes⟩ := described.running record stored isRunning
    cases planned
    exact planDescribes_rests (by rintro ⟨⟩) fun _ => describes.durationSecs

theorem Described.resume_planDescribes (described : timer.Described)
    (stored : timer.record = some record)
    (planned : TimerCommand.resume.plan timer.now timer.record timer.usual = some plan) :
    PlanDescribes timer.now record plan := by
  simp only [TimerCommand.plan, stored] at planned
  split at planned
  · cases planned
  · rename_i isPaused
    have isDuration := described.paused record stored (not_not.mp isPaused)
    split at planned
    · cases planned
      refine planDescribes_runs ⟨⟨_, rfl, ?_⟩, isDuration, rfl⟩
      exact sub_le_self _ (mul_nonneg (Int.natCast_nonneg _) (by decide))
    · cases planned
      exact planDescribes_rests (by rintro ⟨⟩) (by rintro ⟨⟩)

theorem Described.extend_planDescribes (described : timer.Described)
    (stored : timer.record = some record) {more : Nat}
    (planned : (TimerCommand.extend more).plan timer.now timer.record timer.usual = some plan) :
    PlanDescribes timer.now record plan := by
  simp only [TimerCommand.plan, stored] at planned
  split at planned
  · rename_i isRunning
    obtain ⟨_, _, _, _, _, _, _, describes⟩ := described.running record stored isRunning
    obtain ⟨started, startedAt, past⟩ := describes.startedAt
    cases planned
    refine planDescribes_runs ⟨⟨started, ?_, past⟩, rfl, rfl⟩
    rw [TimerRecord.withState, startedAt]
    rfl
  · cases planned
    exact planDescribes_rests (by rintro ⟨⟩) fun _ => rfl
  · cases planned

theorem Described.restart_planDescribes (described : timer.Described)
    (stored : timer.record = some record)
    (planned : TimerCommand.restart.plan timer.now timer.record timer.usual = some plan) :
    PlanDescribes timer.now record plan := by
  simp only [TimerCommand.plan] at planned
  split at planned
  · cases planned
  · rename_i secs length
    split at planned
    · cases planned
    · rename_i some_
      have hasLength : record.durationSecs.isSome = true := by
        cases hasTask : timer.usual with
        | some usual =>
          have isRunning := described.usual_running stored hasTask
          obtain ⟨_, _, _, _, _, _, _, describes⟩ := described.running record stored isRunning
          exact describes.durationSecs
        | none =>
          rw [hasTask, stored, Option.none_or, Option.map_some] at length
          cases found : record.durationSecs with
          | some duration => rfl
          | none =>
            rw [found, Option.getD_none] at length
            exact absurd (Option.some.inj length).symm some_
      cases planned
      refine planDescribes_runs ⟨⟨timer.now, rfl, le_rfl⟩, hasLength, ?_⟩
      rw [stored]
      rfl

theorem Described.planDescribes (described : timer.Described) {command : TimerCommand}
    (planned : command.plan timer.now timer.record timer.usual = some plan)
    (stored : timer.record = some record) : PlanDescribes timer.now record plan := by
  cases command with
  | start durationSecs label repeats => exact start_planDescribes planned
  | pause => exact described.pause_planDescribes stored planned
  | resume => exact described.resume_planDescribes stored planned
  | cancel =>
    cases planned
    exact planDescribes_rests (by rintro ⟨⟩) (by rintro ⟨⟩)
  | restart => exact described.restart_planDescribes stored planned
  | extend more => exact described.extend_planDescribes stored planned

theorem Described.handleCmd (described : timer.Described) (command : TimerCommand) :
    (timer.handleCmd command).Described := by
  cases planned : command.plan timer.now timer.record timer.usual with
  | none =>
    rw [handleCmd_none described.tidy.idle planned]
    obtain ⟨idle, fresh, asleep, registered⟩ := described.tidy
    exact ⟨⟨idle, fresh, asleep, registered⟩, described.running, described.resting, described.paused⟩
  | some plan =>
    have taken : plan.cancels = false → timer.handle = none := by
      intro keeps
      obtain ⟨record, stored, isPaused⟩ := plan_keeps planned keeps
      exact described.resting record stored (by rw [isPaused]; rintro ⟨⟩)
    rw [handleCmd_settle described.tidy.idle planned taken]
    exact described.settle fun record stored => described.planDescribes planned stored

/-! ## Expiries -/

section Expiries
variable {id : Nat} {task : TimerTask}

theorem Described.finishes (described : timer.Described) (found : timer.tasks id = some task)
    (alive : task.alive = true) : (timer.finishes id task).Described := by
  have status : ∀ record ∈ (timer.finishes id task).record, record.status = some .finished := by
    intro record written
    rw [finishes_record] at written
    obtain ⟨old, _, rfl⟩ := Option.map_eq_some_iff.mp (Option.mem_def.mp written)
    rfl
  refine ⟨described.tidy.finishes found alive, ?_, fun _ _ _ => finishes_handle timer id task, ?_⟩
  · intro record written isRunning
    rw [status record written] at isRunning
    cases isRunning
  · intro record written isPaused
    rw [status record written] at isPaused
    cases isPaused

theorem Described.startsOver (described : timer.Described) (found : timer.tasks id = some task)
    (alive : task.alive = true) : (timer.startsOver id task).Described := by
  have held := described.tidy.registered id task found alive
  have written : ∀ record ∈ (timer.startsOver id task).record, ∃ old ∈ timer.record,
      record = old.fired.repeated timer.now task.durationSecs := by
    intro record stored
    rw [startsOver_record] at stored
    obtain ⟨old, storedBefore, same⟩ := Option.map_eq_some_iff.mp (Option.mem_def.mp stored)
    exact ⟨old, storedBefore, same.symm⟩
  refine ⟨described.tidy.startsOver found alive, ?_, ?_, ?_⟩
  · intro record stored _
    obtain ⟨old, storedBefore, rfl⟩ := written record stored
    refine ⟨id, _, _, held, if_pos rfl, (alive_iff.mp alive).2, rfl, ⟨timer.now, rfl, le_rfl⟩, rfl, ?_⟩
    have isRunning : old.status = some .running := by
      by_contra notRunning
      rw [described.resting old storedBefore notRunning] at held
      cases held
    obtain ⟨own, counting, _, ownHeld, counted, _, _, describes⟩ :=
      described.running old storedBefore isRunning
    obtain rfl := Option.some.inj (held.symm.trans ownHeld)
    obtain rfl := Option.some.inj (found.symm.trans counted)
    exact describes.repeats
  · intro record stored notRunning
    obtain ⟨old, _, rfl⟩ := written record stored
    exact absurd rfl notRunning
  · intro record stored isPaused
    obtain ⟨old, _, rfl⟩ := written record stored
    cases isPaused

theorem Described.stopped (described : timer.Described) (found : timer.tasks id = some task)
    (cut : task.cut = true) : (timer.setTask id { task with phase := .ended }).Described := by
  refine ⟨described.tidy.stopped found, ?_, described.resting, described.paused⟩
  intro record stored isRunning
  obtain ⟨running, counting, wakeAt, held, counted, uncut, rest⟩ :=
    described.running record stored isRunning
  refine ⟨running, counting, wakeAt, held, ?_, uncut, rest⟩
  rw [setTask_tasks, if_neg (cut_other found cut counted uncut)]
  exact counted

end Expiries

theorem Described.expire (described : timer.Described) (id : Nat) : (timer.expire id).Described := by
  rcases expire_cases described.tidy id with same | ⟨task, found, ⟨cut, ends⟩ | ⟨alive, _, works⟩⟩
  · rw [same]
    exact described
  · rw [ends]
    exact described.stopped found cut
  · rw [works]
    split
    · exact described.startsOver found alive
    · exact described.finishes found alive

/-! ## Restarts -/

/-- Something is left of a running timer exactly where its length on record is not over. -/
theorem left_iff {now started : Int} {duration : Nat} (past : started ≤ now) :
    0 < duration - TimerRecord.elapsed now started ↔ ¬ started + duration * second ≤ now := by
  have parts := elapsed_add past
  have below : (now - started) % second < second := Int.emod_lt_of_pos _ (by decide)
  have above : 0 ≤ (now - started) % second := Int.emod_nonneg _ (by decide)
  have nanos : (second : Int) = 1000000000 := rfl
  generalize TimerRecord.elapsed now started = ran at parts ⊢
  rw [nanos] at parts below above ⊢
  omega

/-- What is left from now on ends when the length does, but for the part of a second. -/
theorem left_wake {now started : Int} {duration : Nat} (past : started ≤ now)
    (left : 0 < duration - TimerRecord.elapsed now started) :
    now + ((duration - TimerRecord.elapsed now started : Nat) : Int) * second =
      started + duration * second + (now - started) % second := by
  have inTime : TimerRecord.elapsed now started ≤ duration := by omega
  exact extended_wake 0 past inTime

/-- A process that starts with one countdown. -/
def countingOn (now : DateTime) (record : TimerRecord) (task : TimerTask) : TimerSystem :=
  { (start now (some record)).setTask 0 task with
    spawned := 1
    handle := some 0 }

theorem countingOn_tasks (now : DateTime) (record : TimerRecord) (task : TimerTask) (id : Nat) :
    (countingOn now record task).tasks id = if id = 0 then some task else none :=
  rfl

theorem Resting.hasLength (resting : Resting record) (isPaused : record.status = some .paused) :
    record.durationSecs.isSome = true := by
  obtain ⟨_, duration, _, durationSecs, _⟩ := resting.2 isPaused
  rw [durationSecs]
  rfl

/-- What a restart makes of a running timer. -/
theorem reconstructTimers_running {now started : Int} {duration : Nat}
    (isRunning : record.status = some .running) (startedAt : record.startedAt = some started)
    (durationSecs : record.durationSecs = some duration) (past : started ≤ now) :
    reconstructTimers now (some record) = if started + duration * second ≤ now then
        ⟨start now (some (record.withState now .finished {})), true⟩
      else ⟨countingOn now record ⟨duration, record.repeats.getD false, false, false,
        .sleeping (started + duration * second + (now - started) % second)⟩, false⟩ := by
  rw [reconstructTimers, if_pos isRunning]
  simp only [startedAt, durationSecs, Option.getD_some]
  by_cases left : 0 < duration - TimerRecord.elapsed now started
  · rw [if_pos left, if_neg ((left_iff past).mp left), left_wake past left]
    rfl
  · rw [if_neg left, if_pos (not_not.mp fun due => left ((left_iff past).mpr due))]

theorem start_tidy (now : DateTime) (record : Option TimerRecord) : (start now record).Tidy := by
  refine ⟨rfl, fun _ _ => rfl, ?_, ?_⟩
  · intro id task found
    cases found
  · intro id task found
    cases found

/-- A timer that is not running, as a process finds it. -/
theorem start_described (now : DateTime) (notRunning : record.status ≠ some .running)
    (keeps : record.status = some .paused → record.durationSecs.isSome = true) :
    (start now (some record)).Described := by
  refine ⟨start_tidy now _, ?_, fun _ _ _ => rfl, ?_⟩
  · intro other stored isRunning
    cases stored
    exact absurd isRunning notRunning
  · intro other stored isPaused
    cases stored
    exact keeps isPaused

theorem countingOn_described {now wakeAt : DateTime} {duration : Nat} {repeats : Bool}
    (isRunning : record.status = some .running) (describes : Describes now record repeats) :
    (countingOn now record ⟨duration, repeats, false, false, .sleeping wakeAt⟩).Described := by
  refine ⟨⟨rfl, ?_, ?_, ?_⟩, ?_, ?_, ?_⟩
  · intro id new
    have different : id ≠ 0 := by
      rintro rfl
      exact absurd new (by decide : ¬ 1 ≤ 0)
    rw [countingOn_tasks, if_neg different]
  · intro id task found
    rw [countingOn_tasks] at found
    split at found
    · cases found
      rfl
    · cases found
  · intro id task found _
    rw [countingOn_tasks] at found
    split at found
    · rename_i isZero
      rw [isZero]
      rfl
    · cases found
  · intro other stored _
    cases stored
    exact ⟨0, _, _, rfl, rfl, rfl, rfl, describes⟩
  · intro other stored notRunning
    cases stored
    exact absurd isRunning notRunning
  · intro other stored isPaused
    cases stored
    cases isRunning.symm.trans isPaused

theorem Described.restart (described : timer.Described) (downtime : Nat) :
    (timer.outlive (.restart downtime)).Described := by
  rw [outlive]
  cases stored : timer.record with
  | none =>
    refine ⟨start_tidy _ none, ?_, ?_, ?_⟩
    all_goals
      intro other found
      cases found
  | some record =>
    by_cases isRunning : record.status = some .running
    · obtain ⟨_, task, _, _, _, _, _, ⟨started, startedAt, past⟩, hasLength, repeats⟩ :=
        described.running record stored isRunning
      obtain ⟨duration, durationSecs⟩ := Option.isSome_iff_exists.mp hasLength
      have later : started ≤ timer.now + downtime :=
        past.trans (Int.le_add_of_nonneg_right (Int.natCast_nonneg _))
      rw [reconstructTimers_running isRunning startedAt durationSecs later]
      split
      · exact start_described _ (by rintro ⟨⟩) (by rintro ⟨⟩)
      · exact countingOn_described isRunning ⟨⟨started, startedAt, later⟩, hasLength, rfl⟩
    · rw [reconstructTimers, if_neg isRunning]
      exact start_described _ isRunning (described.paused record stored)

theorem Described.outlive (described : timer.Described) (event : ProcessEvent) :
    (timer.outlive event).Described := by
  cases event with
  | restart downtime => exact described.restart downtime
  | timer event =>
    cases event with
    | tick nanos =>
      obtain ⟨idle, fresh, asleep, registered⟩ := described.tidy
      refine ⟨⟨idle, fresh, asleep, registered⟩, ?_, described.resting, described.paused⟩
      intro record stored isRunning
      obtain ⟨id, task, wakeAt, held, found, uncut, phase, ⟨started, startedAt, past⟩, hasLength,
        repeats⟩ := described.running record stored isRunning
      refine ⟨id, task, wakeAt, held, found, uncut, phase, ⟨started, startedAt, past.trans ?_⟩,
        hasLength, repeats⟩
      exact Int.le_add_of_nonneg_right (Int.natCast_nonneg _)
    | command command => exact described.handleCmd command
    | expire id => exact described.expire id

/-! ## What a restart shows -/

/-- Of a running timer, the one countdown that is alive. -/
theorem Tidy.countsDown_iff (tidy : timer.Tidy) {id : Nat} {task : TimerTask} {wakeAt : DateTime}
    (held : timer.handle = some id) (found : timer.tasks id = some task) (uncut : task.cut = false)
    (phase : task.phase = .sleeping wakeAt) {other : TimerTask} {wakesOther : DateTime} :
    timer.CountsDown other wakesOther ↔ other = task ∧ wakesOther = wakeAt := by
  constructor
  · rintro ⟨own, stored, alive, otherPhase⟩
    obtain rfl := Option.some.inj (held.symm.trans (tidy.registered own other stored alive))
    obtain rfl := Option.some.inj (found.symm.trans stored)
    rw [phase] at otherPhase
    exact ⟨rfl, (TimerPhase.sleeping.inj otherPhase).symm⟩
  · rintro ⟨rfl, rfl⟩
    refine ⟨id, found, ?_, phase⟩
    simp [TimerTask.alive, phase, uncut]

theorem start_asleep {now : DateTime} {record : Option TimerRecord} {task : TimerTask} {wakeAt : DateTime} :
    ¬ (start now record).CountsDown task wakeAt := by
  rintro ⟨id, found, _⟩
  cases found

/-- What is shown of a running timer, by whether its length on record is over. -/
theorem shown_iff {slack now started : Int} {duration : Nat} {task : TimerTask} {wakeAt : DateTime}
    (isRunning : record.status = some .running) (describes : Describes now record task.repeats)
    (startedAt : record.startedAt = some started) (durationSecs : record.durationSecs = some duration) :
    (let again := reconstructTimers now (some record)
      if again.fires then
        wakeAt ≤ now + slack ∧
          (task.repeats = false → ∀ fired ∈ again.timer.record, fired.status = some .finished) ∧
          (task.repeats = true → ∃ next wakesNext, again.timer.CountsDown next wakesNext ∧
            next.repeats = true ∧ next.durationSecs = task.durationSecs)
      else ∃ next wakesNext, again.timer.CountsDown next wakesNext ∧
        wakeAt - slack ≤ wakesNext ∧ wakesNext ≤ wakeAt + slack ∧ next.repeats = task.repeats ∧
          (task.repeats = true → next.durationSecs = task.durationSecs)) ↔
      tellsOf slack now started duration wakeAt task = true := by
  obtain ⟨other, sameStart, past⟩ := describes.startedAt
  obtain rfl := Option.some.inj (startedAt.symm.trans sameStart)
  rw [tellsOf, reconstructTimers_running isRunning startedAt durationSecs past]
  by_cases due : started + duration * second ≤ now
  · simp only [if_pos due, if_true, Bool.and_eq_true, decide_eq_true_eq, Bool.not_eq_true']
    refine and_congr_right fun _ => ?_
    constructor
    · rintro ⟨_, goesOn⟩
      rw [← Bool.not_eq_true]
      intro repeats
      obtain ⟨next, wakesNext, counts, _⟩ := goesOn repeats
      exact start_asleep counts
    · intro once
      refine ⟨fun _ fired written => ?_, fun repeats => ?_⟩
      · cases written
        rfl
      · rw [once] at repeats
        cases repeats
  · have counting : (countingOn now record ⟨duration, task.repeats, false, false,
        .sleeping (started + duration * second + (now - started) % second)⟩).Tidy :=
      (countingOn_described isRunning describes).tidy
    simp only [if_neg due, Bool.false_eq_true, if_false, ← describes.repeats]
    constructor
    · rintro ⟨next, wakesNext, counts, early, late, _, lengths⟩
      obtain ⟨rfl, rfl⟩ := (counting.countsDown_iff rfl rfl rfl rfl).mp counts
      simp only [Bool.and_eq_true, decide_eq_true_eq]
      refine ⟨⟨early, late⟩, ?_⟩
      cases repeats : task.repeats with
      | false => rfl
      | true => exact beq_iff_eq.mpr (lengths repeats)
    · intro tells
      simp only [Bool.and_eq_true, decide_eq_true_eq] at tells
      obtain ⟨⟨early, late⟩, lengths⟩ := tells
      refine ⟨_, _, (counting.countsDown_iff rfl rfl rfl rfl).mpr ⟨rfl, rfl⟩, early, late, rfl, ?_⟩
      intro repeats
      rw [repeats] at lengths
      exact beq_iff_eq.mp lengths

theorem Described.transparent_iff (slack : Int) (described : timer.Described) (downtime : Nat) :
    timer.Transparent slack downtime ↔ timer.recovers slack (.restart downtime) = true := by
  cases stored : timer.record with
  | none =>
    rw [recovers, stored]
    refine iff_of_true ?_ rfl
    intro record found
    rw [stored] at found
    cases found
  | some record =>
    by_cases isRunning : record.status = some .running
    · obtain ⟨id, task, wakeAt, held, found, uncut, phase, describes⟩ :=
        described.running record stored isRunning
      obtain ⟨started, startedAt, past⟩ := describes.startedAt
      obtain ⟨duration, durationSecs⟩ := Option.isSome_iff_exists.mp describes.durationSecs
      have describesLater : Describes (timer.now + downtime) record task.repeats :=
        ⟨⟨started, startedAt, past.trans (Int.le_add_of_nonneg_right (Int.natCast_nonneg _))⟩,
          describes.durationSecs, describes.repeats⟩
      have own : ∀ {other wakesOther}, timer.CountsDown other wakesOther ↔
          other = task ∧ wakesOther = wakeAt :=
        described.tidy.countsDown_iff held found uncut phase
      rw [recovers, stored, held, Option.bind_some, found]
      simp only [isRunning, phase, startedAt, durationSecs]
      rw [← shown_iff isRunning describesLater startedAt durationSecs, Transparent, stored]
      constructor
      · intro transparent
        exact transparent record rfl isRunning task wakeAt (own.mpr ⟨rfl, rfl⟩)
      · intro shown other same _ another wakesAnother counts
        cases same
        obtain ⟨rfl, rfl⟩ := own.mp counts
        exact shown
    · have notRunning : timer.recovers slack (.restart downtime) = true := by
        rw [recovers, stored]
        cases timer.handle.bind timer.tasks with
        | none => rfl
        | some task =>
          simp only []
          split
          · rename_i isRunning' _ _ _
            exact absurd isRunning' isRunning
          · rfl
      refine iff_of_true ?_ notRunning
      intro other same isRunning'
      rw [stored] at same
      cases same
      exact absurd isRunning' isRunning

/-- Where a record and its countdown agree to less than a second, all that a restart can show is
how the timer repeats: one that does must not be over, and its length on record the usual one. -/
theorem Settled.recovers_iff {slack : Int} (whole : second ≤ slack + 1) (settled : timer.Settled slack)
    (stored : timer.record = some record) (isRunning : record.status = some .running) (downtime : Nat) :
    ∃ task wakeAt started duration, timer.handle.bind timer.tasks = some task ∧
      Counts slack timer.now record wakeAt started duration ∧
      (timer.recovers slack (.restart downtime) = true ↔ (task.repeats = true →
        timer.now + downtime < started + duration * second ∧ duration = task.durationSecs)) := by
  obtain ⟨id, task, wakeAt, started, duration, held, found, _, phase, counts⟩ :=
    settled.running record stored isRunning
  have registered : timer.handle.bind timer.tasks = some task := by
    rw [held, Option.bind_some, found]
  refine ⟨task, wakeAt, started, duration, registered, counts, ?_⟩
  rw [recovers, stored, registered]
  simp only [isRunning, phase, counts.startedAt, counts.durationSecs, tellsOf]
  have early := counts.early
  have late := counts.late
  generalize started + duration * second = due at early late ⊢
  by_cases past : due ≤ timer.now + downtime
  · have slept : wakeAt ≤ timer.now + downtime + slack :=
      late.trans (Int.add_le_add_right past slack)
    rw [if_pos past, decide_eq_true slept, Bool.true_and, Bool.not_eq_true', ← Bool.not_eq_true]
    exact forall_congr' fun _ => ⟨False.elim, fun left => absurd past (not_le.mpr left.1)⟩
  · have above : 0 ≤ (timer.now + downtime - started) % second := Int.emod_nonneg _ (by decide)
    have below : (timer.now + downtime - started) % second < second := Int.emod_lt_of_pos _ (by decide)
    generalize (timer.now + downtime - started) % second = part at above below ⊢
    have within : part ≤ slack := Int.lt_add_one_iff.mp (below.trans_le whole)
    have soonest : wakeAt - slack ≤ due + part := by linarith
    have latest : due + part ≤ wakeAt + slack := by linarith
    rw [if_neg past, decide_eq_true soonest, decide_eq_true latest, Bool.and_self, Bool.true_and]
    cases task.repeats with
    | false => simp
    | true => simp [not_le.mp past]

/-- Over every run of commands, expiries and restarts of the process, the restarts are
transparent exactly where the record tells of the countdown. -/
theorem restarts_transparent_iff (slack : Int) (now : DateTime) (record : TimerRecord)
    (resting : Resting record) (events : List ProcessEvent) :
    Runs.EachStep outlive (RestartsTransparent slack) (start now (some record)) events ↔
      Runs.EachStep outlive (fun timer event => timer.recovers slack event = true)
        (start now (some record)) events := by
  have described : (start now (some record)).Described :=
    start_described now resting.1 fun isPaused => resting.hasLength isPaused
  refine Runs.eachStep_iff Described (fun _ event described => described.outlive event) ?_ described
    events
  intro timer event described
  cases event with
  | timer event => exact iff_of_true trivial rfl
  | restart downtime => exact described.transparent_iff slack downtime

end TimerSystem

/-- The tea timer is started, goes on over a restart, is extended, paused and resumed, and is
over when the process starts a second time. -/
def teaOvernight : List TimerSystem.ProcessEvent :=
  [.timer (.command (.start none none none)), .timer (.tick 60000000000), .restart 30000000000,
    .timer (.command (.extend 30)), .timer (.tick 500000000), .timer (.command .pause),
    .restart 3600000000000, .timer (.command .resume), .restart 28800000000000]

theorem tea_outlives_restarts : Runs.EachStep TimerSystem.outlive (TimerSystem.RestartsTransparent 0)
    (.start 0 (some teaTimer)) teaOvernight :=
  (TimerSystem.restarts_transparent_iff 0 0 teaTimer ⟨by rintro ⟨⟩, by rintro ⟨⟩⟩ teaOvernight).mpr
    (by decide)

/-- Started to repeat every four minutes, it stops repeating where the process is away for five. -/
theorem repeating_tea_stops : ¬ Runs.EachStep TimerSystem.outlive (TimerSystem.RestartsTransparent 0)
    (.start 0 (some teaTimer))
    [.timer (.command (.start none none (some true))), .restart 300000000000] := by
  rintro ⟨_, transparent, _⟩
  have described : (TimerSystem.start 0 (some teaTimer)).Described :=
    TimerSystem.start_described 0 (by rintro ⟨⟩) (by rintro ⟨⟩)
  have recovers := ((described.outlive (.timer (.command (.start none none (some true))))).transparent_iff
    0 300000000000).mp transparent
  revert recovers
  decide

end HomeCore
