import HomeCore.Timers.InterleavingProofs

/-! The record of a timer and its countdown, when commands and expiries each run to
their end. They agree as long as no restart finds a record that was extended: the
countdown then runs its usual length, and the record keeps the extended one. -/
namespace HomeCore
namespace TimerSystem
variable {timer : TimerSystem}

/-! ## What a command comes to -/

/-- A command that was handled with nothing in between. -/
def settle (timer : TimerSystem) (command : TimerCommand) (plan : TimerPlan) : TimerSystem :=
  let rested := { timer.dropHandle true with
    record := timer.record.map (·.withState timer.now plan.status plan.extra)
    command := none
    processed := some command }
  match plan.spawns with
  | none => rested
  | some spawn =>
    { rested.setTask timer.spawned
        { durationSecs := spawn.durationSecs
          repeats := spawn.repeats
          told := false
          closed := false
          phase := .sleeping (timer.now + spawn.remainingSecs * second) } with
      spawned := timer.spawned + 1
      handle := some timer.spawned }

theorem handleCmd_settle {command : TimerCommand} {plan : TimerPlan} (idle : timer.command = none)
    (planned : command.plan timer.now timer.record timer.usual = some plan)
    (taken : plan.cancels = false → timer.handle = none) :
    timer.handleCmd command = timer.settle command plan := by
  have received : timer.receive command = { timer with
      command := some (command, if plan.cancels then .cancelTask plan else .readState plan) } := by
    unfold TimerSystem.receive
    simp only [idle, planned]
  unfold handleCmd
  rw [received]
  obtain ⟨now, record, tasks, spawned, handle, inHand, processed⟩ := timer
  obtain ⟨cancels, status, extra, spawns, spawnsRunning⟩ := plan
  cases cancels with
  | true => cases handle <;> cases spawns <;> cases record <;> rfl
  | false =>
    cases taken rfl
    cases spawns <;> cases record <;> rfl

theorem handleCmd_none {command : TimerCommand} (idle : timer.command = none)
    (planned : command.plan timer.now timer.record timer.usual = none) :
    timer.handleCmd command = { timer with processed := some command } := by
  have received : timer.receive command = { timer with processed := some command } := by
    unfold TimerSystem.receive
    simp only [idle, planned]
  unfold handleCmd
  rw [received]
  obtain ⟨now, record, tasks, spawned, handle, inHand, processed⟩ := timer
  cases idle
  rfl

section Settle
variable {command : TimerCommand} {plan : TimerPlan}

/-- The countdown a command spawned is the one whose handle is in the map. -/
theorem settle_newest {spawn : TimerSpawn} (spawns : plan.spawns = some spawn) :
    (timer.settle command plan).handle = some timer.spawned ∧
      (timer.settle command plan).tasks timer.spawned = some ⟨spawn.durationSecs, spawn.repeats,
        false, false, .sleeping (timer.now + spawn.remainingSecs * second)⟩ := by
  rw [settle, spawns]
  exact ⟨rfl, if_pos rfl⟩

theorem settle_now (timer : TimerSystem) (command : TimerCommand) (plan : TimerPlan) :
    (timer.settle command plan).now = timer.now := by
  have dropped : (timer.dropHandle true).now = timer.now := by
    rw [dropHandle]
    cases timer.handle <;> rfl
  rw [settle]
  cases plan.spawns <;> exact dropped

theorem settle_fresh (fresh : ∀ id, timer.spawned ≤ id → timer.tasks id = none) {id : Nat}
    (new : (timer.settle command plan).spawned ≤ id) : (timer.settle command plan).tasks id = none := by
  rw [settle] at new ⊢
  cases spawns : plan.spawns with
  | none =>
    rw [spawns] at new
    exact dropHandle_none (fresh id ((dropHandle_rest timer true).2.2.1 ▸ new))
  | some spawn =>
    rw [spawns] at new
    have different : id ≠ timer.spawned := by
      rintro rfl
      exact Nat.not_succ_le_self _ new
    refine (if_neg different).trans ?_
    exact dropHandle_none (fresh id (Nat.le_of_succ_le new))

/-- Where only the registered countdown was alive, the one alive after a command is the one
it spawned. -/
theorem settle_alive (registered : ∀ id task, timer.tasks id = some task → task.alive = true →
    timer.handle = some id) {id : Nat} {task : TimerTask}
    (found : (timer.settle command plan).tasks id = some task) (alive : task.alive = true) :
    ∃ spawn, plan.spawns = some spawn ∧ id = timer.spawned ∧ task =
      ⟨spawn.durationSecs, spawn.repeats, false, false, .sleeping (timer.now + spawn.remainingSecs * second)⟩ := by
  have dead : (timer.dropHandle true).tasks id = some task → task.alive = false := by
    intro found
    refine dropHandle_dead found fun before stored other => ?_
    by_contra alive
    rw [Bool.not_eq_false] at alive
    exact other (registered id before stored alive)
  rw [settle] at found
  cases spawns : plan.spawns with
  | none =>
    simp only [spawns] at found
    rw [dead found] at alive
    cases alive
  | some spawn =>
    simp only [spawns, setTask_tasks] at found
    split at found
    · rename_i same
      exact ⟨spawn, rfl, same, (Option.some.inj found).symm⟩
    · rw [dead found] at alive
      cases alive

theorem settle_record (timer : TimerSystem) (command : TimerCommand) (plan : TimerPlan) :
    (timer.settle command plan).record =
      timer.record.map (·.withState timer.now plan.status plan.extra) := by
  rw [settle]
  cases plan.spawns <;> rfl

theorem settle_rests (rests : plan.spawns = none) : (timer.settle command plan).handle = none := by
  rw [settle, rests]
  exact (dropHandle_rest timer true).1

end Settle

/-! ## Countdowns in order -/

/-- No command is in hand, and the one countdown that can be alive is registered and asleep. -/
structure Tidy (timer : TimerSystem) : Prop where
  idle : timer.command = none
  fresh : ∀ id, timer.spawned ≤ id → timer.tasks id = none
  asleep : ∀ id task, timer.tasks id = some task → task.expiring = false
  registered : ∀ id task, timer.tasks id = some task → task.alive = true → timer.handle = some id

theorem Tidy.settle (tidy : timer.Tidy) (command : TimerCommand) (plan : TimerPlan) :
    (timer.settle command plan).Tidy := by
  refine ⟨?_, fun _ => settle_fresh tidy.fresh, ?_, ?_⟩
  · rw [TimerSystem.settle]
    cases plan.spawns <;> rfl
  · intro id task found
    have dropped : (timer.dropHandle true).tasks id = some task → task.expiring = false := by
      intro found
      obtain ⟨before, stored, samePhase, _⟩ := dropHandle_tasks found
      rw [← expiring_of_phase samePhase]
      exact tidy.asleep id before stored
    rw [TimerSystem.settle] at found
    cases spawns : plan.spawns with
    | none =>
      simp only [spawns] at found
      exact dropped found
    | some spawn =>
      simp only [spawns, setTask_tasks] at found
      split at found
      · cases found
        rfl
      · exact dropped found
  · intro id task found alive
    obtain ⟨spawn, spawns, rfl, _⟩ := settle_alive tidy.registered found alive
    exact (settle_newest spawns).1

/-! ## The invariant -/

/-- The countdown that a running timer's record tells of. -/
structure Counts (slack : Int) (now : DateTime) (record : TimerRecord) (wakeAt : DateTime)
    (started : DateTime) (duration : Nat) : Prop where
  startedAt : record.startedAt = some started
  durationSecs : record.durationSecs = some duration
  past : started ≤ now
  early : started + duration * second ≤ wakeAt
  late : wakeAt ≤ started + duration * second + slack

structure Settled (slack : Int) (timer : TimerSystem) : Prop where
  idle : timer.command = none
  fresh : ∀ id, timer.spawned ≤ id → timer.tasks id = none
  asleep : ∀ id task, timer.tasks id = some task → task.expiring = false
  registered : ∀ id task, timer.tasks id = some task → task.alive = true → timer.handle = some id
  running : ∀ record ∈ timer.record, record.status = some .running →
    ∃ id task wakeAt started duration, timer.handle = some id ∧ timer.tasks id = some task ∧
      task.cut = false ∧ task.phase = .sleeping wakeAt ∧
      Counts slack timer.now record wakeAt started duration
  resting : ∀ record ∈ timer.record, record.status ≠ some .running → timer.handle = none
  paused : ∀ record ∈ timer.record, record.status = some .paused →
    ∃ remaining duration, record.remainingSecs = some remaining ∧
      record.durationSecs = some duration ∧ remaining ≤ duration

theorem Settled.agrees {slack : Int} (settled : timer.Settled slack) : timer.Agrees slack where
  running := by
    intro record stored isRunning
    obtain ⟨id, task, wakeAt, started, duration, _, found, uncut, phase, counts⟩ :=
      settled.running record stored isRunning
    refine ⟨id, task, wakeAt, started, duration, found, ?_, phase, counts.startedAt,
      counts.durationSecs, counts.early, counts.late⟩
    simp [TimerTask.alive, phase, uncut]
  resting := by
    intro record stored atRest id task found
    have notRunning : record.status ≠ some .running := by
      intro isRunning
      simp [isRunning] at atRest
    have noHandle := settled.resting record stored notRunning
    by_contra alive
    rw [Bool.not_eq_false] at alive
    rw [settled.registered id task found alive] at noHandle
    cases noHandle

/-- A plan leaves a record that agrees with what it spawns. -/
structure PlanAgrees (slack : Int) (now : DateTime) (record : TimerRecord) (plan : TimerPlan) : Prop where
  spawned : ∀ spawn ∈ plan.spawns, ∃ started duration, Counts slack now
    (record.withState now plan.status plan.extra) (now + spawn.remainingSecs * second) started duration
  rested : plan.spawns = none → plan.status ≠ .running ∧ (plan.status = .paused →
    ∃ remaining duration, (record.withState now plan.status plan.extra).remainingSecs = some remaining ∧
      (record.withState now plan.status plan.extra).durationSecs = some duration ∧ remaining ≤ duration)

theorem Settled.tidy {slack : Int} (settled : timer.Settled slack) : timer.Tidy :=
  ⟨settled.idle, settled.fresh, settled.asleep, settled.registered⟩

theorem Settled.settle {slack : Int} (settled : timer.Settled slack) {command : TimerCommand}
    {plan : TimerPlan} (agrees : ∀ record ∈ timer.record, PlanAgrees slack timer.now record plan) :
    (timer.settle command plan).Settled slack := by
  obtain ⟨idle, fresh, asleep, registered⟩ := settled.tidy.settle command plan
  have from_ : ∀ record ∈ (timer.settle command plan).record, ∃ before ∈ timer.record,
      record = before.withState timer.now plan.status plan.extra := by
    intro record written
    rw [settle_record] at written
    obtain ⟨before, stored, same⟩ := Option.map_eq_some_iff.mp (Option.mem_def.mp written)
    exact ⟨before, stored, same.symm⟩
  refine ⟨idle, fresh, asleep, registered, ?_, ?_, ?_⟩
  · intro record written isRunning
    obtain ⟨before, stored, rfl⟩ := from_ record written
    cases spawns : plan.spawns with
    | none => exact absurd (Option.some.inj isRunning) ((agrees before stored).rested spawns).1
    | some spawn =>
      obtain ⟨started, duration, counts⟩ := (agrees before stored).spawned spawn spawns
      obtain ⟨newest, found⟩ := settle_newest spawns
      refine ⟨timer.spawned, _, _, started, duration, newest, found, rfl, rfl, ?_⟩
      rw [settle_now]
      exact counts
  · intro record written notRunning
    obtain ⟨before, _, rfl⟩ := from_ record written
    cases spawns : plan.spawns with
    | none => exact settle_rests spawns
    | some spawn =>
      have isRunning := plan.spawnsRunning (by rw [spawns]; rfl)
      exact absurd (congrArg some isRunning) notRunning
  · intro record written isPaused
    obtain ⟨before, stored, rfl⟩ := from_ record written
    cases spawns : plan.spawns with
    | none => exact ((agrees before stored).rested spawns).2 (Option.some.inj isPaused)
    | some spawn =>
      have isRunning := plan.spawnsRunning (by rw [spawns]; rfl)
      cases isRunning.symm.trans (Option.some.inj isPaused)

/-! ## What each command plans -/

/-- The whole seconds and the rest of them make up the time since the start. -/
theorem elapsed_add {now started : Int} (past : started ≤ now) :
    (TimerRecord.elapsed now started : Int) * second + (now - started) % second = now - started := by
  have positive : 0 ≤ now - started := by omega
  have whole : (TimerRecord.elapsed now started : Int) = (now - started) / second := by
    rw [TimerRecord.elapsed, Int.tdiv_eq_ediv_of_nonneg positive, Int.toNat_of_nonneg]
    exact Int.ediv_nonneg positive (by decide)
  rw [whole, mul_comm]
  exact Int.mul_ediv_add_emod (now - started) second

/-- An extended countdown is late by the part of a second that the start is past. -/
theorem extended_wake {now started : Int} {duration : Nat} (more : Nat) (past : started ≤ now)
    (inTime : TimerRecord.elapsed now started ≤ duration) :
    now + ((duration - TimerRecord.elapsed now started + more : Nat) : Int) * second =
      started + ((duration + more : Nat) : Int) * second + (now - started) % second := by
  have parts := elapsed_add past
  generalize TimerRecord.elapsed now started = ran at inTime parts ⊢
  have cast : ((duration - ran + more : Nat) : Int) = (duration + more : Nat) - ran := by omega
  rw [cast, sub_mul]
  omega

theorem addSecs_eq {a b : Nat} (fits : a + b < 2 ^ 64) : addSecs a b = a + b :=
  Nat.mod_eq_of_lt fits

section Commands
variable {slack : Int} {plan : TimerPlan} {record : TimerRecord}

theorem planAgrees_runs {now : DateTime} {cancels : Bool} {extra : TimerExtra} {spawn : TimerSpawn}
    (started : DateTime) (duration : Nat)
    (counts : Counts slack now (record.withState now .running extra)
      (now + spawn.remainingSecs * second) started duration) :
    PlanAgrees slack now record (.runs cancels extra spawn) := by
  refine ⟨fun other spawned => ?_, fun rests => by cases rests⟩
  cases spawned
  exact ⟨started, duration, counts⟩

theorem planAgrees_rests {now : DateTime} {cancels : Bool} {status : TimerStatus} {extra : TimerExtra}
    (atRest : status ≠ .running)
    (left : status = .paused → ∃ remaining duration,
      (record.withState now status extra).remainingSecs = some remaining ∧
        (record.withState now status extra).durationSecs = some duration ∧ remaining ≤ duration) :
    PlanAgrees slack now record (.rests cancels status extra) := by
  refine ⟨fun spawn spawned => ?_, fun _ => ⟨atRest, left⟩⟩
  cases spawned

theorem start_planAgrees (slackNonneg : 0 ≤ slack) {durationSecs : Option Nat} {label : Option String}
    {repeats : Option Bool} {usual : Option Nat} {stored : Option TimerRecord} {now : DateTime}
    (planned : (TimerCommand.start durationSecs label repeats).plan now stored usual = some plan) :
    PlanAgrees slack now record plan := by
  simp only [TimerCommand.plan] at planned
  split at planned
  · cases planned
  · rename_i secs _
    cases planned
    refine planAgrees_runs now secs ⟨rfl, rfl, le_rfl, le_rfl, ?_⟩
    exact le_add_of_nonneg_right slackNonneg

theorem cancel_planAgrees {usual : Option Nat} {stored : Option TimerRecord} {now : DateTime}
    (planned : TimerCommand.cancel.plan now stored usual = some plan) :
    PlanAgrees slack now record plan := by
  cases planned
  exact planAgrees_rests (by decide) fun isPaused => by cases isPaused

theorem Settled.pause_planAgrees (settled : timer.Settled slack) (stored : timer.record = some record)
    (planned : TimerCommand.pause.plan timer.now timer.record timer.usual = some plan) :
    PlanAgrees slack timer.now record plan := by
  simp only [TimerCommand.plan] at planned
  split at planned
  · cases planned
  · rename_i hasTask
    have isRunning : record.status = some .running := by
      by_contra notRunning
      simp [usual, settled.resting record stored notRunning] at hasTask
    obtain ⟨_, _, _, started, duration, _, _, _, _, counts⟩ := settled.running record stored isRunning
    cases planned
    refine planAgrees_rests (by decide) fun _ => ?_
    refine ⟨record.computeRemaining timer.now, duration, ?_, ?_, ?_⟩
    · simp only [stored, Option.map_some, Option.getD_some]
      rfl
    · exact counts.durationSecs
    · simp only [TimerRecord.computeRemaining, counts.startedAt, counts.durationSecs, Option.getD_some]
      exact Nat.sub_le _ _

theorem Settled.resume_planAgrees (slackNonneg : 0 ≤ slack) (settled : timer.Settled slack)
    (stored : timer.record = some record)
    (planned : TimerCommand.resume.plan timer.now timer.record timer.usual = some plan) :
    PlanAgrees slack timer.now record plan := by
  simp only [TimerCommand.plan, stored] at planned
  split at planned
  · cases planned
  · rename_i isPaused
    obtain ⟨remaining, duration, isRemaining, isDuration, within⟩ :=
      settled.paused record stored (not_not.mp isPaused)
    simp only [isRemaining, isDuration, Option.getD_some] at planned
    split at planned
    · cases planned
      have cast : ((duration - remaining : Nat) : Int) = (duration : Int) - remaining := by omega
      have ends : timer.now - ((duration - remaining : Nat) : Int) * second + duration * second =
          timer.now + remaining * second := by
        rw [cast, sub_mul]
        ring
      refine planAgrees_runs _ duration ⟨rfl, isDuration, ?_, ends.le, ?_⟩
      · refine sub_le_self _ (mul_nonneg (Int.natCast_nonneg _) ?_)
        decide
      · exact ends.ge.trans (le_add_of_nonneg_right slackNonneg)
    · cases planned
      exact planAgrees_rests (by decide) fun isPaused => by cases isPaused

theorem Settled.extend_planAgrees (settled : timer.Settled slack) (stored : timer.record = some record)
    {more : Nat} (kept : timer.kept slack (.command (.extend more)) = true)
    (planned : (TimerCommand.extend more).plan timer.now timer.record timer.usual = some plan) :
    PlanAgrees slack timer.now record plan := by
  simp only [TimerSystem.kept, stored, Option.all_some] at kept
  simp only [TimerCommand.plan, stored] at planned
  split at planned
  · rename_i isRunning
    obtain ⟨_, _, _, started, duration, _, _, _, _, counts⟩ := settled.running record stored isRunning
    simp only [isRunning, counts.startedAt, counts.durationSecs, Option.getD_some, Option.all_some,
      Bool.and_eq_true, decide_eq_true_eq] at kept
    obtain ⟨fits, inTime, whole⟩ := kept
    have left : addSecs (record.computeRemaining timer.now) more =
        duration - TimerRecord.elapsed timer.now started + more := by
      simp only [TimerRecord.computeRemaining, counts.startedAt, counts.durationSecs, Option.getD_some]
      exact addSecs_eq (by omega)
    cases planned
    have wake := extended_wake more counts.past inTime
    refine planAgrees_runs started (duration + more) ⟨?_, ?_, counts.past, ?_, ?_⟩
    · simp [TimerRecord.withState, counts.startedAt]
    · simp [TimerRecord.withState, counts.durationSecs, addSecs_eq fits]
    · simp only [left]
      rw [wake]
      exact le_add_of_nonneg_right (Int.emod_nonneg _ (by decide))
    · simp only [left]
      rw [wake]
      exact (Int.add_le_add_iff_left _).mpr whole
  · rename_i isPaused
    obtain ⟨remaining, duration, isRemaining, isDuration, within⟩ := settled.paused record stored isPaused
    simp only [isPaused, isDuration, Option.getD_some, decide_eq_true_eq] at kept
    cases planned
    refine planAgrees_rests (by decide) fun _ => ?_
    have fits : remaining + more < 2 ^ 64 := by omega
    refine ⟨remaining + more, duration + more, ?_, ?_, by omega⟩
    · simp [TimerRecord.withState, isRemaining, addSecs_eq fits]
    · simp [TimerRecord.withState, isDuration, addSecs_eq kept]
  · cases planned

theorem restart_planAgrees (slackNonneg : 0 ≤ slack) (stored : timer.record = some record)
    (kept : timer.kept slack (.command .restart) = true)
    (planned : TimerCommand.restart.plan timer.now timer.record timer.usual = some plan) :
    PlanAgrees slack timer.now record plan := by
  simp only [TimerCommand.plan] at planned
  split at planned
  · cases planned
  · rename_i secs length
    split at planned
    · cases planned
    · rename_i some_
      have durationSecs : record.durationSecs = some secs := by
        simp only [TimerSystem.kept] at kept
        cases hasTask : timer.usual with
        | some usual =>
          simp only [hasTask, Option.some_or, Option.some.injEq] at length
          simp only [hasTask, stored, beq_iff_eq] at kept
          rw [kept, length]
        | none =>
          simp only [hasTask, stored, Option.none_or, Option.map_some, Option.some.injEq] at length
          cases found : record.durationSecs with
          | some duration => rw [← length, found, Option.getD_some]
          | none =>
            rw [found, Option.getD_none] at length
            exact absurd length.symm some_
      cases planned
      refine planAgrees_runs timer.now secs ⟨rfl, durationSecs, le_rfl, le_rfl, ?_⟩
      exact le_add_of_nonneg_right slackNonneg

theorem Settled.planAgrees (slackNonneg : 0 ≤ slack) (settled : timer.Settled slack)
    {command : TimerCommand} (kept : timer.kept slack (.command command) = true)
    (planned : command.plan timer.now timer.record timer.usual = some plan)
    (stored : timer.record = some record) : PlanAgrees slack timer.now record plan := by
  cases command with
  | start durationSecs label repeats => exact start_planAgrees slackNonneg planned
  | pause => exact settled.pause_planAgrees stored planned
  | resume => exact settled.resume_planAgrees slackNonneg stored planned
  | cancel => exact cancel_planAgrees planned
  | restart => exact restart_planAgrees slackNonneg stored kept planned
  | extend more => exact settled.extend_planAgrees stored kept planned

theorem Settled.handleCmd (slackNonneg : 0 ≤ slack) (settled : timer.Settled slack)
    {command : TimerCommand} (kept : timer.kept slack (.command command) = true) :
    (timer.handleCmd command).Settled slack := by
  cases planned : command.plan timer.now timer.record timer.usual with
  | none =>
    rw [handleCmd_none settled.idle planned]
    exact ⟨settled.idle, settled.fresh, settled.asleep, settled.registered, settled.running,
      settled.resting, settled.paused⟩
  | some plan =>
    have taken : plan.cancels = false → timer.handle = none := by
      intro keeps
      obtain ⟨record, stored, isPaused⟩ := plan_keeps planned keeps
      exact settled.resting record stored (by rw [isPaused]; rintro ⟨⟩)
    rw [handleCmd_settle settled.idle planned taken]
    exact settled.settle fun record stored => settled.planAgrees slackNonneg kept planned stored

end Commands

/-! ## Expiries -/

section Expiries
variable {id : Nat} {task : TimerTask} {seen : Option TimerRecord}

theorem work_asleep {wakeAt : DateTime} (found : timer.tasks id = some task)
    (phase : task.phase = .sleeping wakeAt) : timer.work id =
      if wakeAt ≤ timer.now then timer.setTask id { task with phase := .firing } else timer := by
  simp only [work, found, phase]

theorem work_ended (found : timer.tasks id = some task) (phase : task.phase = .ended) :
    timer.work id = timer := by
  simp only [work, found, phase]

theorem work_none (found : timer.tasks id = none) : timer.work id = timer := by
  simp only [work, found]

theorem setTask_setTask (timer : TimerSystem) (id : Nat) (a b : TimerTask) :
    (timer.setTask id a).setTask id b = timer.setTask id b := by
  simp only [setTask, TimerSystem.mk.injEq, true_and, and_true]
  funext other
  split <;> rfl

theorem setTask_found (timer : TimerSystem) (id : Nat) (task : TimerTask) :
    (timer.setTask id task).tasks id = some task := if_pos rfl

theorem writeBack_own (timer : TimerSystem) (edit : TimerRecord → TimerRecord) :
    (timer.writeBack timer.record edit).record = timer.record.map edit := by
  unfold writeBack
  cases timer.record <;> rfl

/-- A countdown whose time is up has fired once it has read and written the record. -/
theorem work_fires {wakeAt : DateTime} (found : timer.tasks id = some task)
    (phase : task.phase = .sleeping wakeAt) (due : wakeAt ≤ timer.now) :
    ((timer.work id).work id).work id =
      (timer.writeBack timer.record (·.fired)).setTask id
        { task with phase := if task.repeats then .resetting else .removing } := by
  have woken : timer.work id = timer.setTask id { task with phase := .firing } := by
    rw [work_asleep found phase, if_pos due]
  have read : (timer.setTask id { task with phase := .firing }).work id =
      timer.setTask id { task with phase := .fireWrites timer.record } := by
    rw [work, setTask_found]
    simp only [setTask_setTask]
    rfl
  have written : (timer.setTask id { task with phase := .fireWrites timer.record }).work id =
      (timer.writeBack timer.record (·.fired)).setTask id
        { task with phase := if task.repeats then .resetting else .removing } := by
    rw [work, setTask_found]
    simp only []
    change ((timer.writeBack timer.record (·.fired)).setTask id _).setTask id _ = _
    rw [setTask_setTask]
  rw [woken, read, written]

theorem work_repeats (timer : TimerSystem) (id : Nat) (task : TimerTask) :
    ((timer.setTask id { task with phase := .resetting }).work id).work id =
      (timer.writeBack timer.record (·.repeated timer.now task.durationSecs)).setTask id
        { task with phase := .sleeping (timer.now + task.durationSecs * second) } := by
  have read : (timer.setTask id { task with phase := .resetting }).work id =
      timer.setTask id { task with phase := .resetWrites timer.record } := by
    rw [work, setTask_found]
    simp only [setTask_setTask]
    rfl
  have written : (timer.setTask id { task with phase := .resetWrites timer.record }).work id =
      (timer.writeBack timer.record (·.repeated timer.now task.durationSecs)).setTask id
        { task with phase := .sleeping (timer.now + task.durationSecs * second) } := by
    rw [work, setTask_found]
    simp only []
    change ((timer.writeBack timer.record (·.repeated timer.now task.durationSecs)).setTask id
      _).setTask id { task with phase := .sleeping (timer.now + task.durationSecs * second) } = _
    rw [setTask_setTask]
  rw [read, written]

theorem work_removes (timer : TimerSystem) (id : Nat) (task : TimerTask) :
    ((timer.setTask id { task with phase := .removing }).work id).work id =
      ((timer.setTask id { task with phase := .removing }).dropHandle false).setTask id
        { task with phase := .ended } := by
  have removed : (timer.setTask id { task with phase := .removing }).work id =
      ((timer.setTask id { task with phase := .removing }).dropHandle false).setTask id
        { task with phase := .ended } := by
    rw [work, setTask_found]
  rw [removed]
  exact work_ended (setTask_found _ _ _) rfl

/-- A countdown that does not repeat has done its work. -/
def finishes (timer : TimerSystem) (id : Nat) (task : TimerTask) : TimerSystem :=
  (((timer.writeBack timer.record (·.fired)).setTask id
    { task with phase := .removing }).dropHandle false).setTask id { task with phase := .ended }

/-- A countdown that repeats has done its work. -/
def startsOver (timer : TimerSystem) (id : Nat) (task : TimerTask) : TimerSystem :=
  ((timer.writeBack timer.record (·.fired)).writeBack (timer.writeBack timer.record (·.fired)).record
    (·.repeated timer.now task.durationSecs)).setTask id
      { task with phase := .sleeping (timer.now + task.durationSecs * second) }

theorem finishes_record (timer : TimerSystem) (id : Nat) (task : TimerTask) :
    (timer.finishes id task).record = timer.record.map (·.fired) := by
  change (((timer.writeBack timer.record (·.fired)).setTask id
    { task with phase := .removing }).dropHandle false).record = _
  rw [(dropHandle_rest _ false).2.1]
  exact writeBack_own timer _

theorem finishes_handle (timer : TimerSystem) (id : Nat) (task : TimerTask) :
    (timer.finishes id task).handle = none :=
  (dropHandle_rest _ false).1

theorem finishes_tasks (held : timer.handle = some id) (task : TimerTask) (other : Nat) :
    (timer.finishes id task).tasks other =
      if other = id then some { task with phase := .ended } else timer.tasks other := by
  rw [finishes, setTask_tasks]
  split
  · rfl
  · rename_i different
    rw [dropHandle]
    split
    · exact if_neg different
    · rename_i own registered
      obtain rfl : id = own := Option.some.inj (held.symm.trans registered)
      exact (if_neg different).trans (if_neg different)

theorem startsOver_record (timer : TimerSystem) (id : Nat) (task : TimerTask) :
    (timer.startsOver id task).record =
      timer.record.map fun record => record.fired.repeated timer.now task.durationSecs := by
  change ((timer.writeBack timer.record (·.fired)).writeBack
    (timer.writeBack timer.record (·.fired)).record (·.repeated timer.now task.durationSecs)).record = _
  rw [writeBack_own, writeBack_own, Option.map_map]
  rfl

theorem startsOver_tasks (timer : TimerSystem) (id : Nat) (task : TimerTask) (other : Nat) :
    (timer.startsOver id task).tasks other = if other = id then
      some { task with phase := .sleeping (timer.now + task.durationSecs * second) }
        else timer.tasks other :=
  rfl

/-- A countdown that is to expire does nothing, ends as its channel says, or does its work. -/
theorem expire_cases (tidy : timer.Tidy) (id : Nat) :
    timer.expire id = timer ∨ ∃ task, timer.tasks id = some task ∧
      ((task.cut = true ∧ timer.expire id = timer.setTask id { task with phase := .ended }) ∨
        (task.alive = true ∧ (∃ wakeAt, task.phase = .sleeping wakeAt ∧ wakeAt ≤ timer.now) ∧
          timer.expire id =
            if task.repeats then timer.startsOver id task else timer.finishes id task)) := by
  unfold TimerSystem.expire
  cases found : timer.tasks id with
  | none =>
    simp only [Option.any_none, Bool.false_eq_true, if_false]
    left
    rw [work_none found, work_none found, work_none found, work_none found, work_none found]
  | some task =>
    have atRest := tidy.asleep id task found
    rw [Option.any_some]
    by_cases cut : task.cut = true
    · rw [if_pos cut]
      unfold TimerSystem.stop
      simp only [found, if_pos cut]
      split
      · exact .inr ⟨task, rfl, .inl ⟨cut, rfl⟩⟩
      · exact .inl rfl
    · rw [if_neg cut]
      cases phase : task.phase with
      | sleeping wakeAt =>
        have alive : task.alive = true := by simp [TimerTask.alive, phase, cut]
        by_cases due : wakeAt ≤ timer.now
        · refine .inr ⟨task, rfl, .inr ⟨alive, ⟨wakeAt, phase, due⟩, ?_⟩⟩
          rw [work_fires found phase due]
          by_cases repeats : task.repeats = true
          · rw [if_pos repeats, if_pos repeats, work_repeats]
            rfl
          · rw [if_neg repeats, if_neg repeats, work_removes]
            rfl
        · have still : timer.work id = timer := by rw [work_asleep found phase, if_neg due]
          left
          rw [still, still, still, still, still]
      | ended =>
        have still := work_ended found phase
        left
        rw [still, still, still, still, still]
      | _ => simp [TimerTask.expiring, phase] at atRest

/-! ### Countdowns stay in order -/

theorem Tidy.absent (tidy : timer.Tidy) (found : timer.tasks id = some task) {other : Nat}
    (new : timer.spawned ≤ other) : other ≠ id ∧ timer.tasks other = none := by
  have absent := tidy.fresh other new
  refine ⟨?_, absent⟩
  rintro rfl
  rw [absent] at found
  cases found

/-- Where one countdown is replaced by one that is at rest, all stays in order. -/
theorem Tidy.replaces {timer' : TimerSystem} {next : TimerTask} (tidy : timer.Tidy)
    (found : timer.tasks id = some task) (idle : timer'.command = none)
    (sameSpawned : timer'.spawned = timer.spawned)
    (tasks : ∀ other, timer'.tasks other = if other = id then some next else timer.tasks other)
    (atRest : next.expiring = false) (own : next.alive = true → timer'.handle = some id)
    (others : ∀ other, other ≠ id → timer.handle = some other → timer'.handle = some other) :
    timer'.Tidy := by
  refine ⟨idle, ?_, ?_, ?_⟩
  · intro other beyond
    have new : timer.spawned ≤ other := sameSpawned ▸ beyond
    obtain ⟨different, absent⟩ := tidy.absent found new
    rw [tasks, if_neg different, absent]
  · intro other after stored
    rw [tasks] at stored
    split at stored
    · cases stored
      exact atRest
    · exact tidy.asleep other after stored
  · intro other after stored otherAlive
    rw [tasks] at stored
    split at stored
    · rename_i same
      cases stored
      exact same ▸ own otherAlive
    · rename_i different
      exact others other different (tidy.registered other after stored otherAlive)

theorem Tidy.finishes (tidy : timer.Tidy) (found : timer.tasks id = some task)
    (alive : task.alive = true) : (timer.finishes id task).Tidy := by
  have held := tidy.registered id task found alive
  obtain ⟨_, _, sameSpawned, sameCommand, _⟩ := dropHandle_rest
    ((timer.writeBack timer.record (·.fired)).setTask id { task with phase := .removing }) false
  refine tidy.replaces found (sameCommand.trans tidy.idle) sameSpawned (finishes_tasks held task) rfl
    (fun nextAlive => by cases nextAlive) (fun other different otherHeld => ?_)
  rw [held] at otherHeld
  exact absurd (Option.some.inj otherHeld).symm different

theorem Tidy.startsOver (tidy : timer.Tidy) (found : timer.tasks id = some task)
    (alive : task.alive = true) : (timer.startsOver id task).Tidy :=
  tidy.replaces found tidy.idle rfl (startsOver_tasks timer id task) rfl
    (fun _ => tidy.registered id task found alive) (fun _ _ otherHeld => otherHeld)

theorem Tidy.stopped (tidy : timer.Tidy) (found : timer.tasks id = some task) :
    (timer.setTask id { task with phase := .ended }).Tidy :=
  tidy.replaces found tidy.idle rfl (fun other => setTask_tasks timer id other _) rfl
    (fun nextAlive => by cases nextAlive) (fun _ _ otherHeld => otherHeld)

/-! ### The record -/

variable {slack : Int}

/-- A countdown that does not repeat leaves the timer finished. -/
theorem Settled.finishes (settled : timer.Settled slack) (found : timer.tasks id = some task)
    (alive : task.alive = true) : (timer.finishes id task).Settled slack := by
  obtain ⟨idle, fresh, asleep, registered⟩ := settled.tidy.finishes found alive
  have status : ∀ record ∈ (timer.finishes id task).record, record.status = some .finished := by
    intro record written
    rw [finishes_record] at written
    obtain ⟨old, _, rfl⟩ := Option.map_eq_some_iff.mp (Option.mem_def.mp written)
    rfl
  refine ⟨idle, fresh, asleep, registered, ?_, fun _ _ _ => finishes_handle timer id task, ?_⟩
  · intro record written isRunning
    rw [status record written] at isRunning
    cases isRunning
  · intro record written isPaused
    rw [status record written] at isPaused
    cases isPaused

/-- A countdown that repeats leaves the timer running for its usual length. -/
theorem Settled.startsOver (slackNonneg : 0 ≤ slack) (settled : timer.Settled slack)
    (found : timer.tasks id = some task) (alive : task.alive = true) :
    (timer.startsOver id task).Settled slack := by
  obtain ⟨idle, fresh, asleep, registered⟩ := settled.tidy.startsOver found alive
  have isRunning : ∀ record ∈ (timer.startsOver id task).record, ∃ old : TimerRecord,
      record = old.repeated timer.now task.durationSecs := by
    intro record written
    rw [startsOver_record] at written
    obtain ⟨old, _, rfl⟩ := Option.map_eq_some_iff.mp (Option.mem_def.mp written)
    exact ⟨old.fired, rfl⟩
  refine ⟨idle, fresh, asleep, registered, ?_, ?_, ?_⟩
  · intro record written _
    obtain ⟨old, rfl⟩ := isRunning record written
    refine ⟨id, _, _, timer.now, task.durationSecs, settled.registered id task found alive,
      if_pos rfl, (alive_iff.mp alive).2, rfl, rfl, rfl, le_rfl, le_rfl, ?_⟩
    exact le_add_of_nonneg_right slackNonneg
  · intro record written notRunning
    obtain ⟨old, rfl⟩ := isRunning record written
    exact absurd rfl notRunning
  · intro record written isPaused
    obtain ⟨old, rfl⟩ := isRunning record written
    cases isPaused

/-- A countdown that was cut off is not the registered one. -/
theorem cut_other {held : Nat} {counting : TimerTask} (found : timer.tasks id = some task)
    (cut : task.cut = true) (counted : timer.tasks held = some counting)
    (uncut : counting.cut = false) : held ≠ id := by
  rintro rfl
  rw [found] at counted
  cases counted
  rw [cut] at uncut
  cases uncut

/-- A countdown that was cut off ends. -/
theorem Settled.stopped (settled : timer.Settled slack) (found : timer.tasks id = some task)
    (cut : task.cut = true) : (timer.setTask id { task with phase := .ended }).Settled slack := by
  obtain ⟨idle, fresh, asleep, registered⟩ := settled.tidy.stopped found
  refine ⟨idle, fresh, asleep, registered, ?_, settled.resting, settled.paused⟩
  intro record stored isRunning
  obtain ⟨running, counting, wakeAt, started, duration, held, counted, uncut, rest⟩ :=
    settled.running record stored isRunning
  refine ⟨running, counting, wakeAt, started, duration, held, ?_, uncut, rest⟩
  rw [setTask_tasks, if_neg (cut_other found cut counted uncut)]
  exact counted

theorem Settled.expire (slackNonneg : 0 ≤ slack) (settled : timer.Settled slack) (id : Nat) :
    (timer.expire id).Settled slack := by
  rcases expire_cases settled.tidy id with same | ⟨task, found, ⟨cut, ends⟩ | ⟨alive, _, works⟩⟩
  · rw [same]
    exact settled
  · rw [ends]
    exact settled.stopped found cut
  · rw [works]
    split
    · exact settled.startsOver slackNonneg found alive
    · exact settled.finishes found alive

end Expiries

/-! ## Whole runs -/

theorem Settled.react {slack : Int} (slackNonneg : 0 ≤ slack) (settled : timer.Settled slack)
    {event : TimerEvent} (kept : timer.kept slack event = true) :
    (timer.react event).Settled slack := by
  cases event with
  | tick nanos =>
    refine ⟨settled.idle, settled.fresh, settled.asleep, settled.registered, ?_, settled.resting,
      settled.paused⟩
    intro record stored isRunning
    obtain ⟨id, task, wakeAt, started, duration, held, found, uncut, phase, counts⟩ :=
      settled.running record stored isRunning
    refine ⟨id, task, wakeAt, started, duration, held, found, uncut, phase, ?_⟩
    refine { counts with past := counts.past.trans ?_ }
    exact le_add_of_nonneg_right (Int.natCast_nonneg nanos)
  | command command => exact settled.handleCmd slackNonneg kept
  | expire id => exact settled.expire slackNonneg id

/-- A timer that is not running, as the store holds it: a paused one has what is left
and its length. -/
def Resting (record : TimerRecord) : Prop :=
  record.status ≠ some .running ∧ (record.status = some .paused →
    ∃ remaining duration, record.remainingSecs = some remaining ∧
      record.durationSecs = some duration ∧ remaining ≤ duration)

theorem start_settled (slack : Int) (now : DateTime) {record : TimerRecord} (resting : Resting record) :
    (start now (some record)).Settled slack := by
  refine ⟨rfl, fun _ _ => rfl, ?_, ?_, ?_, fun _ _ _ => rfl, ?_⟩
  · intro id task found
    cases found
  · intro id task found
    cases found
  · intro other stored isRunning
    cases stored
    exact absurd isRunning resting.1
  · intro other stored isPaused
    cases stored
    exact resting.2 isPaused

/-- Through every run of commands and expiries in which no restart finds an extended
record, the record and the countdown agree; exactly, where each extension comes a
whole number of seconds after the start. -/
theorem timer_record_agrees (slack : Int) (slackNonneg : 0 ≤ slack) (now : DateTime)
    (record : TimerRecord) (resting : Resting record) (events : List TimerEvent)
    (kept : Runs.EachStep react (fun timer event => timer.kept slack event = true)
      (start now (some record)) events) :
    Runs.Always react (Agrees slack) (start now (some record)) events := by
  refine Runs.Always.mono (fun _ settled => Settled.agrees settled) ?_
  exact Runs.invariant (Settled slack) (fun _ _ settled safe => settled.react slackNonneg safe)
    (start_settled slack now resting) kept

end TimerSystem

/-- The tea timer is started, extended, paused, resumed, cancelled and restarted. -/
def teaEvents : List TimerEvent :=
  [.command (.start none none none), .tick 60000000000, .command (.extend 30), .expire 0,
    .tick 500000000, .command .pause, .tick 10000000000, .command .resume, .tick 1000000000,
    .command .cancel, .command .restart, .tick 270000000000, .expire 4]

theorem tea_record_agrees :
    Runs.EachStep TimerSystem.react (fun timer event => timer.kept 0 event = true)
        (.start 0 (some teaTimer)) teaEvents ∧
      Runs.Always TimerSystem.react (TimerSystem.Agrees 0) (.start 0 (some teaTimer)) teaEvents := by
  have kept : Runs.EachStep TimerSystem.react (fun timer event => timer.kept 0 event = true)
      (.start 0 (some teaTimer)) teaEvents := by decide
  exact ⟨kept, TimerSystem.timer_record_agrees 0 le_rfl 0 teaTimer ⟨by rintro ⟨⟩, by rintro ⟨⟩⟩ teaEvents kept⟩

/-- The tea timer is extended by half a minute and then restarted. -/
def teaRestarted : List TimerEvent :=
  [.command (.start none none none), .tick 60000000000, .command (.extend 30), .tick 60000000000,
    .command .restart]

def teaDisagreeing : TimerSystem :=
  teaRestarted.foldl TimerSystem.react (.start 0 (some teaTimer))

/-- The countdown runs four minutes again and the record says four and a half. -/
theorem restarted_tea_disagrees : ¬ teaDisagreeing.Agrees 0 := by
  intro agrees
  have fields : teaDisagreeing.record =
      some ⟨some .running, some 120000000000, some 270, some 240, some 240, some false, none⟩ := by
    decide
  have wakes : ∀ id task, teaDisagreeing.tasks id = some task → task.alive = true →
      task.phase = .sleeping 360000000000 := by
    have replaced : ∀ id < 2, (teaDisagreeing.tasks id).all (!·.alive) = true := by decide
    have last : teaDisagreeing.tasks 2 = some ⟨240, false, false, false, .sleeping 360000000000⟩ := by
      decide
    intro id task found alive
    rcases Nat.lt_trichotomy id 2 with before | rfl | after
    · have dead := replaced id before
      rw [found, Option.all_some, alive] at dead
      cases dead
    · rw [last] at found
      cases found
      rfl
    · have none : teaDisagreeing.tasks (id - 3 + 3) = none := rfl
      rw [Nat.sub_add_cancel after, found] at none
      cases none
  obtain ⟨id, task, wakeAt, started, duration, found, alive, phase, startedAt, durationSecs, early, _⟩ :=
    agrees.running _ fields rfl
  cases startedAt
  cases durationSecs
  rw [wakes id task found alive] at phase
  cases phase
  exact absurd early (by decide)

end HomeCore
