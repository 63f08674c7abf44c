import HomeCore.Timers.Manager

/-! Commands that fall between the steps of an expiring countdown. The task and the
command handler share the record and the one entry of the handle map without a lock:
where no command meets an expiry half done, a cancelled timer stays cancelled and a
countdown keeps its handle. -/
namespace HomeCore
namespace TimerSystem

/-- No countdown is left that could write the record or drop a handle. -/
def Quiet (timer : TimerSystem) : Prop :=
  ∀ id task, timer.tasks id = some task → task.alive = false

/-- What holds of the rest at each step of a command. -/
def StageSound (timer : TimerSystem) : Option (TimerCommand × TimerStage) → Prop
  | none => timer.processed = some .cancel →
      timer.Quiet ∧ ∀ record ∈ timer.record, record.status = some .cancelled
  | some (command, .cancelTask plan) =>
      command = .cancel → plan.status = .cancelled ∧ plan.spawns = none
  | some (command, .readState plan) => timer.Quiet ∧
      (command = .cancel → plan.status = .cancelled ∧ plan.spawns = none)
  | some (command, .writeState plan seen) => timer.Quiet ∧ seen = timer.record ∧
      (command = .cancel → plan.status = .cancelled ∧ plan.spawns = none)
  | some (command, .spawnTask _) => timer.Quiet ∧ command ≠ .cancel ∧
      ∀ record ∈ timer.record, record.status ≠ some .paused
  | some (command, .register id) => command ≠ .cancel ∧ id < timer.spawned ∧ timer.handle ≠ some id ∧
      ∀ other task, timer.tasks other = some task → other ≠ id → task.alive = false

/-- It has ended, or sleeps with a cancel in its channel. -/
def Resigned (task : TimerTask) : Prop :=
  task.phase = .ended ∨ task.told = true ∧ task.expiring = false

structure Orderly (timer : TimerSystem) : Prop where
  fresh : ∀ id, timer.spawned ≤ id → timer.tasks id = none
  handled : ∀ id ∈ timer.handle, id < timer.spawned
  /-- Only a command that cancels the countdown, or the countdown itself, closes its channel. -/
  cut : ∀ id task, timer.tasks id = some task → task.cut = true → Resigned task
  registered : ∀ id task, timer.tasks id = some task → task.alive = true →
    timer.handle = some id ∨ ∃ command, timer.command = some (command, .register id)
  paused : ∀ record ∈ timer.record, record.status = some .paused → timer.Quiet
  stage : timer.StageSound timer.command

/-! ## Plans -/

theorem plan_cancel {now : DateTime} {record : Option TimerRecord} {usual : Option Nat}
    {plan : TimerPlan} (planned : TimerCommand.cancel.plan now record usual = some plan) :
    plan.status = .cancelled ∧ plan.spawns = none := by
  cases planned
  exact ⟨rfl, rfl⟩

/-- A command that takes no handle is about a paused timer. -/
theorem plan_keeps {now : DateTime} {record : Option TimerRecord} {usual : Option Nat}
    {command : TimerCommand} {plan : TimerPlan} (planned : command.plan now record usual = some plan)
    (keeps : plan.cancels = false) : ∃ r ∈ record, r.status = some .paused := by
  cases command with
  | start durationSecs label repeats =>
    simp only [TimerCommand.plan] at planned
    split at planned
    · cases planned
    · cases planned
      cases keeps
  | pause =>
    simp only [TimerCommand.plan] at planned
    split at planned
    · cases planned
    · cases planned
      cases keeps
  | resume =>
    simp only [TimerCommand.plan] at planned
    split at planned
    · cases planned
    · rename_i r
      split at planned
      · cases planned
      · rename_i paused
        exact ⟨r, rfl, not_not.mp paused⟩
  | cancel =>
    cases planned
    cases keeps
  | restart =>
    simp only [TimerCommand.plan] at planned
    split at planned
    · cases planned
    · split at planned
      · cases planned
      · cases planned
        cases keeps
  | extend more =>
    simp only [TimerCommand.plan] at planned
    split at planned
    · cases planned
    · rename_i r
      split at planned
      · cases planned
        cases keeps
      · rename_i paused
        exact ⟨r, rfl, paused⟩
      · cases planned

/-! ## Tasks -/

variable {timer : TimerSystem}

theorem alive_iff {task : TimerTask} : task.alive = true ↔ task.phase ≠ .ended ∧ task.cut = false := by
  simp [TimerTask.alive]

theorem setTask_tasks (timer : TimerSystem) (id other : Nat) (task : TimerTask) :
    (timer.setTask id task).tasks other = if other = id then some task else timer.tasks other := rfl

theorem cutOff_cut (task : TimerTask) (cancels : Bool) : (task.cutOff cancels).cut = true := by
  simp [TimerTask.cut, TimerTask.cutOff]

variable {cancels : Bool}

/-- Dropping the handle cuts off the task it belongs to, and no other. -/
theorem dropHandle_tasks {id : Nat} {task : TimerTask}
    (found : (timer.dropHandle cancels).tasks id = some task) :
    ∃ before, timer.tasks id = some before ∧ before.phase = task.phase ∧
      (task = before ∧ timer.handle ≠ some id ∨
        task = before.cutOff cancels ∧ timer.handle = some id) := by
  unfold dropHandle at found
  cases held : timer.handle with
  | none =>
    rw [held] at found
    exact ⟨task, found, rfl, .inl ⟨rfl, by rintro ⟨⟩⟩⟩
  | some dropped =>
    simp only [held] at found
    split at found
    · rename_i same
      obtain ⟨before, stored, rfl⟩ := Option.map_eq_some_iff.mp found
      exact ⟨before, same ▸ stored, rfl, .inr ⟨rfl, congrArg some same.symm⟩⟩
    · rename_i other
      refine ⟨task, found, rfl, .inl ⟨rfl, ?_⟩⟩
      intro same
      exact other (Option.some.inj same).symm

theorem dropHandle_none {id : Nat} (absent : timer.tasks id = none) :
    (timer.dropHandle cancels).tasks id = none := by
  cases found : (timer.dropHandle cancels).tasks id with
  | none => rfl
  | some task =>
    obtain ⟨before, stored, _⟩ := dropHandle_tasks found
    rw [absent] at stored
    cases stored

theorem dropHandle_rest (timer : TimerSystem) (cancels : Bool) :
    (timer.dropHandle cancels).handle = none ∧ (timer.dropHandle cancels).record = timer.record ∧
      (timer.dropHandle cancels).spawned = timer.spawned ∧
      (timer.dropHandle cancels).command = timer.command ∧
      (timer.dropHandle cancels).processed = timer.processed := by
  unfold dropHandle
  cases held : timer.handle <;> simp [held]

theorem expiring_of_phase {a b : TimerTask} (same : a.phase = b.phase) : a.expiring = b.expiring := by
  unfold TimerTask.expiring
  rw [same]

theorem Resigned.asleep {task : TimerTask} (resigned : Resigned task) : task.expiring = false := by
  rcases resigned with ended | ⟨_, asleep⟩
  · simp [TimerTask.expiring, ended]
  · exact asleep

theorem Resigned.cutOff {task : TimerTask} (resigned : Resigned task) (cancels : Bool) :
    Resigned (task.cutOff cancels) := by
  rcases resigned with ended | ⟨told, asleep⟩
  · exact .inl ended
  · exact .inr ⟨by simp [TimerTask.cutOff, told], asleep⟩

theorem Orderly.resigned (orderly : timer.Orderly) {id : Nat} {task : TimerTask}
    (found : timer.tasks id = some task) (dead : task.alive = false) : Resigned task := by
  cases cut : task.cut with
  | true => exact orderly.cut id task found cut
  | false => exact .inl (by simpa [TimerTask.alive, cut] using dead)

theorem dropHandle_dead {id : Nat} {task : TimerTask}
    (found : (timer.dropHandle cancels).tasks id = some task)
    (dead : ∀ before, timer.tasks id = some before → timer.handle ≠ some id → before.alive = false) :
    task.alive = false := by
  obtain ⟨before, stored, _, ⟨rfl, other⟩ | ⟨rfl, _⟩⟩ := dropHandle_tasks found
  · exact dead _ stored other
  · simp [TimerTask.alive, cutOff_cut]

/-! ## What one step keeps -/

theorem Orderly.tick (orderly : timer.Orderly) (nanos : Nat) :
    ({ timer with now := timer.now + nanos } : TimerSystem).Orderly :=
  ⟨orderly.fresh, orderly.handled, orderly.cut, orderly.registered, orderly.paused, by
    have stage := orderly.stage
    revert stage
    cases timer.command with
    | none => exact id
    | some inHand =>
      obtain ⟨command, stage⟩ := inHand
      cases stage <;> exact id⟩

theorem Orderly.receive (orderly : timer.Orderly) (command : TimerCommand) :
    (timer.receive command).Orderly := by
  unfold TimerSystem.receive
  cases inHand : timer.command with
  | some _ => exact orderly
  | none =>
    have unregistered : ∀ id task, timer.tasks id = some task → task.alive = true →
        timer.handle = some id := by
      intro id task found alive
      rcases orderly.registered id task found alive with held | ⟨_, registering⟩
      · exact held
      · rw [inHand] at registering
        cases registering
    simp only []
    cases planned : command.plan timer.now timer.record timer.usual with
    | none =>
      refine ⟨orderly.fresh, orderly.handled, orderly.cut,
        fun id task found alive => .inl (unregistered id task found alive), orderly.paused, ?_⟩
      intro isCancel
      cases isCancel
      cases planned
    | some plan =>
      refine ⟨orderly.fresh, orderly.handled, orderly.cut,
        fun id task found alive => .inl (unregistered id task found alive), orderly.paused, ?_⟩
      have plans : command = .cancel → plan.status = .cancelled ∧ plan.spawns = none := by
        rintro rfl
        exact plan_cancel planned
      cases cancels : plan.cancels with
      | true =>
        simp only [cancels, if_true]
        exact plans
      | false =>
        simp only [cancels, Bool.false_eq_true, if_false]
        obtain ⟨record, stored, paused⟩ := plan_keeps planned cancels
        exact ⟨orderly.paused record stored paused, plans⟩

theorem Orderly.cancelTask (orderly : timer.Orderly) {command : TimerCommand} {plan : TimerPlan}
    (inHand : timer.command = some (command, .cancelTask plan))
    (asleep : ∀ id ∈ timer.handle, ∀ task ∈ timer.tasks id, task.expiring = false) :
    ({ timer.dropHandle true with command := some (command, .readState plan) } : TimerSystem).Orderly := by
  obtain ⟨noHandle, sameRecord, sameSpawned, _, _⟩ := dropHandle_rest timer true
  have quiet : (timer.dropHandle true).Quiet := by
    intro id task found
    refine dropHandle_dead found fun before stored other => ?_
    by_contra alive
    rw [Bool.not_eq_false] at alive
    rcases orderly.registered id before stored alive with held | ⟨_, registering⟩
    · exact other held
    · rw [inHand] at registering
      cases registering
  have stage := orderly.stage
  rw [inHand] at stage
  refine ⟨?_, ?_, ?_, ?_, fun _ _ _ => quiet, ⟨quiet, stage⟩⟩
  · intro id new
    exact dropHandle_none (orderly.fresh id (sameSpawned ▸ new))
  · intro id held
    rw [noHandle] at held
    cases held
  · intro id task found cut
    obtain ⟨before, stored, _, ⟨rfl, _⟩ | ⟨rfl, held⟩⟩ := dropHandle_tasks found
    · exact orderly.cut id _ stored cut
    · exact .inr ⟨Bool.or_true _, asleep id held before stored⟩
  · intro id task found alive
    rw [quiet id task found] at alive
    cases alive

theorem Orderly.readState (orderly : timer.Orderly) {command : TimerCommand} {plan : TimerPlan}
    (inHand : timer.command = some (command, .readState plan)) :
    ({ timer with command := some (command, .writeState plan timer.record) } : TimerSystem).Orderly := by
  have stage := orderly.stage
  rw [inHand] at stage
  refine ⟨orderly.fresh, orderly.handled, orderly.cut, ?_, orderly.paused, ⟨stage.1, rfl, stage.2⟩⟩
  intro id task found alive
  rw [stage.1 id task found] at alive
  cases alive

theorem Orderly.writeState (orderly : timer.Orderly) {command : TimerCommand} {plan : TimerPlan}
    {seen : Option TimerRecord} (inHand : timer.command = some (command, .writeState plan seen)) :
    timer.proceed.Orderly := by
  have stage := orderly.stage
  rw [inHand] at stage
  obtain ⟨quiet, rfl, plans⟩ := stage
  have dead : ∀ {p : Prop} (id : Nat) (task : TimerTask), timer.tasks id = some task →
      task.alive = true → p := by
    intro p id task found alive
    rw [quiet id task found] at alive
    cases alive
  have status : ∀ record ∈ (timer.writeBack timer.record
      (·.withState timer.now plan.status plan.extra)).record, record.status = some plan.status := by
    intro record written
    cases found : timer.record with
    | none =>
      simp only [writeBack, found, Option.map_none, Option.or_none] at written
      cases written
    | some before =>
      simp only [writeBack, found, Option.map_some, Option.some_or, Option.mem_some_iff] at written
      rw [← written]
      rfl
  unfold TimerSystem.proceed
  simp only [inHand]
  cases spawns : plan.spawns with
  | none =>
    refine ⟨orderly.fresh, orderly.handled, orderly.cut, fun id task found alive => dead id task found alive,
      fun _ _ _ => quiet, fun isCancel => ⟨quiet, fun record written => ?_⟩⟩
    rw [status record written, (plans (Option.some.inj isCancel)).1]
  | some spawn =>
    refine ⟨orderly.fresh, orderly.handled, orderly.cut, fun id task found alive => dead id task found alive,
      fun _ _ _ => quiet, ⟨quiet, ?_, fun record written => ?_⟩⟩
    · intro isCancel
      rw [(plans isCancel).2] at spawns
      cases spawns
    · rw [status record written, plan.spawnsRunning (by rw [spawns]; rfl)]
      rintro ⟨⟩

theorem Orderly.spawnTask (orderly : timer.Orderly) {command : TimerCommand} {spawn : TimerSpawn}
    (inHand : timer.command = some (command, .spawnTask spawn)) : timer.proceed.Orderly := by
  have stage := orderly.stage
  rw [inHand] at stage
  obtain ⟨quiet, notCancel, notPaused⟩ := stage
  unfold TimerSystem.proceed
  simp only [inHand]
  refine ⟨?_, ?_, ?_, ?_, ?_, ⟨notCancel, Nat.lt_succ_self _, ?_, ?_⟩⟩
  · intro id new
    have other : id ≠ timer.spawned := by
      simp only [] at new
      omega
    simp only [setTask_tasks, if_neg other]
    exact orderly.fresh id (Nat.le_of_succ_le new)
  · intro id held
    exact Nat.lt_succ_of_lt (orderly.handled id held)
  · intro id task found cut
    simp only [setTask_tasks] at found
    split at found
    · cases found
      cases cut
    · exact orderly.cut id task found cut
  · intro id task found alive
    simp only [setTask_tasks] at found
    split at found
    · rename_i new
      exact .inr ⟨command, by rw [new]⟩
    · rw [quiet id task found] at alive
      cases alive
  · intro record stored paused
    exact absurd paused (notPaused record stored)
  · intro held
    exact Nat.lt_irrefl _ (orderly.handled timer.spawned held)
  · intro other task found different
    simp only [setTask_tasks, if_neg different] at found
    exact quiet other task found

theorem Orderly.register (orderly : timer.Orderly) {command : TimerCommand} {id : Nat}
    (inHand : timer.command = some (command, .register id)) : timer.proceed.Orderly := by
  have stage := orderly.stage
  rw [inHand] at stage
  obtain ⟨notCancel, small, unheld, others⟩ := stage
  obtain ⟨_, sameRecord, sameSpawned, _, _⟩ := dropHandle_rest timer false
  -- the task that loses the handle has ended or been told already
  have otherDead : ∀ other task, (timer.dropHandle false).tasks other = some task → other ≠ id →
      task.alive = false := by
    intro other task found different
    exact dropHandle_dead found fun before stored _ => others other before stored different
  unfold TimerSystem.proceed
  simp only [inHand]
  refine ⟨?_, ?_, ?_, ?_, ?_, ?_⟩
  · intro other new
    exact dropHandle_none (orderly.fresh other (sameSpawned ▸ new))
  · intro other held
    cases held
    exact sameSpawned ▸ small
  · intro other task found cut
    obtain ⟨before, stored, _, ⟨rfl, _⟩ | ⟨rfl, held⟩⟩ := dropHandle_tasks found
    · exact orderly.cut other _ stored cut
    · have different : other ≠ id := fun same => unheld (same ▸ held)
      exact (orderly.resigned stored (others other before stored different)).cutOff false
  · intro other task found alive
    by_cases same : other = id
    · exact .inl (congrArg some same.symm)
    · rw [otherDead other task found same] at alive
      cases alive
  · intro record stored paused
    have stored : record ∈ timer.record := sameRecord ▸ stored
    intro other task found
    exact dropHandle_dead found fun before storedTask _ =>
      orderly.paused record stored paused other before storedTask
  · intro isCancel
    exact absurd (Option.some.inj isCancel) notCancel

theorem Orderly.proceed (orderly : timer.Orderly) (clear : timer.clear .proceed = true) :
    timer.proceed.Orderly := by
  cases inHand : timer.command with
  | none =>
    unfold TimerSystem.proceed
    rw [inHand]
    exact orderly
  | some current =>
    obtain ⟨command, stage⟩ := current
    cases stage with
    | cancelTask plan =>
      have asleep : ∀ id ∈ timer.handle, ∀ task ∈ timer.tasks id, task.expiring = false := by
        intro id held task found
        simp only [TimerSystem.clear, inHand, Option.mem_def.mp held, Option.bind_some,
          Option.mem_def.mp found, Option.all_some] at clear
        simpa using clear
      have done := orderly.cancelTask inHand asleep
      unfold TimerSystem.proceed
      simp only [inHand]
      exact done
    | readState plan =>
      have done := orderly.readState inHand
      unfold TimerSystem.proceed
      simp only [inHand]
      exact done
    | writeState plan seen => exact orderly.writeState inHand
    | spawnTask spawn => exact orderly.spawnTask inHand
    | register id => exact orderly.register inHand

theorem not_quiet {id : Nat} {task : TimerTask} (found : timer.tasks id = some task)
    (alive : task.alive = true) : ¬ timer.Quiet := by
  intro quiet
  rw [quiet id task found] at alive
  cases alive

theorem Orderly.ne_of_new (orderly : timer.Orderly) {id other : Nat} {task : TimerTask}
    (found : timer.tasks id = some task) (new : timer.spawned ≤ other) : other ≠ id := by
  rintro rfl
  rw [orderly.fresh other new] at found
  cases found

/-- While a countdown is live a command has yet to cancel it, or is about to register it. -/
theorem StageSound.live {next : TimerSystem} (notQuiet : ¬ timer.Quiet)
    (sameProcessed : next.processed = timer.processed)
    (registers : ∀ command id, timer.StageSound (some (command, .register id)) →
      next.StageSound (some (command, .register id))) :
    ∀ current, timer.StageSound current → next.StageSound current
  | none, stage => fun isCancel => absurd (stage (sameProcessed ▸ isCancel)).1 notQuiet
  | some (_, .cancelTask _), stage => stage
  | some (_, .readState _), stage | some (_, .writeState ..), stage | some (_, .spawnTask _), stage =>
    absurd stage.1 notQuiet
  | some (command, .register id), stage => registers command id stage

/-- The moves of a live countdown that leave the handle map alone. -/
theorem Orderly.moved (orderly : timer.Orderly) {id : Nat} {task : TimerTask}
    (found : timer.tasks id = some task) (alive : task.alive = true) {record : Option TimerRecord}
    (notPaused : ∀ r ∈ record, r.status = some .paused → r ∈ timer.record) (phase : TimerPhase) :
    (({ timer with record := record } : TimerSystem).setTask id { task with phase := phase }).Orderly := by
  have notQuiet := not_quiet found alive
  have uncut := (alive_iff.mp alive).2
  have same : ∀ other after, (({ timer with record := record } : TimerSystem).setTask id
      { task with phase := phase }).tasks other = some after → other ≠ id →
      timer.tasks other = some after := by
    intro other after stored different
    rwa [setTask_tasks, if_neg different] at stored
  refine ⟨?_, orderly.handled, ?_, ?_, ?_, ?_⟩
  · intro other new
    rw [setTask_tasks, if_neg (orderly.ne_of_new found new)]
    exact orderly.fresh other new
  · intro other after stored cut
    by_cases moved : other = id
    · rw [setTask_tasks, if_pos moved] at stored
      cases stored
      exact absurd (uncut.symm.trans cut) Bool.false_ne_true
    · exact orderly.cut other after (same other after stored moved) cut
  · intro other after stored otherAlive
    by_cases moved : other = id
    · rw [moved]
      exact orderly.registered id task found alive
    · exact orderly.registered other after (same other after stored moved) otherAlive
  · intro r stored paused
    exact absurd (orderly.paused r (notPaused r stored paused) paused) notQuiet
  · refine StageSound.live notQuiet (by rfl) ?_ timer.command orderly.stage
    rintro command registering ⟨notCancel, small, unheld, others⟩
    refine ⟨notCancel, small, unheld, fun other after stored different => ?_⟩
    have isThis : id = registering := by
      by_contra elsewhere
      rw [others id task found elsewhere] at alive
      cases alive
    exact others other after (same other after stored (isThis ▸ different)) different

/-- A live countdown ends and takes the handle out of the map. -/
theorem Orderly.removed (orderly : timer.Orderly) {id : Nat} {task : TimerTask}
    (found : timer.tasks id = some task) (alive : task.alive = true) :
    ((timer.dropHandle false).setTask id { task with phase := .ended }).Orderly := by
  obtain ⟨noHandle, sameRecord, sameSpawned, sameCommand, sameProcessed⟩ :=
    dropHandle_rest timer false
  have notQuiet := not_quiet found alive
  -- a handle that is not this task's is one that this task's is about to replace
  have heldResigned : ∀ other before, timer.tasks other = some before → other ≠ id →
      timer.handle = some other → Resigned before := by
    intro other before stored different held
    rcases orderly.registered id task found alive with own | ⟨command, registering⟩
    · rw [own] at held
      exact absurd (Option.some.inj held).symm different
    · have stage := orderly.stage
      rw [registering] at stage
      exact orderly.resigned stored (stage.2.2.2 other before stored different)
  refine ⟨?_, ?_, ?_, ?_, ?_, ?_⟩
  · intro other new
    rw [setTask_tasks, if_neg (orderly.ne_of_new found (sameSpawned ▸ new))]
    exact dropHandle_none (orderly.fresh other (sameSpawned ▸ new))
  · intro other held
    change other ∈ (timer.dropHandle false).handle at held
    rw [noHandle] at held
    cases held
  · intro other after stored cut
    rw [setTask_tasks] at stored
    split at stored
    · cases stored
      exact .inl rfl
    · rename_i different
      obtain ⟨before, storedBefore, _, ⟨rfl, _⟩ | ⟨rfl, held⟩⟩ := dropHandle_tasks stored
      · exact orderly.cut other _ storedBefore cut
      · exact (heldResigned other before storedBefore different held).cutOff false
  · intro other after stored otherAlive
    rw [setTask_tasks] at stored
    split at stored
    · cases stored
      cases otherAlive
    · rename_i different
      obtain ⟨before, storedBefore, _, ⟨rfl, unheld⟩ | ⟨rfl, _⟩⟩ := dropHandle_tasks stored
      · rcases orderly.registered other _ storedBefore otherAlive with held | registering
        · exact absurd held unheld
        · exact .inr (sameCommand.symm ▸ registering)
      · rw [alive_iff, cutOff_cut] at otherAlive
        cases otherAlive.2
  · intro record stored paused
    exact absurd (orderly.paused record (sameRecord ▸ stored) paused) notQuiet
  · change StageSound _ (timer.dropHandle false).command
    rw [sameCommand]
    refine StageSound.live notQuiet (by exact sameProcessed) ?_ timer.command orderly.stage
    rintro command registering ⟨notCancel, small, _, others⟩
    refine ⟨notCancel, ?_, ?_, fun other after stored different => ?_⟩
    · exact sameSpawned.symm ▸ small
    · change (timer.dropHandle false).handle ≠ _
      rw [noHandle]
      rintro ⟨⟩
    · rw [setTask_tasks] at stored
      split at stored
      · cases stored
        rfl
      · exact dropHandle_dead stored fun before storedBefore _ =>
          others other before storedBefore different

theorem writeBack_paused {seen : Option TimerRecord} {edit : TimerRecord → TimerRecord}
    (edited : ∀ r, (edit r).status ≠ some .paused) :
    ∀ r ∈ (timer.writeBack seen edit).record, r.status = some .paused → r ∈ timer.record := by
  intro r written paused
  cases seen with
  | none => exact written
  | some before =>
    simp only [writeBack, Option.map_some, Option.some_or, Option.mem_some_iff] at written
    exact absurd (written ▸ paused) (edited before)

theorem Orderly.work (orderly : timer.Orderly) {id : Nat} (clear : timer.clear (.work id) = true) :
    (timer.work id).Orderly := by
  unfold TimerSystem.work
  cases found : timer.tasks id with
  | none => exact orderly
  | some task =>
    have live : task.expiring = true → task.alive = true := by
      intro expiring
      by_contra dead
      rw [Bool.not_eq_true] at dead
      rw [(orderly.resigned found dead).asleep] at expiring
      cases expiring
    simp only []
    split
    · rename_i wakeAt asleep
      split
      · rename_i due
        have alive : task.alive = true := by
          by_contra dead
          rw [Bool.not_eq_true] at dead
          rcases orderly.resigned found dead with ended | ⟨told, _⟩
          · rw [asleep] at ended
            cases ended
          · simp only [TimerSystem.clear, found, Option.all_some, asleep, told] at clear
            exact absurd due (not_le.mpr (by simpa using clear))
        exact orderly.moved found alive (fun r stored _ => stored) .firing
      · exact orderly
    · rename_i phase
      have alive := live (by simp [TimerTask.expiring, phase])
      exact orderly.moved found alive (fun r stored _ => stored) _
    · rename_i seen phase
      have alive := live (by simp [TimerTask.expiring, phase])
      exact orderly.moved found alive (writeBack_paused fun r => by simp [TimerRecord.fired]) _
    · rename_i phase
      have alive := live (by simp [TimerTask.expiring, phase])
      exact orderly.moved found alive (fun r stored _ => stored) _
    · rename_i seen phase
      have alive := live (by simp [TimerTask.expiring, phase])
      exact orderly.moved found alive (writeBack_paused fun r => by simp [TimerRecord.repeated]) _
    · rename_i phase
      exact orderly.removed found (live (by simp [TimerTask.expiring, phase]))
    · exact orderly

/-- A countdown that was cut off ends, which nothing else depends on. -/
theorem Orderly.stopped (orderly : timer.Orderly) {id : Nat} {task : TimerTask}
    (found : timer.tasks id = some task) : (timer.setTask id { task with phase := .ended }).Orderly := by
  have fewer : ∀ other after, (timer.setTask id { task with phase := .ended }).tasks other = some after →
      after.alive = true → timer.tasks other = some after := by
    intro other after stored alive
    rw [setTask_tasks] at stored
    split at stored
    · cases stored
      cases alive
    · exact stored
  have dead : ∀ (others : Nat → Prop), (∀ other after, timer.tasks other = some after → others other →
        after.alive = false) →
      ∀ other after, (timer.setTask id { task with phase := .ended }).tasks other = some after →
        others other → after.alive = false := by
    intro others before other after stored isOther
    by_contra alive
    rw [Bool.not_eq_false] at alive
    rw [before other after (fewer other after stored alive) isOther] at alive
    cases alive
  have quiet : timer.Quiet → (timer.setTask id { task with phase := .ended }).Quiet := by
    intro before other after stored
    exact dead (fun _ => True) (fun other after stored _ => before other after stored) other after
      stored trivial
  refine ⟨?_, orderly.handled, ?_, ?_, ?_, ?_⟩
  · intro other new
    rw [setTask_tasks, if_neg (orderly.ne_of_new found new)]
    exact orderly.fresh other new
  · intro other after stored cut
    rw [setTask_tasks] at stored
    split at stored
    · cases stored
      exact .inl rfl
    · exact orderly.cut other after stored cut
  · intro other after stored alive
    exact orderly.registered other after (fewer other after stored alive) alive
  · intro record stored paused
    exact quiet (orderly.paused record stored paused)
  · have stage := orderly.stage
    revert stage
    change timer.StageSound timer.command → StageSound _ timer.command
    cases timer.command with
    | none => exact fun stage isCancel => ⟨quiet (stage isCancel).1, (stage isCancel).2⟩
    | some current =>
      obtain ⟨command, stage⟩ := current
      cases stage with
      | cancelTask plan => exact fun stage => stage
      | readState plan => exact fun stage => ⟨quiet stage.1, stage.2⟩
      | writeState plan seen => exact fun stage => ⟨quiet stage.1, stage.2⟩
      | spawnTask spawn => exact fun stage => ⟨quiet stage.1, stage.2⟩
      | register registering =>
        rintro ⟨notCancel, small, unheld, others⟩
        exact ⟨notCancel, small, unheld, dead (· ≠ registering) others⟩

theorem Orderly.stop (orderly : timer.Orderly) (id : Nat) : (timer.stop id).Orderly := by
  unfold TimerSystem.stop
  cases found : timer.tasks id with
  | none => exact orderly
  | some task =>
    simp only []
    split
    · split
      · exact orderly.stopped found
      · exact orderly
    · exact orderly

theorem Orderly.step (orderly : timer.Orderly) {input : TimerInput}
    (clear : timer.clear input = true) : (timer.step input).Orderly := by
  cases input with
  | tick nanos => exact orderly.tick nanos
  | receive command => exact orderly.receive command
  | proceed => exact orderly.proceed clear
  | work id => exact orderly.work clear
  | stop id => exact orderly.stop id

theorem Orderly.commandsWin (orderly : timer.Orderly) : timer.CommandsWin where
  cancelled := by
    intro idle isCancel
    have stage := orderly.stage
    rw [idle] at stage
    exact (stage isCancel).2
  registered := by
    intro id task found unended untold registered
    have alive : task.alive = true := by
      by_contra dead
      rw [Bool.not_eq_true] at dead
      rcases orderly.resigned found dead with ended | ⟨told, _⟩
      · exact unended ended
      · exact absurd (untold.symm.trans told) Bool.false_ne_true
    rcases orderly.registered id task found alive with held | ⟨command, registering⟩
    · exact held
    · exact absurd registering (registered command)

theorem start_orderly (now : DateTime) (record : Option TimerRecord) : (start now record).Orderly := by
  have quiet : (start now record).Quiet := by
    intro id task found
    cases found
  refine ⟨fun _ _ => rfl, ?_, ?_, ?_, fun _ _ _ => quiet, ?_⟩
  · intro id held
    cases held
  · intro id task found
    cases found
  · intro id task found
    cases found
  · intro isCancel
    cases isCancel

/-- Commands win over expiries in every run in which none falls into one. -/
theorem timer_commands_win (now : DateTime) (record : Option TimerRecord) (inputs : List TimerInput)
    (clear : Runs.EachStep step (fun timer input => timer.clear input = true) (start now record) inputs) :
    Runs.Always step CommandsWin (start now record) inputs := by
  refine Runs.Always.mono (fun _ orderly => Orderly.commandsWin orderly) ?_
  exact Runs.invariant Orderly (fun _ _ orderly safe => orderly.step safe) (start_orderly now record) clear

end TimerSystem

/-! ## A timer of four minutes -/

def teaTimer : TimerRecord :=
  ⟨some .idle, none, some 240, some 0, some 240, some false, none⟩

/-- The handling of one command, with nothing in between. -/
def TimerCommand.whole (command : TimerCommand) : List TimerInput :=
  .receive command :: List.replicate 5 .proceed

/-- The tea timer is started, restarted after a minute, and runs out. -/
def teaRun : List TimerInput :=
  TimerCommand.whole (.start none none none) ++ [.tick 60000000000] ++
    TimerCommand.whole .restart ++ [.stop 0, .tick 240000000000, .work 1, .work 1, .work 1, .work 1] ++
    TimerCommand.whole .cancel

theorem tea_commands_win :
    Runs.EachStep TimerSystem.step (fun timer input => timer.clear input = true)
        (.start 0 (some teaTimer)) teaRun ∧
      Runs.Always TimerSystem.step TimerSystem.CommandsWin (.start 0 (some teaTimer)) teaRun := by
  have clear : Runs.EachStep TimerSystem.step (fun timer input => timer.clear input = true)
      (.start 0 (some teaTimer)) teaRun := by decide
  exact ⟨clear, TimerSystem.timer_commands_win 0 (some teaTimer) teaRun clear⟩

/-- The tea timer's time is up and it is cancelled before its task says so. -/
def teaCancelled : List TimerInput :=
  TimerCommand.whole (.start none none none) ++ [.tick 240000000000, .work 0] ++
    TimerCommand.whole .cancel ++ [.work 0, .work 0]

/-- The task finishes the timer that was cancelled. -/
theorem cancelled_tea_finishes :
    ¬ (teaCancelled.foldl TimerSystem.step (.start 0 (some teaTimer))).CommandsWin := by
  intro win
  have idle : (teaCancelled.foldl TimerSystem.step (.start 0 (some teaTimer))).command.isNone = true := by
    decide
  have isCancel : (teaCancelled.foldl TimerSystem.step (.start 0 (some teaTimer))).processed =
      some .cancel := by decide
  have finished : ((teaCancelled.foldl TimerSystem.step (.start 0 (some teaTimer))).record.map
      (·.status)) = some (some .finished) := by decide
  obtain ⟨record, stored, status⟩ := Option.map_eq_some_iff.mp finished
  have cancelled := win.cancelled (Option.isNone_iff_eq_none.mp idle) isCancel record stored
  rw [status] at cancelled
  cases cancelled

end HomeCore
