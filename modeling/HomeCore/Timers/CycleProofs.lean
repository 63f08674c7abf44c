import HomeCore.Timers.AgreementProofs

/-! The length of a repeating timer's next cycle. A countdown carries the usual length with it
through extensions, but one that is resumed takes the length on record, which an extension has
lengthened. -/
namespace HomeCore

/-- What can happen within a cycle. -/
inductive CycleEvent where
  | tick (nanos : Nat)
  | pause
  | resume
  | extend (durationSecs : Nat)
  deriving DecidableEq

def CycleEvent.event : CycleEvent → TimerEvent
  | .tick nanos => .tick nanos
  | .pause => .command .pause
  | .resume => .command .resume
  | .extend durationSecs => .command (.extend durationSecs)

namespace TimerSystem
variable {timer : TimerSystem} {length : Nat} {record : TimerRecord}

def within (timer : TimerSystem) (event : CycleEvent) : TimerSystem := timer.react event.event

/-- A cycle of the length has begun: the record says so, and the one countdown there is
wakes when it is over. -/
structure Begun (length : Nat) (timer : TimerSystem) : Prop where
  idle : timer.command = none
  fresh : ∀ id, timer.spawned ≤ id → timer.tasks id = none
  recorded : ∃ record, timer.record = some record ∧ record.status = some .running ∧
    record.repeats = some true ∧ record.durationSecs = some length ∧
    record.remainingSecs = some length
  counting : ∃ id, timer.handle = some id ∧
    timer.tasks id = some ⟨length, true, false, false, .sleeping (timer.now + length * second)⟩
  alone : ∀ id task, timer.tasks id = some task → task.alive = true → timer.handle = some id

/-- Whichever countdown is alive, when its time is up and it has done its work, a cycle of
the length has begun. -/
def NextCycle (length : Nat) (timer : TimerSystem) : Prop :=
  ∀ id task wakeAt, timer.tasks id = some task → task.alive = true → task.phase = .sleeping wakeAt →
    ∀ nanos : Nat, wakeAt ≤ timer.now + nanos →
      ((timer.react (.tick nanos)).react (.expire id)).Begun length

/-- A resume that is carried out finds the record as long as the timer was started. -/
def Resumes (length : Nat) (timer : TimerSystem) : CycleEvent → Prop
  | .resume => ∀ record ∈ timer.record, record.status = some .paused →
    0 < record.remainingSecs.getD 0 → record.durationSecs = some length
  | _ => True

instance Resumes.decidable (length : Nat) (timer : TimerSystem) :
    ∀ event, Decidable (timer.Resumes length event)
  | .resume => inferInstanceAs (Decidable (∀ record ∈ timer.record, record.status = some .paused →
      0 < record.remainingSecs.getD 0 → record.durationSecs = some length))
  | .tick _ => .isTrue trivial
  | .pause => .isTrue trivial
  | .extend _ => .isTrue trivial

/-- A cycle is under way, or was broken off: the countdown of a running timer is registered, and a
timer that is not running has none. -/
structure Cycle (timer : TimerSystem) : Prop where
  idle : timer.command = none
  fresh : ∀ id, timer.spawned ≤ id → timer.tasks id = none
  recorded : ∃ record, timer.record = some record ∧ record.repeats = some true ∧
    record.durationSecs.isSome = true
  running : ∀ record ∈ timer.record, record.status = some .running →
    ∃ id task, timer.handle = some id ∧ timer.tasks id = some task ∧ task.alive = true
  resting : ∀ record ∈ timer.record, record.status ≠ some .running → timer.handle = none
  live : ∀ id task, timer.tasks id = some task → task.alive = true → timer.handle = some id ∧
    task.repeats = true ∧ task.cut = false ∧ ∃ wakeAt, task.phase = .sleeping wakeAt

/-- Every countdown that is alive will repeat with the length. -/
def LiveLength (length : Nat) (timer : TimerSystem) : Prop :=
  ∀ id task, timer.tasks id = some task → task.alive = true → task.durationSecs = length

/-- The countdown that is alive is the one that counts the new cycle. -/
theorem Begun.counts (begun : timer.Begun length) {id : Nat} {task : TimerTask}
    (found : timer.tasks id = some task) (alive : task.alive = true) : timer.handle = some id ∧
      task = ⟨length, true, false, false, .sleeping (timer.now + length * second)⟩ := by
  have registered := begun.alone id task found alive
  obtain ⟨own, registeredToo, foundToo⟩ := begun.counting
  obtain rfl := Option.some.inj (registered.symm.trans registeredToo)
  exact ⟨registered, Option.some.inj (found.symm.trans foundToo)⟩

theorem Begun.cycle (begun : timer.Begun length) : timer.Cycle where
  idle := begun.idle
  fresh := begun.fresh
  recorded := by
    obtain ⟨record, stored, _, repeats, duration, _⟩ := begun.recorded
    exact ⟨record, stored, repeats, by rw [duration, Option.isSome_some]⟩
  running := by
    intro record stored isRunning
    obtain ⟨id, registered, found⟩ := begun.counting
    exact ⟨id, _, registered, found, rfl⟩
  resting := by
    intro record stored atRest
    obtain ⟨other, storedToo, isRunning, _⟩ := begun.recorded
    obtain rfl := Option.some.inj (storedToo.symm.trans (Option.mem_def.mp stored))
    exact absurd isRunning atRest
  live := by
    intro id task found alive
    obtain ⟨registered, rfl⟩ := begun.counts found alive
    exact ⟨registered, rfl, rfl, _, rfl⟩

theorem Begun.liveLength (begun : timer.Begun length) : timer.LiveLength length := by
  intro id task found alive
  obtain ⟨_, rfl⟩ := begun.counts found alive
  rfl

/-! ## The end of a cycle -/

/-- A live countdown that expires begins the next cycle, of its own length. -/
theorem Cycle.expire_begun (cycle : timer.Cycle) {id : Nat} {task : TimerTask} {wakeAt : DateTime}
    (found : timer.tasks id = some task) (alive : task.alive = true)
    (phase : task.phase = .sleeping wakeAt) (due : wakeAt ≤ timer.now) :
    (timer.expire id).Begun task.durationSecs := by
  obtain ⟨registered, repeats, uncut, _⟩ := cycle.live id task found alive
  obtain ⟨record, stored, recordRepeats, _⟩ := cycle.recorded
  have ended : timer.expire id = timer.startsOver id task := by
    have notCut : (timer.tasks id).any (·.cut) = false := by rw [found, Option.any_some, uncut]
    rw [expire, if_neg (by rw [notCut]; exact Bool.false_ne_true), work_fires found phase due,
      if_pos repeats, work_repeats]
    rfl
  have written : (timer.expire id).record =
      some (record.fired.repeated timer.now task.durationSecs) := by
    rw [ended, startsOver_record, stored, Option.map_some]
  have tasks (other : Nat) : (timer.expire id).tasks other = if other = id then
      some { task with phase := .sleeping (timer.now + task.durationSecs * second) }
        else timer.tasks other := by
    rw [ended, startsOver_tasks]
  refine ⟨?_, ?_, ⟨_, written, rfl, recordRepeats, rfl, rfl⟩, ⟨id, ?_, ?_⟩, ?_⟩
  · rw [ended]
    exact cycle.idle
  · intro other new
    rw [ended] at new
    have different : other ≠ id := by
      rintro rfl
      rw [cycle.fresh other new] at found
      cases found
    rw [tasks, if_neg different]
    exact cycle.fresh other new
  · rw [ended]
    exact registered
  · rw [tasks, if_pos rfl, ended]
    obtain ⟨duration, isRepeating, told, closed, _⟩ := task
    cases repeats
    obtain ⟨rfl, rfl⟩ := Bool.or_eq_false_iff.mp uncut
    rfl
  · intro other after foundToo aliveToo
    rw [ended]
    rw [tasks] at foundToo
    split at foundToo
    · rename_i same
      exact same ▸ registered
    · exact (cycle.live other after foundToo aliveToo).1

theorem Cycle.tick (cycle : timer.Cycle) (nanos : Nat) : (timer.react (.tick nanos)).Cycle :=
  ⟨cycle.idle, cycle.fresh, cycle.recorded, cycle.running, cycle.resting, cycle.live⟩

/-- The next cycle's length is that of the countdown that is alive. -/
theorem Cycle.nextCycle_iff (cycle : timer.Cycle) :
    timer.NextCycle length ↔ timer.LiveLength length := by
  constructor
  · intro next id task found alive
    obtain ⟨_, _, _, wakeAt, phase⟩ := cycle.live id task found alive
    have due : wakeAt ≤ timer.now + (wakeAt - timer.now).toNat :=
      Int.le_add_of_sub_left_le (Int.self_le_toNat _)
    have own := (cycle.tick (wakeAt - timer.now).toNat).expire_begun found alive phase due
    have begun := next id task wakeAt found alive phase (wakeAt - timer.now).toNat due
    obtain ⟨record, stored, _, _, duration, _⟩ := own.recorded
    obtain ⟨other, storedToo, _, _, durationToo, _⟩ := begun.recorded
    obtain rfl := Option.some.inj (storedToo.symm.trans stored)
    exact Option.some.inj (duration.symm.trans durationToo)
  · intro lengths id task wakeAt found alive phase nanos due
    have begun := (cycle.tick nanos).expire_begun found alive phase due
    rwa [lengths id task found alive] at begun

/-! ## Commands within a cycle -/

variable {command : TimerCommand} {plan : TimerPlan}

theorem Cycle.registered (cycle : timer.Cycle) (id : Nat) (task : TimerTask)
    (found : timer.tasks id = some task) (alive : task.alive = true) : timer.handle = some id :=
  (cycle.live id task found alive).1

theorem Cycle.liveLength_settle (cycle : timer.Cycle) :
    (timer.settle command plan).LiveLength length ↔
      ∀ spawn ∈ plan.spawns, spawn.durationSecs = length := by
  constructor
  · intro lengths spawn spawns
    exact lengths _ _ (settle_newest spawns).2 rfl
  · intro lengths id task found alive
    obtain ⟨spawn, spawns, _, rfl⟩ := settle_alive cycle.registered found alive
    exact lengths spawn spawns

/-- What the plans of commands within a cycle have in common. -/
structure CyclePlan (timer : TimerSystem) (plan : TimerPlan) : Prop where
  taken : plan.cancels = false → timer.handle = none
  repeats : plan.extra.repeats = none
  spawnRepeats : ∀ spawn ∈ plan.spawns, spawn.repeats = true
  rests : plan.spawns = none → plan.status ≠ .running

theorem Cycle.settle (cycle : timer.Cycle) (planned : timer.CyclePlan plan) :
    (timer.settle command plan).Cycle := by
  obtain ⟨record, stored, repeats, duration⟩ := cycle.recorded
  have written : (timer.settle command plan).record =
      some (record.withState timer.now plan.status plan.extra) := by
    rw [settle_record, stored, Option.map_some]
  have own : ∀ r ∈ (timer.settle command plan).record,
      r = record.withState timer.now plan.status plan.extra := by
    intro r member
    rw [written] at member
    exact (Option.some.inj member).symm
  refine ⟨?_, fun _ => settle_fresh cycle.fresh, ⟨_, written, ?_, ?_⟩, ?_, ?_, ?_⟩
  · rw [TimerSystem.settle]
    cases plan.spawns <;> rfl
  · rw [TimerRecord.withState, planned.repeats]
    exact repeats
  · rw [TimerRecord.withState, Option.isSome_or, duration, Bool.or_true]
  · intro r member isRunning
    rw [own r member] at isRunning
    cases spawns : plan.spawns with
    | none => exact absurd (Option.some.inj isRunning) (planned.rests spawns)
    | some spawn =>
      obtain ⟨registered, found⟩ := settle_newest spawns
      exact ⟨_, _, registered, found, rfl⟩
  · intro r member atRest
    rw [own r member] at atRest
    cases spawns : plan.spawns with
    | none => exact settle_rests spawns
    | some spawn => exact absurd (congrArg some (plan.spawnsRunning (by rw [spawns]; rfl))) atRest
  · intro id task found alive
    obtain ⟨spawn, spawns, rfl, rfl⟩ := settle_alive cycle.registered found alive
    exact ⟨(settle_newest spawns).1, planned.spawnRepeats spawn spawns, rfl, _, rfl⟩

theorem Cycle.planned (cycle : timer.Cycle) (found : command.plan timer.now timer.record timer.usual =
    some plan) (fits : timer.CyclePlan plan) : (timer.handleCmd command).Cycle ∧
      ((timer.handleCmd command).LiveLength length ↔
        ∀ spawn ∈ plan.spawns, spawn.durationSecs = length) := by
  rw [handleCmd_settle cycle.idle found fits.taken]
  exact ⟨cycle.settle fits, cycle.liveLength_settle⟩

theorem Cycle.unplanned (cycle : timer.Cycle)
    (found : command.plan timer.now timer.record timer.usual = none) :
    (timer.handleCmd command).Cycle ∧
      ((timer.handleCmd command).LiveLength length ↔ timer.LiveLength length) := by
  rw [handleCmd_none cycle.idle found]
  exact ⟨⟨cycle.idle, cycle.fresh, cycle.recorded, cycle.running, cycle.resting, cycle.live⟩, Iff.rfl⟩

theorem cyclePlan_rests {cancels : Bool} {status : TimerStatus} {extra : TimerExtra}
    (taken : cancels = false → timer.handle = none) (repeats : extra.repeats = none)
    (atRest : status ≠ .running) : timer.CyclePlan (.rests cancels status extra) where
  taken := taken
  repeats := repeats
  spawnRepeats := by rintro _ ⟨⟩
  rests _ := atRest

theorem cyclePlan_runs {cancels : Bool} {extra : TimerExtra} {spawn : TimerSpawn}
    (taken : cancels = false → timer.handle = none) (repeats : extra.repeats = none)
    (spawnRepeats : spawn.repeats = true) : timer.CyclePlan (.runs cancels extra spawn) where
  taken := taken
  repeats := repeats
  spawnRepeats := by
    intro other spawns
    rwa [← Option.some.inj spawns]
  rests := by rintro ⟨⟩

theorem Cycle.pause (cycle : timer.Cycle) (lengths : timer.LiveLength length) :
    (timer.handleCmd .pause).Cycle ∧ (timer.handleCmd .pause).LiveLength length := by
  cases found : TimerCommand.pause.plan timer.now timer.record timer.usual with
  | none =>
    obtain ⟨kept, same⟩ := cycle.unplanned found
    exact ⟨kept, same.mpr lengths⟩
  | some plan =>
    have planned := found
    simp only [TimerCommand.plan] at planned
    split at planned
    · cases planned
    · obtain rfl := Option.some.inj planned
      obtain ⟨kept, exactly⟩ := cycle.planned found (cyclePlan_rests (by rintro ⟨⟩) rfl (by rintro ⟨⟩))
      exact ⟨kept, exactly.mpr (by rintro _ ⟨⟩)⟩

/-- A resumed countdown takes the length on record. -/
theorem Cycle.resume (cycle : timer.Cycle) (lengths : timer.LiveLength length) :
    (timer.handleCmd .resume).Cycle ∧
      ((timer.handleCmd .resume).LiveLength length ↔ timer.Resumes length .resume) := by
  obtain ⟨record, stored, repeats, hasDuration⟩ := cycle.recorded
  obtain ⟨duration, durationSecs⟩ := Option.isSome_iff_exists.mp hasDuration
  have resumes : timer.Resumes length .resume ↔ (record.status = some .paused →
      0 < record.remainingSecs.getD 0 → duration = length) := by
    rw [Resumes, stored]
    simp only [Option.mem_def, Option.some.injEq, forall_eq', durationSecs]
  rw [resumes]
  have planned : TimerCommand.resume.plan timer.now timer.record timer.usual =
      if record.status ≠ some .paused then none
      else if 0 < record.remainingSecs.getD 0 then some (.runs false
        { startedAt := some (timer.now - ((duration - record.remainingSecs.getD 0 : Nat) : Int) * second)
          remainingSecs := some (record.remainingSecs.getD 0) }
        ⟨record.remainingSecs.getD 0, duration, true⟩)
      else some (.rests false .finished {}) := by
    simp only [TimerCommand.plan, stored, durationSecs, repeats, Option.getD_some]
  by_cases isPaused : record.status = some .paused
  · have taken : timer.handle = none := by
      apply cycle.resting record stored
      rw [isPaused]
      rintro ⟨⟩
    rw [if_neg (not_not.mpr isPaused)] at planned
    by_cases left : 0 < record.remainingSecs.getD 0
    · rw [if_pos left] at planned
      obtain ⟨kept, exactly⟩ := cycle.planned planned (cyclePlan_runs (fun _ => taken) rfl rfl)
      refine ⟨kept, exactly.trans ?_⟩
      constructor
      · intro spawned _ _
        exact spawned _ rfl
      · intro recorded spawn spawns
        obtain rfl := Option.some.inj spawns
        exact recorded isPaused left
    · rw [if_neg left] at planned
      obtain ⟨kept, exactly⟩ := cycle.planned planned (cyclePlan_rests (fun _ => taken) rfl (by rintro ⟨⟩))
      exact ⟨kept, iff_of_true (exactly.mpr (by rintro _ ⟨⟩)) fun _ more => absurd more left⟩
  · rw [if_pos isPaused] at planned
    obtain ⟨kept, same⟩ := cycle.unplanned planned
    exact ⟨kept, iff_of_true (same.mpr lengths) fun paused => absurd paused isPaused⟩

/-- A countdown that is extended hands its own length on. -/
theorem Cycle.extend (cycle : timer.Cycle) (lengths : timer.LiveLength length) (more : Nat) :
    (timer.handleCmd (.extend more)).Cycle ∧ (timer.handleCmd (.extend more)).LiveLength length := by
  obtain ⟨record, stored, repeats, _⟩ := cycle.recorded
  cases found : (TimerCommand.extend more).plan timer.now timer.record timer.usual with
  | none =>
    obtain ⟨kept, same⟩ := cycle.unplanned found
    exact ⟨kept, same.mpr lengths⟩
  | some plan =>
    have planned := found
    simp only [TimerCommand.plan, stored, repeats, Option.getD_some] at planned
    split at planned
    · rename_i isRunning
      obtain ⟨id, task, registered, counting, alive⟩ := cycle.running record stored isRunning
      have usual : timer.usual = some length := by
        rw [TimerSystem.usual, registered, Option.bind_some, counting, Option.map_some,
          lengths id task counting alive]
      obtain rfl := Option.some.inj planned
      obtain ⟨kept, exactly⟩ := cycle.planned found (cyclePlan_runs (by rintro ⟨⟩) rfl rfl)
      refine ⟨kept, exactly.mpr ?_⟩
      intro spawn spawns
      obtain rfl := Option.some.inj spawns
      rw [usual, Option.getD_some]
    · rename_i isPaused
      have taken : timer.handle = none := by
        apply cycle.resting record stored
        rw [isPaused]
        rintro ⟨⟩
      obtain rfl := Option.some.inj planned
      obtain ⟨kept, exactly⟩ := cycle.planned found (cyclePlan_rests (fun _ => taken) rfl (by rintro ⟨⟩))
      exact ⟨kept, exactly.mpr (by rintro _ ⟨⟩)⟩
    · cases planned

theorem Cycle.within (cycle : timer.Cycle) (lengths : timer.LiveLength length) (event : CycleEvent) :
    (timer.within event).Cycle ∧
      ((timer.within event).LiveLength length ↔ timer.Resumes length event) := by
  cases event with
  | tick nanos => exact ⟨cycle.tick nanos, iff_of_true lengths trivial⟩
  | pause =>
    obtain ⟨kept, same⟩ := cycle.pause lengths
    exact ⟨kept, iff_of_true same trivial⟩
  | resume => exact cycle.resume lengths
  | extend more =>
    obtain ⟨kept, same⟩ := cycle.extend lengths more
    exact ⟨kept, iff_of_true same trivial⟩

/-! ## Cycles that begin -/

/-- A repeating timer that is started begins a cycle of the length it was started with. -/
theorem start_begun {slack : Int} (settled : timer.Settled slack) (stored : timer.record = some record)
    {durationSecs : Option Nat} {label : Option String} {repeats : Option Bool} {spawn : TimerSpawn}
    (found : (TimerCommand.start durationSecs label repeats).plan timer.now timer.record timer.usual =
      some plan) (spawns : plan.spawns = some spawn) (spawnRepeats : spawn.repeats = true) :
    (timer.handleCmd (.start durationSecs label repeats)).Begun spawn.durationSecs := by
  have planned := found
  simp only [TimerCommand.plan] at planned
  split at planned
  · cases planned
  · rename_i secs _
    obtain rfl := Option.some.inj planned
    obtain rfl := Option.some.inj spawns
    rw [handleCmd_settle settled.idle found (by rintro ⟨⟩)]
    refine ⟨rfl, fun _ => settle_fresh settled.fresh, ?_, ?_, ?_⟩
    · refine ⟨_, by rw [TimerSystem.settle, stored]; rfl, rfl, ?_, rfl, rfl⟩
      simp only [stored] at spawnRepeats
      exact congrArg some spawnRepeats
    · refine ⟨_, (settle_newest rfl).1, (settle_newest rfl).2.trans ?_⟩
      rw [spawnRepeats, settle_now]
    · intro id task found alive
      obtain ⟨spawn, spawns, rfl, _⟩ := settle_alive settled.registered found alive
      exact (settle_newest spawns).1

/-- Within a cycle of a repeating timer, whatever is extended, paused and resumed, the next
cycle is as long as the timer was started for exactly as long as no resume that is carried out
finds a record that has been extended. -/
theorem next_cycle_iff (length : Nat) (timer : TimerSystem) (begun : timer.Begun length)
    (events : List CycleEvent) :
    Runs.Always within (NextCycle length) timer events ↔
      Runs.EachStep within (Resumes length) timer events := by
  refine Runs.always_iff_under Cycle ?_ ?_ begun.cycle (begun.cycle.nextCycle_iff.mpr begun.liveLength)
    events
  · intro timer event cycle next _
    exact (cycle.within (cycle.nextCycle_iff.mp next) event).1
  · intro timer event cycle next
    obtain ⟨kept, exactly⟩ := cycle.within (cycle.nextCycle_iff.mp next) event
    exact kept.nextCycle_iff.trans exactly

end TimerSystem

/-- The tea timer, started to repeat every four minutes. -/
def teaEveryFour : TimerSystem :=
  (TimerSystem.start 0 (some teaTimer)).handleCmd (.start none none (some true))

theorem teaEveryFour_begun : teaEveryFour.Begun 240 := by
  have settled : (TimerSystem.start 0 (some teaTimer)).Settled 0 :=
    TimerSystem.start_settled 0 0 ⟨by rintro ⟨⟩, by rintro ⟨⟩⟩
  have repeats : (⟨240, 240, true⟩ : TimerSpawn).repeats = true := rfl
  exact TimerSystem.start_begun settled rfl rfl rfl repeats

/-- It is paused and resumed as it was started, and then given half a minute more. -/
theorem paused_then_extended_tea :
    Runs.Always TimerSystem.within (TimerSystem.NextCycle 240) teaEveryFour
      [.tick 60000000000, .pause, .tick 5000000000, .resume, .extend 30] := by
  have resumes : Runs.EachStep TimerSystem.within (TimerSystem.Resumes 240) teaEveryFour
      [.tick 60000000000, .pause, .tick 5000000000, .resume, .extend 30] := by decide
  exact (TimerSystem.next_cycle_iff 240 teaEveryFour teaEveryFour_begun _).mpr resumes

/-- Given the half minute first, the next cycle runs four and a half minutes. -/
theorem extended_tea_stays_longer :
    teaEveryFour.Begun 240 ∧ ¬ Runs.Always TimerSystem.within (TimerSystem.NextCycle 240) teaEveryFour
      [.tick 60000000000, .extend 30, .pause, .resume] := by
  refine ⟨teaEveryFour_begun, ?_⟩
  intro always
  have resumed : ([CycleEvent.tick 60000000000, .extend 30, .pause, .resume].foldl
      TimerSystem.within teaEveryFour).tasks 2 =
        some ⟨270, true, false, false, .sleeping 270000000000⟩ := by decide
  obtain ⟨record, stored, _, _, duration, _⟩ :=
    (always.last 2 _ _ resumed rfl rfl 210000000000 (by decide)).recorded
  have longer : ((([CycleEvent.tick 60000000000, .extend 30, .pause, .resume].foldl
      TimerSystem.within teaEveryFour).react (.tick 210000000000)).react (.expire 2)).record.bind
        (·.durationSecs) = some 270 := by decide
  rw [stored, Option.bind_some, duration] at longer
  cases longer

end HomeCore
