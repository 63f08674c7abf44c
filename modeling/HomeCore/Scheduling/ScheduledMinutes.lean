import HomeCore.Scheduling.Scheduler

/-! Which scheduled minutes a process fires its triggers for. A minute is named by
the instant it starts at, so the hour that is repeated when clocks go back has
minutes of its own. -/
namespace HomeCore.Scheduler

/-- The start of the minute an instant is in, which is that of every zone. -/
def minuteStart (instant : Int) : Int := instant - instant % minute

/-- The minutes of the day up to a time. -/
def minuteOfDay (time : NaiveTime) : Nat := time / 60000000000

/-- The time of day that a pass looks for, for a trigger that has one. -/
def clockTime (settings : Settings) (pass : Pass) : Trigger → Option NaiveTime
  | .timeOfDay time _ => some time
  | .sunEvent event offsetMinutes =>
    pass.sun (dateOf (pass.naive settings)) event offsetMinutes
  | _ => none

/-- The last minute, up to the present one, at which the clock read a time: today's
or else yesterday's. -/
def lastReading (settings : Settings) (now : Int) (time : NaiveTime) : Int :=
  let reads := minuteOfDay (timeOf (settings.naiveLocal now))
  let ago := if minuteOfDay time ≤ reads then reads - minuteOfDay time
    else reads + 1440 - minuteOfDay time % 1440
  minuteStart now - ago * minute

structure Firing where
  ruleId : Uuid
  trigger : Trigger
  /-- The instant its minute starts at. -/
  scheduled : Int

section Passes
variable (settings : Settings) (pass : Pass)

/-- An enabled rule has the trigger. -/
def Pass.HasTrigger (ruleId : Uuid) (trigger : Trigger) : Prop :=
  ∃ rule ∈ pass.rules, rule.enabled = true ∧ rule.id = ruleId ∧ trigger ∈ rule.allTriggers

/-- The trigger has a time of day, and this is its minute. -/
def Pass.DueNow (ruleId : Uuid) (trigger : Trigger) : Prop :=
  pass.HasTrigger ruleId trigger ∧ (clockTime settings pass trigger).isSome = true ∧
    tickDue settings pass none trigger = true

def TickFires (firing : Firing) : Prop :=
  pass.DueNow settings firing.ruleId firing.trigger ∧ firing.scheduled = minuteStart pass.now

def CatchupFires (firing : Firing) : Prop :=
  pass.HasTrigger firing.ruleId firing.trigger ∧ catchupDue settings pass firing.trigger = true ∧
    ∃ time ∈ clockTime settings pass firing.trigger,
      firing.scheduled = lastReading settings pass.now time

end Passes

/-- A process: what its catch-up finds, and its ticks. -/
structure Process where
  settings : Settings
  catchup : Pass
  ticks : List Pass

namespace Process

/-- What each pass of the process fires. -/
def passes (process : Process) : List (Firing → Prop) :=
  (if 0 < process.settings.catchupWindowMinutes then [CatchupFires process.settings process.catchup]
    else []) ++ process.ticks.map (TickFires process.settings)

/-- No trigger is fired by two passes for one minute. -/
def FiresOnce (process : Process) : Prop :=
  process.passes.Pairwise fun earlier later => ∀ firing, ¬ (earlier firing ∧ later firing)

/-- The first tick comes after the catch-up, and each later one after a wait. -/
structure Admissible (process : Process) : Prop where
  starts : ∀ first ∈ process.ticks.head?, process.catchup.now ≤ first.now
  waits : process.ticks.IsChain fun earlier later =>
    Follows process.settings earlier.now later.now

/-- The first tick is not in the minute of the catch-up, or no trigger is due in
that minute at both. -/
def StartsClean (process : Process) : Prop :=
  0 < process.settings.catchupWindowMinutes → ∀ first ∈ process.ticks.head?,
    minuteStart process.catchup.now = minuteStart first.now →
    ∀ ruleId trigger, ¬ (process.catchup.DueNow process.settings ruleId trigger ∧
      first.DueNow process.settings ruleId trigger)

end Process

/-! ## Minutes -/

theorem hour_eq (time : NaiveTime) : hour time = minuteOfDay time / 60 :=
  (Nat.div_div_eq_div_mul time 60000000000 60).symm

theorem minuteOf_eq (time : NaiveTime) : minuteOf time = minuteOfDay time % 60 := rfl

theorem timesMatch_iff {a b : NaiveTime} : timesMatch a b = true ↔ minuteOfDay a = minuteOfDay b := by
  simp only [timesMatch, hour_eq, minuteOf_eq, Bool.and_eq_true, beq_iff_eq]
  omega

theorem minuteOfDay_withSecondZero (time : NaiveTime) :
    minuteOfDay (withSecondZero time) = minuteOfDay time := by
  simp only [minuteOfDay, withSecondZero, secondOf]
  omega

theorem minuteOfDay_timeOf_lt (naive : Int) : minuteOfDay (timeOf naive) < 1440 := by
  simp only [minuteOfDay, timeOf, day, second]
  omega

theorem stripSeconds_eq {time : NaiveTime} (inDay : minuteOfDay time < 1440) :
    stripSeconds time = minuteOfDay time * 60000000000 := by
  rw [stripSeconds, hour_eq, minuteOf_eq, if_pos (by omega)]
  change (_ : Nat) = _
  omega

/-- The catch-up's window has the present minute in it, wherever it starts. -/
theorem inCatchupWindow_now {trigger now : NaiveTime} (windowStart : NaiveTime)
    (inDay : minuteOfDay now < 1440) (reads : minuteOfDay trigger = minuteOfDay now) :
    inCatchupWindow trigger windowStart (stripSeconds now) = true := by
  have same : stripSeconds trigger = stripSeconds now := by
    rw [stripSeconds_eq (reads ▸ inDay), stripSeconds_eq inDay, reads]
  simp only [inCatchupWindow, same]
  split <;> simp_all

/-- Minutes past are whole minutes before the present one, and none before it
only for the time the clock reads now. -/
theorem lastReading_eq (settings : Settings) (now : Int) (time : NaiveTime) :
    ∃ ago : Nat, lastReading settings now time = minuteStart now - ago * minute ∧
      (ago = 0 ↔ minuteOfDay time = minuteOfDay (timeOf (settings.naiveLocal now))) := by
  have inDay := minuteOfDay_timeOf_lt (settings.naiveLocal now)
  refine ⟨_, rfl, ?_⟩
  split <;> omega

theorem minuteStart_mono {a b : Int} (before : a ≤ b) : minuteStart a ≤ minuteStart b := by
  simp only [minuteStart, minute, second]
  omega

/-- A tick that follows another is in a later minute. -/
theorem minuteStart_lt_of_follows {settings : Settings} {a b : Int}
    (follows : Follows settings a b) : minuteStart a < minuteStart b := by
  unfold Follows at follows
  change (_ : Int) ≤ _ at follows
  simp only [ secsUntilNextMinute, secondOf, timeOf, Settings.naiveLocal, day, minute,
    second] at follows
  simp only [minuteStart, minute, second]
  omega

end HomeCore.Scheduler

/-! A trigger is fired twice for a minute only where the first tick is in the
minute of the catch-up, whose window ends with it. -/
namespace HomeCore.Scheduler

section Passes
variable {settings : Settings} {pass : Pass} {trigger : Trigger} {time : NaiveTime}

def dayAllowed (settings : Settings) (pass : Pass) : Trigger → Bool
  | .timeOfDay _ days => days.isEmpty || days.contains (weekdayOf (pass.naive settings))
  | _ => true

theorem tickDue_iff (hasTime : clockTime settings pass trigger = some time) :
    tickDue settings pass none trigger = true ↔
      minuteOfDay time = minuteOfDay (timeOf (pass.naive settings)) ∧
        dayAllowed settings pass trigger = true := by
  cases trigger with
  | timeOfDay moment days =>
    cases hasTime
    simp only [tickDue, dayAllowed, Bool.and_eq_true, timesMatch_iff, minuteOfDay_withSecondZero]
  | sunEvent event offsetMinutes =>
    simp only [clockTime] at hasTime
    simp only [tickDue, dayAllowed, hasTime, Option.any_some, timesMatch_iff,
      minuteOfDay_withSecondZero, and_true]
  | _ => cases hasTime

theorem catchupDue_iff (hasTime : clockTime settings pass trigger = some time) :
    catchupDue settings pass trigger = true ↔
      inCatchupWindow time (stripSeconds (timeOf (settings.naiveLocal (pass.windowStart settings))))
        (stripSeconds (timeOf (pass.naive settings))) = true ∧
        dayAllowed settings pass trigger = true := by
  cases trigger with
  | timeOfDay moment days =>
    cases hasTime
    simp only [catchupDue, dayAllowed, Bool.and_eq_true, and_comm]
  | sunEvent event offsetMinutes =>
    simp only [clockTime] at hasTime
    simp only [catchupDue, dayAllowed, hasTime, Option.any_some, and_true]
  | _ => cases hasTime

theorem lastReading_now {now : Int} :
    lastReading settings now time = minuteStart now ↔
      minuteOfDay time = minuteOfDay (timeOf (settings.naiveLocal now)) := by
  obtain ⟨ago, readingEq, isNow⟩ := lastReading_eq settings now time
  rw [readingEq, ← isNow]
  simp only [minute, second]
  omega

/-- For the minute it runs in, the catch-up fires what a tick would. -/
theorem catchupFires_now (ruleId : Uuid) :
    CatchupFires settings pass ⟨ruleId, trigger, minuteStart pass.now⟩ ↔
      pass.DueNow settings ruleId trigger := by
  constructor
  · rintro ⟨has, due, time, hasTime, scheduled⟩
    have reads := lastReading_now.mp scheduled.symm
    have allowed := ((catchupDue_iff hasTime).mp due).2
    exact ⟨has, Option.isSome_of_mem hasTime, (tickDue_iff hasTime).mpr ⟨reads, allowed⟩⟩
  · rintro ⟨has, isSome, due⟩
    obtain ⟨time, hasTime⟩ := Option.isSome_iff_exists.mp isSome
    obtain ⟨reads, allowed⟩ := (tickDue_iff hasTime).mp due
    have within := inCatchupWindow_now
      (stripSeconds (timeOf (settings.naiveLocal (pass.windowStart settings))))
      (minuteOfDay_timeOf_lt (pass.naive settings)) reads
    exact ⟨has, (catchupDue_iff hasTime).mpr ⟨within, allowed⟩, time, hasTime,
      (lastReading_now.mpr reads).symm⟩

theorem tickDue_lastFire (lastFire : Option Int) (hasTime : (clockTime settings pass trigger).isSome = true) :
    tickDue settings pass lastFire trigger = tickDue settings pass none trigger := by
  cases trigger <;> first | rfl | cases hasTime

/-- A pass publishes each rule that it finds due, whatever it has published and
recorded by then. -/
theorem mem_foldl_rules {visit : List Uuid × PeriodicFires → Rule → List Uuid × PeriodicFires}
    {rules : List Rule} {rule : Rule}
    (keeps : ∀ done rule id, id ∈ done.1 → id ∈ (visit done rule).1)
    (publishes : ∀ done, rule.id ∈ (visit done rule).1) (member : rule ∈ rules)
    (start : List Uuid × PeriodicFires) : rule.id ∈ (rules.foldl visit start).1 := by
  have kept : ∀ (rules : List Rule) (start : List Uuid × PeriodicFires) (id : Uuid), id ∈ start.1 →
      id ∈ (rules.foldl visit start).1 := by
    intro rules
    induction rules with
    | nil => exact fun _ _ => id
    | cons first rest ih =>
      intro start id fired
      exact ih _ id (keeps start first id fired)
  induction rules generalizing start with
  | nil => cases member
  | cons first rest ih =>
    rcases List.mem_cons.mp member with rfl | later
    · exact kept rest _ rule.id (publishes start)
    · exact ih later _

/-- A tick publishes the rule of every trigger it fires. -/
theorem TickFires.published {firing : Firing} (fires : TickFires settings pass firing)
    (periods : PeriodicFires) : firing.ruleId ∈ (tick settings pass periods).1 := by
  obtain ⟨⟨⟨rule, isRule, enabled, idEq, isTrigger⟩, hasTime, due⟩, _⟩ := fires
  rw [← idEq]
  refine mem_foldl_rules ?_ ?_ isRule ([], periods)
  · intro done other id fired
    unfold tickRule
    split
    · exact List.mem_append_left _ fired
    · exact fired
  · intro done
    have anyDue : rule.allTriggers.any (tickDue settings pass (done.2 rule.id)) = true :=
      List.any_eq_true.mpr ⟨firing.trigger, isTrigger, (tickDue_lastFire _ hasTime).trans due⟩
    simp [tickRule, enabled, anyDue]

/-- And so does the catch-up. -/
theorem CatchupFires.published {firing : Firing} (fires : CatchupFires settings pass firing)
    (periods : PeriodicFires) : firing.ruleId ∈ (fireCatchup settings pass periods).1 := by
  obtain ⟨⟨rule, isRule, enabled, idEq, isTrigger⟩, due, _⟩ := fires
  rw [← idEq]
  refine mem_foldl_rules ?_ ?_ isRule ([], periods)
  · intro done other id fired
    unfold catchupRule
    split
    · split
      · exact List.mem_append_left _ fired
      · exact fired
    · exact fired
  · intro done
    have anyDue : rule.allTriggers.any (catchupDue settings pass) = true :=
      List.any_eq_true.mpr ⟨firing.trigger, isTrigger, due⟩
    simp [catchupRule, enabled, anyDue]

/-- What the catch-up fires is for its own minute or an earlier one. -/
theorem CatchupFires.scheduled_le {firing : Firing} (fires : CatchupFires settings pass firing) :
    firing.scheduled ≤ minuteStart pass.now := by
  obtain ⟨_, _, time, _, scheduled⟩ := fires
  obtain ⟨ago, readingEq, _⟩ := lastReading_eq settings pass.now time
  rw [scheduled, readingEq]
  simp only [minute, second]
  omega

end Passes

namespace Process
variable {process : Process}

/-- The ticks of a process are in ever later minutes. -/
theorem Admissible.minutes (admissible : process.Admissible) :
    process.ticks.Pairwise fun earlier later => minuteStart earlier.now < minuteStart later.now := by
  have chain : process.ticks.IsChain fun earlier later =>
      minuteStart earlier.now < minuteStart later.now :=
    admissible.waits.imp fun _ _ => minuteStart_lt_of_follows
  have trans : IsTrans Pass fun earlier later => minuteStart earlier.now < minuteStart later.now :=
    ⟨fun _ _ _ first second => first.trans second⟩
  exact List.isChain_iff_pairwise.mp chain

/-- A tick repeats what the catch-up fired only in the catch-up's own minute, and
only the first tick can be in it. -/
theorem Admissible.repeats (admissible : process.Admissible) {tick : Pass} {firing : Firing}
    (isTick : tick ∈ process.ticks) (caughtUp : CatchupFires process.settings process.catchup firing)
    (ticked : TickFires process.settings tick firing) :
    process.ticks.head? = some tick ∧ minuteStart process.catchup.now = minuteStart tick.now ∧
      firing.scheduled = minuteStart process.catchup.now := by
  have minutes := admissible.minutes
  have starts := admissible.starts
  cases ticks : process.ticks with
  | nil => simp [ticks] at isTick
  | cons first rest =>
    rw [ticks] at minutes isTick starts
    have notBefore := minuteStart_mono (starts first rfl)
    have own := caughtUp.scheduled_le
    rw [ticked.2] at own ⊢
    rcases List.mem_cons.mp isTick with rfl | later
    · have same : minuteStart tick.now = minuteStart process.catchup.now := by omega
      exact ⟨rfl, same.symm, same⟩
    · have after := List.rel_of_pairwise_cons minutes later
      omega

end Process

/-- Over every admissible process, each TimeOfDay or SunEvent trigger is fired at
most once for each scheduled minute if and only if the start is clean. -/
theorem fires_once_iff (process : Process) (admissible : process.Admissible) :
    process.FiresOnce ↔ process.StartsClean := by
  unfold Process.FiresOnce Process.passes
  have ticksOnce : (process.ticks.map (TickFires process.settings)).Pairwise
      fun earlier later => ∀ firing, ¬ (earlier firing ∧ later firing) := by
    refine List.pairwise_map.mpr (admissible.minutes.imp ?_)
    rintro earlier later before firing ⟨first, second⟩
    rw [← first.2, ← second.2] at before
    exact lt_irrefl _ before
  by_cases enabled : 0 < process.settings.catchupWindowMinutes
  · rw [if_pos enabled, List.singleton_append, List.pairwise_cons, and_iff_left ticksOnce]
    constructor
    · rintro apart - first isFirst sameMinute ruleId trigger ⟨caughtUp, ticked⟩
      refine apart _ (List.mem_map.mpr ⟨first, List.mem_of_head? isFirst, rfl⟩)
        ⟨ruleId, trigger, minuteStart process.catchup.now⟩ ⟨?_, ticked, sameMinute⟩
      exact (catchupFires_now ruleId).mpr caughtUp
    · rintro clean _ isPass ⟨ruleId, trigger, scheduled⟩ ⟨caughtUp, ticked⟩
      obtain ⟨tick, isTick, rfl⟩ := List.mem_map.mp isPass
      obtain ⟨isFirst, sameMinute, isOwn⟩ := admissible.repeats isTick caughtUp ticked
      obtain rfl : scheduled = minuteStart process.catchup.now := isOwn
      exact clean enabled tick isFirst sameMinute ruleId trigger
        ⟨(catchupFires_now ruleId).mp caughtUp, ticked.1⟩
  · rw [if_neg enabled, List.nil_append]
    exact iff_of_true ticksOnce fun isEnabled => absurd isEnabled enabled

/-- A rule for eight o'clock. -/
def wakeUp : Rule := .minimal ⟨7⟩ (.timeOfDay (8 * 3600000000000) []) []

def passAt (seconds : Int) : Pass where
  now := seconds * second
  rules := [wakeUp]
  sun := fun _ _ _ => none
  instant := seconds * second

/-- A process that starts five seconds after eight, in UTC. -/
def startsAtEight (ticks : List Pass) : Process where
  settings := ⟨fun _ => 0, fun _ => none, 15⟩
  catchup := passAt (8 * 3600 + 5)
  ticks := ticks

/-- The catch-up and the first tick both fire the rule for eight. -/
theorem wake_up_fires_twice :
    let process := startsAtEight [passAt (8 * 3600 + 5)]
    process.Admissible ∧
      ((fireCatchup process.settings process.catchup fun _ => none).1 = [⟨7⟩] ∧
        process.ticks.map (fun pass => (tick process.settings pass fun _ => none).1) = [[⟨7⟩]]) ∧
      ¬ process.FiresOnce := by
  intro process
  refine ⟨⟨?_, List.isChain_singleton _⟩, by decide, ?_⟩
  · intro first isFirst
    cases isFirst
    exact le_refl _
  · intro once
    have has : (passAt (8 * 3600 + 5)).HasTrigger ⟨7⟩ wakeUp.trigger :=
      ⟨wakeUp, List.mem_singleton_self _, rfl, rfl, List.mem_cons_self⟩
    refine List.rel_of_pairwise_cons once (List.mem_singleton_self _)
      ⟨⟨7⟩, wakeUp.trigger, 8 * 3600 * second⟩ ⟨⟨has, ?_, _, rfl, ?_⟩, ⟨has, rfl, ?_⟩, ?_⟩
    all_goals decide

/-- Where the first tick is in the next minute, it is fired once. -/
theorem wake_up_fires_once : (startsAtEight [passAt (8 * 3600 + 60)]).FiresOnce := by
  refine (fires_once_iff _ ⟨?_, List.isChain_singleton _⟩).mpr ?_
  · intro first isFirst
    cases isFirst
    exact (by decide : (8 * 3600 + 5) * second ≤ (8 * 3600 + 60) * second)
  · intro _ first isFirst sameMinute
    cases isFirst
    exact absurd sameMinute (by decide)

end HomeCore.Scheduler
