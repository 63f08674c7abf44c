import HomeCore.Scheduling.Scheduler

/-! A rule with a periodic trigger, over the ticks of a scheduler. A tick comes at the start
of a minute, or a part of a second after it. One record of a last firing serves all of the
rule's triggers. -/
namespace HomeCore.Scheduler

/-- Ticks with no end, one in each minute, and a rule that each of them finds. -/
structure PeriodicRun where
  settings : Settings
  ticks : Nat → Pass
  /-- What the steady clock reads at the start of the first tick's minute. -/
  start : Int
  delay : Nat → Int
  rule : Rule
  everyN : Nat
  unit : PeriodicUnit
  /-- The firings before the first tick. -/
  fires : PeriodicFires
  paced : ∀ i, (ticks i).instant = start + i * minute + delay i
  delay_nonneg : ∀ i, 0 ≤ delay i
  delay_lt : ∀ i, delay i < second
  enabled : rule.enabled = true
  isTrigger : .periodic everyN unit ∈ rule.allTriggers
  found : ∀ i, rule ∈ (ticks i).rules
  distinct : ∀ i, ((ticks i).rules.map (·.id)).Nodup

namespace PeriodicRun

/-- The firings recorded when a tick comes. -/
def firesBefore (run : PeriodicRun) : Nat → PeriodicFires
  | 0 => run.fires
  | i + 1 => (tick run.settings (run.ticks i) (run.firesBefore i)).2

variable (run : PeriodicRun)

/-- The period, in ticks. -/
def period : Nat := periodicToSecs run.everyN run.unit / 60

/-- The tick publishes the rule. -/
def Fires (i : Nat) : Prop :=
  run.rule.id ∈ (tick run.settings (run.ticks i) (run.firesBefore i)).1

/-- The trigger is due at the tick, by what is recorded then. -/
def Due (i : Nat) : Prop :=
  tickDue run.settings (run.ticks i) (run.firesBefore i run.rule.id) (.periodic run.everyN run.unit) = true

/-- The tick publishes the rule, and the periodic trigger is due. -/
def FiresPeriodically (i : Nat) : Prop := run.Fires i ∧ run.Due i

/-- The period that was running when the first tick came is over. -/
def PeriodOver (i : Nat) : Prop :=
  tickDue run.settings (run.ticks i) (run.fires run.rule.id) (.periodic run.everyN run.unit) = true

/-- A periodic firing is followed by the next one a period later, and the first comes no later
than the end of the period that was running. -/
structure KeepsPeriod : Prop where
  next : ∀ i, run.FiresPeriodically i → run.FiresPeriodically (i + run.period) ∧
    ∀ j, i < j → j < i + run.period → ¬ run.FiresPeriodically j
  first : ∀ i, run.PeriodOver i → ∃ j ≤ i, run.FiresPeriodically j

/-- Some trigger of the rule is due at the tick. -/
def AnyDue (i : Nat) : Prop :=
  run.rule.allTriggers.any (tickDue run.settings (run.ticks i) (run.firesBefore i run.rule.id)) = true

/-- A tick comes more than a period after another, or exactly one and is not evaluated sooner
in its minute. -/
def Elapsed (earlier later : Nat) : Prop :=
  earlier + run.period < later ∨
    earlier + run.period = later ∧ run.delay earlier ≤ run.delay later

/-- While a period runs no trigger of the rule is due, and the tick that ends it is evaluated no
sooner in its minute than the one that began it. -/
structure Undisturbed : Prop where
  next : ∀ i, run.Due i → run.delay i ≤ run.delay (i + run.period) ∧
    ∀ j, i < j → j < i + run.period → ¬ run.AnyDue j
  first : ∀ i, run.PeriodOver i → (∀ j < i, ¬ run.Due j) →
    ∀ j < i, run.AnyDue j → run.Elapsed j i

end PeriodicRun
/-! A periodic rule keeps its period exactly if none of its other triggers is due while a period
runs and no tick comes sooner in its minute than the firing that it is to follow. -/

/-! ## One tick -/

section Tick
variable {settings : Settings} {pass : Pass} {rule : Rule} {done : List Uuid × PeriodicFires}

/-- A rule leaves what others have published and recorded. -/
theorem tickRule_other {id : Uuid} (other : id ≠ rule.id) :
    (id ∈ (tickRule settings pass done rule).1 ↔ id ∈ done.1) ∧
      (tickRule settings pass done rule).2 id = done.2 id := by
  rw [tickRule]
  split
  · refine ⟨?_, ?_⟩
    · simp [other]
    · rw [PeriodicFires.startAnew]
      split
      · exact if_neg other
      · rfl
  · exact ⟨Iff.rfl, rfl⟩

theorem foldl_tickRule_other {id : Uuid} (rules : List Rule) (done : List Uuid × PeriodicFires)
    (others : ∀ rule ∈ rules, id ≠ rule.id) :
    (id ∈ (rules.foldl (tickRule settings pass) done).1 ↔ id ∈ done.1) ∧
      (rules.foldl (tickRule settings pass) done).2 id = done.2 id := by
  induction rules generalizing done with
  | nil => exact ⟨Iff.rfl, rfl⟩
  | cons first rest ih =>
    obtain ⟨published, recorded⟩ := @tickRule_other settings pass first done id (others first List.mem_cons_self)
    obtain ⟨publishedLater, recordedLater⟩ := ih (tickRule settings pass done first) fun rule member =>
      others rule (List.mem_cons_of_mem first member)
    exact ⟨publishedLater.trans published, recordedLater.trans recorded⟩

/-- A tick treats an enabled periodic rule by what was recorded of it before. -/
theorem tick_rule (settings : Settings) (fires : PeriodicFires) (enabled : rule.enabled = true)
    (periodic : Rule.isPeriodic rule = true) (found : rule ∈ pass.rules)
    (distinct : (pass.rules.map (·.id)).Nodup) :
    (rule.id ∈ (tick settings pass fires).1 ↔
        rule.allTriggers.any (tickDue settings pass (fires rule.id)) = true) ∧
      (tick settings pass fires).2 rule.id =
        if rule.allTriggers.any (tickDue settings pass (fires rule.id)) then some pass.instant
        else fires rule.id := by
  obtain ⟨before, after, split⟩ := List.append_of_mem found
  rw [split, List.map_append, List.map_cons, List.nodup_middle, List.nodup_cons, List.mem_append,
    not_or] at distinct
  obtain ⟨⟨notBefore, notAfter⟩, _⟩ := distinct
  have othersBefore : ∀ other ∈ before, rule.id ≠ other.id := fun other member same =>
    notBefore (List.mem_map.mpr ⟨other, member, same.symm⟩)
  have othersAfter : ∀ other ∈ after, rule.id ≠ other.id := fun other member same =>
    notAfter (List.mem_map.mpr ⟨other, member, same.symm⟩)
  obtain ⟨published, recorded⟩ := @foldl_tickRule_other settings pass rule.id before ([], fires) othersBefore
  rw [tick, split, List.foldl_append, List.foldl_cons]
  generalize before.foldl (tickRule settings pass) ([], fires) = done at published recorded ⊢
  obtain ⟨publishedLater, recordedLater⟩ :=
    foldl_tickRule_other after (tickRule settings pass done rule) othersAfter
  rw [publishedLater, recordedLater, tickRule, recorded, enabled, Bool.true_and]
  split
  · next due =>
    refine ⟨?_, ?_⟩
    · simp [due]
    · rw [PeriodicFires.startAnew, if_pos periodic]
      exact if_pos rfl
  · next idle =>
    refine ⟨?_, ?_⟩
    · rw [published]
      exact ⟨fun member => (List.not_mem_nil member).elim, fun due => absurd due idle⟩
    · exact recorded

end Tick

theorem periodicToSecs_minutes (everyN : Nat) (unit : PeriodicUnit) :
    60 ≤ periodicToSecs everyN unit ∧ periodicToSecs everyN unit % 60 = 0 := by
  cases unit <;> simp only [periodicToSecs] <;> omega

namespace PeriodicRun
variable {run : PeriodicRun} {i k : Nat}

theorem period_pos (run : PeriodicRun) : 0 < run.period := by
  have minutes := periodicToSecs_minutes run.everyN run.unit
  rw [period]
  omega

theorem isPeriodic (run : PeriodicRun) : Rule.isPeriodic run.rule = true :=
  List.any_eq_true.mpr ⟨_, run.isTrigger, rfl⟩

theorem fires_iff : run.Fires i ↔ run.AnyDue i :=
  (tick_rule run.settings (run.firesBefore i) run.enabled run.isPeriodic (run.found i) (run.distinct i)).1

theorem anyDue_of_due (due : run.Due i) : run.AnyDue i := List.any_eq_true.mpr ⟨_, run.isTrigger, due⟩

theorem firesPeriodically_iff : run.FiresPeriodically i ↔ run.Due i :=
  ⟨And.right, fun due => ⟨fires_iff.mpr (anyDue_of_due due), due⟩⟩

open Classical in
theorem firesBefore_succ (run : PeriodicRun) (i : Nat) : run.firesBefore (i + 1) run.rule.id =
    if run.AnyDue i then some (run.ticks i).instant else run.firesBefore i run.rule.id := by
  have recorded := (tick_rule run.settings (run.firesBefore i) run.enabled run.isPeriodic (run.found i)
    (run.distinct i)).2
  rw [firesBefore, recorded]
  congr

theorem firesBefore_succ_of_anyDue (due : run.AnyDue i) :
    run.firesBefore (i + 1) run.rule.id = some (run.ticks i).instant := by
  rw [firesBefore_succ, if_pos due]

theorem firesBefore_succ_of_not_anyDue (idle : ¬ run.AnyDue i) :
    run.firesBefore (i + 1) run.rule.id = run.firesBefore i run.rule.id := by
  rw [firesBefore_succ, if_neg idle]

/-! ## The last firing -/

/-- What is recorded while nothing is due stays. -/
theorem firesBefore_eq_of_idle {j : Nat} (before : j ≤ k)
    (idle : ∀ between, j ≤ between → between < k → ¬ run.AnyDue between) :
    run.firesBefore k run.rule.id = run.firesBefore j run.rule.id := by
  induction k, before using Nat.le_induction with
  | base => rfl
  | succ k before ih =>
    rw [firesBefore_succ_of_not_anyDue (idle k before (Nat.lt_succ_self k))]
    exact ih fun between after below => idle between after (Nat.lt_succ_of_lt below)

/-- The instants of two ticks are a period apart exactly if the ticks are. -/
theorem elapsed_iff (earlier later : Nat) :
    (periodicToSecs run.everyN run.unit * second : Int) ≤
        (run.ticks later).instant - (run.ticks earlier).instant ↔
      run.Elapsed earlier later := by
  have minutes := periodicToSecs_minutes run.everyN run.unit
  have bounds := And.intro (run.delay_nonneg earlier) (run.delay_lt earlier)
  have laterBounds := And.intro (run.delay_nonneg later) (run.delay_lt later)
  rw [run.paced, run.paced, Elapsed, period]
  simp only [minute, second] at bounds laterBounds ⊢
  omega

/-- After a firing with none since, the trigger is due exactly if a period has elapsed. -/
theorem due_iff_elapsed (before : i < k) (fired : run.AnyDue i)
    (idle : ∀ j, i < j → j < k → ¬ run.AnyDue j) : run.Due k ↔ run.Elapsed i k := by
  have recorded : run.firesBefore k run.rule.id = some (run.ticks i).instant := by
    rw [firesBefore_eq_of_idle (Nat.succ_le_of_lt before) fun j after below => idle j after below]
    exact firesBefore_succ_of_anyDue fired
  rw [Due, recorded, tickDue, decide_eq_true_iff]
  exact elapsed_iff i k

/-- Of the ticks before one at which the rule was published, there is a last. -/
theorem exists_last_firing (before : i < k) (fired : run.AnyDue i) :
    ∃ last, i ≤ last ∧ last < k ∧ run.AnyDue last ∧ ∀ j, last < j → j < k → ¬ run.AnyDue j := by
  induction k with
  | zero => exact absurd before (Nat.not_lt_zero i)
  | succ k ih =>
    have notAfter := Nat.le_of_lt_succ before
    by_cases due : run.AnyDue k
    · exact ⟨k, notAfter, Nat.lt_succ_self k, due, fun j after below => by omega⟩
    · have earlier : i < k := Nat.lt_of_le_of_ne notAfter fun same => due (same ▸ fired)
      obtain ⟨last, notBefore, below, isFired, idle⟩ := ih earlier
      refine ⟨last, notBefore, Nat.lt_succ_of_lt below, isFired, fun j after isBelow => ?_⟩
      rcases Nat.lt_succ_iff_lt_or_eq.mp isBelow with earlier | rfl
      · exact idle j after earlier
      · exact due

/-- A period that has elapsed since a tick has since those before. -/
theorem Elapsed.earlier {j : Nat} (elapsed : run.Elapsed j k) (before : i < j) : run.Elapsed i k := by
  rcases elapsed with past | ⟨exactly, _⟩
  · exact .inl (by omega)
  · exact .inl (by omega)

/-- Where the trigger is due, a period has elapsed since every firing before. -/
theorem elapsed_of_due (due : run.Due k) (before : i < k) (fired : run.AnyDue i) : run.Elapsed i k := by
  obtain ⟨last, notBefore, below, isFired, idle⟩ := exists_last_firing before fired
  have elapsed := (due_iff_elapsed below isFired idle).mp due
  rcases Nat.eq_or_lt_of_le notBefore with rfl | later
  · exact elapsed
  · exact elapsed.earlier later

/-- Where a period has elapsed since every firing of the run, the trigger is due if the period
that was running at first is over. -/
theorem due_of_elapsed (isOver : run.PeriodOver k) (elapsed : ∀ j < k, run.AnyDue j → run.Elapsed j k) :
    run.Due k := by
  by_cases fired : ∃ i < k, run.AnyDue i
  · obtain ⟨i, before, isFired⟩ := fired
    obtain ⟨last, _, below, isLast, idle⟩ := exists_last_firing before isFired
    exact (due_iff_elapsed below isLast idle).mpr (elapsed last below isLast)
  · push Not at fired
    have recorded := firesBefore_eq_of_idle (Nat.zero_le k) fun j _ below => fired j below
    rw [Due, recorded]
    exact isOver

/-! ## The whole run -/

/-- A firing is followed by one a period later, and by none before, exactly if no trigger is due
in between and the later tick is not evaluated sooner. -/
theorem next_iff (due : run.Due i) :
    (run.Due (i + run.period) ∧ ∀ j, i < j → j < i + run.period → ¬ run.Due j) ↔
      run.delay i ≤ run.delay (i + run.period) ∧
        ∀ j, i < j → j < i + run.period → ¬ run.AnyDue j := by
  have positive := run.period_pos
  have fired := anyDue_of_due due
  have before : i < i + run.period := by omega
  constructor
  · rintro ⟨dueNext, _⟩
    refine ⟨?_, fun j after below anyDue => ?_⟩
    · rcases elapsed_of_due dueNext before fired with past | ⟨_, noSooner⟩
      · exact absurd past (lt_irrefl _)
      · exact noSooner
    · rcases elapsed_of_due dueNext below anyDue with past | ⟨exactly, _⟩
      · omega
      · omega
  · rintro ⟨noSooner, idle⟩
    refine ⟨?_, fun j after below due => idle j after below (anyDue_of_due due)⟩
    exact (due_iff_elapsed before fired idle).mpr (.inr ⟨rfl, noSooner⟩)

/-- The first firing comes in time exactly if a period has elapsed, when the one running at
first is over, since all that was fired before. -/
theorem first_iff :
    (∀ i, run.PeriodOver i → ∃ j ≤ i, run.Due j) ↔
      ∀ i, run.PeriodOver i → (∀ j < i, ¬ run.Due j) → ∀ j < i, run.AnyDue j → run.Elapsed j i := by
  constructor
  · intro inTime i isOver none j before anyDue
    obtain ⟨first, notAfter, due⟩ := inTime i isOver
    rcases Nat.lt_or_eq_of_le notAfter with earlier | rfl
    · exact absurd due (none first earlier)
    · exact elapsed_of_due due before anyDue
  · intro undisturbed i isOver
    by_cases some : ∃ j < i, run.Due j
    · obtain ⟨j, before, due⟩ := some
      exact ⟨j, le_of_lt before, due⟩
    · push Not at some
      exact ⟨i, le_refl i, due_of_elapsed isOver (undisturbed i isOver some)⟩

end PeriodicRun

/-- Over every run of ticks, a periodic rule keeps its period if and only if it is undisturbed. -/
theorem keeps_period_iff (run : PeriodicRun) : run.KeepsPeriod ↔ run.Undisturbed := by
  constructor
  · intro keeps
    refine ⟨fun i due => ?_, ?_⟩
    · refine (PeriodicRun.next_iff due).mp ?_
      have next := keeps.next i (PeriodicRun.firesPeriodically_iff.mpr due)
      simp only [PeriodicRun.firesPeriodically_iff] at next
      exact next
    · refine PeriodicRun.first_iff.mp fun i isOver => ?_
      obtain ⟨j, notAfter, fires⟩ := keeps.first i isOver
      exact ⟨j, notAfter, fires.2⟩
  · intro undisturbed
    refine ⟨fun i fires => ?_, fun i isOver => ?_⟩
    · simp only [PeriodicRun.firesPeriodically_iff]
      exact (PeriodicRun.next_iff fires.2).mpr (undisturbed.next i fires.2)
    · obtain ⟨j, notAfter, due⟩ := PeriodicRun.first_iff.mpr undisturbed.first i isOver
      exact ⟨j, notAfter, PeriodicRun.firesPeriodically_iff.mpr due⟩

/-- Every two minutes, and at one minute past midnight. -/
def everyTwoMinutes : Rule :=
  { Rule.minimal ⟨1⟩ (.periodic 2 .minutes) [] with
    triggers := [.periodic 2 .minutes, .timeOfDay 60000000000 []] }

/-- From midnight, each tick at the start of its minute. -/
def fromMidnight : PeriodicRun where
  settings := ⟨fun _ => 0, fun _ => none, 0⟩
  ticks i := ⟨i * minute, [everyTwoMinutes], fun _ _ _ => none, i * minute⟩
  start := 0
  delay _ := 0
  rule := everyTwoMinutes
  everyN := 2
  unit := .minutes
  fires _ := none
  paced i := by simp
  delay_nonneg i := le_refl 0
  delay_lt i := by decide
  enabled := rfl
  isTrigger := List.mem_cons_self
  found i := List.mem_cons_self
  distinct i := List.nodup_singleton _

theorem other_moment_delays :
    fromMidnight.FiresPeriodically 0 ∧ ¬ fromMidnight.FiresPeriodically 2 ∧ ¬ fromMidnight.KeepsPeriod := by
  have first : fromMidnight.FiresPeriodically 0 := by
    rw [PeriodicRun.firesPeriodically_iff, PeriodicRun.Due]
    decide
  have later : ¬ fromMidnight.FiresPeriodically 2 := by
    rw [PeriodicRun.firesPeriodically_iff, PeriodicRun.Due]
    decide
  exact ⟨first, later, fun keeps => later (keeps.next 0 first).1⟩

end HomeCore.Scheduler
