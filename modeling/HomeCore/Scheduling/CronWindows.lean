import HomeCore.Scheduling.ScheduledMinutes
import HomeCore.Windows

/-! The windows that the ticks look for cron occurrences in. Each reaches back a
minute from its own tick, and so meets the one before it only where the two ticks
are a minute apart. -/
namespace HomeCore.Scheduler

/-- A tick fires for an occurrence in its window. -/
def FiresFor (settings : Settings) (expression : String) (now occurrence : Int) : Prop :=
  cronFiresNow settings expression now = true ∧ occurrence ∈ Set.Ioc (now - minute) now

/-- What a tick and its wait take beyond the wait itself. -/
def evaluationTime (settings : Settings) (earlier later : Int) : Int :=
  later - (earlier + secsUntilNextMinute settings earlier * second)

section Windows
variable {settings : Settings} {expression : String} {schedule : Schedule}

/-- A tick fires exactly where an occurrence is in its window. -/
theorem cronFiresNow_iff (parsed : settings.parseCron expression = some schedule) (now : Int) :
    cronFiresNow settings expression now = true ↔
      ∃ occurrence, schedule.occurs occurrence ∧ occurrence ∈ Set.Ioc (now - minute) now := by
  simp only [cronFiresNow, cronFiredInWindow, parsed]
  cases next : schedule.after (now - minute) with
  | none =>
    simp only [Option.any_none, Bool.false_eq_true, false_iff, not_exists, not_and]
    intro occurrence occurs within
    exact absurd within.1 (not_lt_of_ge (schedule.ends _ next occurrence occurs))
  | some first =>
    obtain ⟨occurs, after, least⟩ := schedule.least _ _ next
    simp only [Option.any_some, decide_eq_true_eq]
    constructor
    · intro before
      exact ⟨first, occurs, after, before⟩
    · rintro ⟨occurrence, isOccurrence, within⟩
      exact (least occurrence isOccurrence within.1).trans within.2

theorem firesFor_iff (parsed : settings.parseCron expression = some schedule) {now occurrence : Int}
    (occurs : schedule.occurs occurrence) :
    FiresFor settings expression now occurrence ↔ occurrence ∈ Set.Ioc (now - minute) now := by
  constructor
  · exact And.right
  · intro within
    exact ⟨(cronFiresNow_iff parsed now).mpr ⟨occurrence, occurs, within⟩, within⟩

end Windows

section Ticks
variable {settings : Settings} {ticks : Nat → Int}

theorem lt_of_follows {earlier later : Int} (follows : Follows settings earlier later) :
    earlier < later := by
  unfold Follows at follows
  change (_ : Int) ≤ _ at follows
  simp only [secsUntilNextMinute, secondOf, second] at follows
  omega

theorem minuteStart_add_minute {earlier later : Int} (follows : Follows settings earlier later) :
    minuteStart earlier + minute ≤ minuteStart later := by
  have later := minuteStart_lt_of_follows follows
  simp only [minuteStart, minute, second] at later ⊢
  omega

variable (follows : ∀ k, Follows settings (ticks k) (ticks (k + 1)))
include follows

theorem ticks_monotone : Monotone ticks :=
  monotone_nat_of_le_succ fun k => (lt_of_follows (follows k)).le

/-- Two ticks with one between them are more than a minute apart. -/
theorem ticks_apart (k : Nat) : ticks k ≤ ticks (k + 2) - minute := by
  have first := minuteStart_add_minute (follows k)
  have second : minuteStart (ticks (k + 1)) + minute ≤ minuteStart (ticks (k + 2)) :=
    minuteStart_add_minute (follows (k + 1))
  simp only [minuteStart, minute, HomeCore.second] at first second ⊢
  omega

theorem ticks_endless (moment : Int) : ∃ k, moment ≤ ticks k := by
  have grows : ∀ k : Nat, ticks 0 + k ≤ ticks k := by
    intro k
    induction k with
    | zero => simp
    | succ k ih =>
      have rises := lt_of_follows (follows k)
      omega
  refine ⟨(moment - ticks 0).toNat, ?_⟩
  have reached := grows (moment - ticks 0).toNat
  omega

end Ticks

/-- Over every run of ticks, every occurrence after the first tick is fired by
exactly one tick if and only if none lies in a gap between the windows of two
ticks or in an overlap of them. -/
theorem cron_windows_tile_iff (settings : Settings) (expression : String) (schedule : Schedule)
    (parsed : settings.parseCron expression = some schedule) (ticks : Nat → Int)
    (follows : ∀ k, Follows settings (ticks k) (ticks (k + 1))) :
    (∀ occurrence, schedule.occurs occurrence → ticks 0 < occurrence →
        ∃! k, FiresFor settings expression (ticks k) occurrence) ↔
      ∀ occurrence, schedule.occurs occurrence → ticks 0 < occurrence → ∀ k,
        ¬ (ticks k < occurrence ∧ occurrence ≤ ticks (k + 1) - minute) ∧
        ¬ (ticks (k + 1) - minute < occurrence ∧ occurrence ≤ ticks k) := by
  have rising := ticks_monotone follows
  have starts : Monotone fun k => ticks k - minute := fun _ _ before => Int.sub_le_sub_right (rising before) _
  refine Iff.trans ?_ (Windows.covered_once_iff starts rising (ticks_apart follows)
    (ticks_endless follows) schedule.occurs)
  refine forall₃_congr fun occurrence occurs _ => ?_
  simp only [firesFor_iff parsed occurs]

/-! ## Once a minute, at its first second -/

theorem least_secondOne (start occurrence : Int)
    (next : some (start + 1 + (second - start - 1) % minute) = some occurrence) :
    occurrence % minute = second ∧ start < occurrence ∧
      ∀ other, other % minute = second → start < other → occurrence ≤ other := by
  obtain rfl := Option.some.inj next
  simp only [minute, second]
  refine ⟨?_, ?_, ?_⟩
  · omega
  · omega
  · intro other occurs later
    omega

def secondOne : Schedule where
  occurs occurrence := occurrence % minute = second
  after start := some (start + 1 + (second - start - 1) % minute)
  least := least_secondOne
  ends := fun _ next => nomatch next

def everyMinute : Settings := ⟨fun _ => 0, fun _ => some secondOne, 0⟩

/-- Ticks that drift over a second: each is evaluated in two milliseconds or less. -/
def driftingTicks : Nat → Int
  | 0 => 999000000
  | 1 => 61001000000
  | k => k * minute + 3000000

/-- The wait is the same in every zone. -/
theorem secsUntilNextMinute_eq (settings : Settings) (now : Int) :
    secsUntilNextMinute settings now = 60 - now / second % 60 := by
  simp only [secsUntilNextMinute, secondOf, timeOf, Settings.naiveLocal, day, minute, second]
  omega

theorem evaluationTime_eq (settings : Settings) (earlier later : Int) :
    evaluationTime settings earlier later =
      later - (earlier + (60 - earlier / second % 60) * second) := by
  rw [evaluationTime, secsUntilNextMinute_eq]

theorem follows_iff (settings : Settings) (earlier later : Int) :
    Follows settings earlier later ↔ 0 ≤ evaluationTime settings earlier later := by
  unfold Follows evaluationTime
  exact sub_nonneg.symm

theorem evaluationTime_drifting (k : Nat) :
    0 ≤ evaluationTime everyMinute (driftingTicks k) (driftingTicks (k + 1)) ∧
      evaluationTime everyMinute (driftingTicks k) (driftingTicks (k + 1)) < minute := by
  rw [evaluationTime_eq]
  rcases k with _ | _ | k
  · decide
  · decide
  · simp only [driftingTicks, minute, second]
    push_cast
    omega

/-- One occurrence falls between two windows and is fired by no tick, and the next
one falls in two of them. -/
theorem drifting_ticks_miss_and_repeat :
    ((∀ k, Follows everyMinute (driftingTicks k) (driftingTicks (k + 1))) ∧
      ∀ k, evaluationTime everyMinute (driftingTicks k) (driftingTicks (k + 1)) < minute) ∧
    (secondOne.occurs second ∧ driftingTicks 0 < second ∧
      ∀ k, ¬ FiresFor everyMinute "1 * * * * *" (driftingTicks k) second) ∧
    secondOne.occurs (61 * second) ∧
      FiresFor everyMinute "1 * * * * *" (driftingTicks 1) (61 * second) ∧
      FiresFor everyMinute "1 * * * * *" (driftingTicks 2) (61 * second) := by
  refine ⟨⟨?_, ?_⟩, ⟨?_, ?_, ?_⟩, ?_, ⟨?_, ?_⟩, ?_, ?_⟩
  · exact fun k => (follows_iff _ _ _).mpr (evaluationTime_drifting k).1
  · exact fun k => (evaluationTime_drifting k).2
  · change second % minute = second
    decide
  · decide
  · rintro k ⟨_, after, before⟩
    rcases k with _ | _ | k
    · exact absurd before (by decide)
    · exact absurd after (by decide)
    · simp only [driftingTicks, minute, second] at after
      push_cast at after
      omega
  · change 61 * second % minute = second
    decide
  all_goals decide

def promptTicks (k : Nat) : Int := k * minute

/-- Ticks on the minute, evaluated in no time, fire each occurrence once. -/
theorem prompt_ticks_tile :
    (∀ k, Follows everyMinute (promptTicks k) (promptTicks (k + 1))) ∧
    ∀ occurrence, secondOne.occurs occurrence → promptTicks 0 < occurrence →
      ∃! k, FiresFor everyMinute "1 * * * * *" (promptTicks k) occurrence := by
  have follows : ∀ k, Follows everyMinute (promptTicks k) (promptTicks (k + 1)) := by
    intro k
    rw [follows_iff, evaluationTime_eq]
    simp only [promptTicks, minute, second]
    push_cast
    omega
  refine ⟨follows, (cron_windows_tile_iff everyMinute _ secondOne rfl promptTicks follows).mpr ?_⟩
  intro occurrence _ _ k
  simp only [promptTicks, minute, second]
  push_cast
  omega

end HomeCore.Scheduler
