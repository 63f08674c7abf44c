import HomeCore.Scheduling.ScheduledMinutes

/-! Which missed occurrences the catch-up fires. It looks at times of day, to the
minute, and at the weekday of the present day, so it is right about a window within
one day but for the minutes at its ends, and about one that crosses midnight only
where both days are among the trigger's. -/
namespace HomeCore.Scheduler

def weekdayOn (date : Int) : Weekday := weekdayOf (date * day)

/-- The trigger has the weekday of the date among its days. -/
def onDay (days : List Weekday) (date : Int) : Prop :=
  days.isEmpty = true ∨ days.contains (weekdayOn date) = true

/-- The occurrence of a date. -/
def occurrenceOn (time : NaiveTime) (date : Int) : Int := date * day + time

theorem weekdayOf_eq (naive : Int) : weekdayOf naive = weekdayOn (dateOf naive) := by
  have same : dateOf (dateOf naive * day) = dateOf naive := by
    simp only [dateOf, day, second]
    omega
  rw [weekdayOn, weekdayOf, weekdayOf, same]

section Passes
variable (settings : Settings) (pass : Pass) (time : NaiveTime) (days : List Weekday)

/-- The window's start by the clock on the wall. -/
def Pass.naiveStart : Int := settings.naiveLocal (pass.windowStart settings)

def Pass.today : Int := dateOf (pass.naive settings)

def Pass.presentMinute : Nat := minuteOfDay (timeOf (pass.naive settings))

def Pass.startMinute : Nat := minuteOfDay (timeOf (pass.naiveStart settings))

/-- An occurrence that the window has in it; the most recent one is in it where any is. -/
def InWindow (date : Int) : Prop :=
  onDay days date ∧
    occurrenceOn time date ∈ Set.Ioc (pass.naiveStart settings) (pass.naive settings)

def Missed : Prop := ∃ date, InWindow settings pass time days date

/-- The most recent occurrence up to the present. -/
def MostRecent (date : Int) : Prop :=
  onDay days date ∧ occurrenceOn time date ≤ pass.naive settings ∧
    ∀ later, onDay days later → occurrenceOn time later ≤ pass.naive settings → later ≤ date

/-- Going forward from the window's first minute, the clock shows the time's minute
no later than the present one. -/
def ClockMeets : Prop :=
  if pass.startMinute settings ≤ pass.presentMinute settings then
    pass.startMinute settings ≤ minuteOfDay time ∧ minuteOfDay time ≤ pass.presentMinute settings
  else pass.startMinute settings ≤ minuteOfDay time ∨ minuteOfDay time ≤ pass.presentMinute settings

theorem inCatchupWindow_iff (inDay : minuteOfDay time < 1440) :
    inCatchupWindow time (stripSeconds (timeOf (pass.naiveStart settings)))
      (stripSeconds (timeOf (pass.naive settings))) = true ↔ ClockMeets settings pass time := by
  have start := stripSeconds_eq (minuteOfDay_timeOf_lt (pass.naiveStart settings))
  have present := stripSeconds_eq (minuteOfDay_timeOf_lt (pass.naive settings))
  rw [inCatchupWindow, stripSeconds_eq inDay, start, present, ClockMeets, Pass.startMinute,
    Pass.presentMinute]
  have scaled (a b : Nat) : a * 60000000000 ≤ b * 60000000000 ↔ a ≤ b := by omega
  simp only [scaled]
  split <;> simp

/-- The catch-up's answer for a time of day. -/
theorem catchupDue_timeOfDay (inDay : minuteOfDay time < 1440) :
    catchupDue settings pass (.timeOfDay time days) = true ↔
      onDay days (pass.today settings) ∧ ClockMeets settings pass time := by
  rw [catchupDue, Bool.and_eq_true_iff, Bool.or_eq_true_iff, weekdayOf_eq]
  exact and_congr_right fun _ => inCatchupWindow_iff settings pass time inDay

/-- An earlier day's occurrence is after the window's start. -/
def MissedEarlier : Prop := ∃ date < pass.today settings, onDay days date ∧
  pass.naiveStart settings < occurrenceOn time date

theorem missed_iff (inDay : (time : Int) < day) :
    Missed settings pass time days ↔
      InWindow settings pass time days (pass.today settings) ∨
        MissedEarlier settings pass time days := by
  constructor
  · rintro ⟨date, allowed, after, before⟩
    rcases lt_trichotomy date (pass.today settings) with earlier | rfl | later
    · exact .inr ⟨date, earlier, allowed, after⟩
    · exact .inl ⟨allowed, after, before⟩
    · simp only [occurrenceOn, Pass.today, dateOf, day, second] at before later
      omega
  · rintro (today | ⟨date, earlier, allowed, after⟩)
    · exact ⟨_, today⟩
    · refine ⟨date, allowed, after, ?_⟩
      simp only [occurrenceOn, Pass.today, dateOf, day, second] at inDay earlier ⊢
      omega

/-- Where there is a missed occurrence, the most recent one is missed. -/
theorem mostRecent_missed_iff :
    (∃ date, MostRecent settings pass time days date ∧ InWindow settings pass time days date) ↔
      Missed settings pass time days := by
  constructor
  · rintro ⟨date, _, missed⟩
    exact ⟨date, missed⟩
  · rintro ⟨date, allowed, after, before⟩
    let past (date : Int) := onDay days date ∧ occurrenceOn time date ≤ pass.naive settings
    have bounded : ∃ bound, ∀ date, past date → date ≤ bound := by
      refine ⟨pass.today settings, fun date isPast => ?_⟩
      have arithmetic := isPast.2
      simp only [occurrenceOn, Pass.today, dateOf, day, second] at arithmetic ⊢
      omega
    obtain ⟨last, ⟨lastAllowed, lastBefore⟩, isLast⟩ :=
      Int.exists_greatest_of_bdd bounded ⟨date, allowed, before⟩
    refine ⟨last, ⟨lastAllowed, lastBefore, fun later on upTo => isLast later ⟨on, upTo⟩⟩, lastAllowed,
      after.trans_le ?_, lastBefore⟩
    have order := isLast date ⟨allowed, before⟩
    simp only [occurrenceOn, day, second]
    omega

/-- When the catch-up is right about a trigger. -/
def CatchesUp : Prop :=
  let start := pass.naiveStart settings
  let present := pass.naive settings
  let today := pass.today settings
  let todays := occurrenceOn time today
  if present < start then
    -- the clocks were set back, by more than the window
    onDay days today → ¬ ClockMeets settings pass time
  else if dateOf start = today then
    onDay days today → (minuteOfDay time = pass.startMinute settings → start < todays) ∧
      (minuteOfDay time = pass.presentMinute settings → todays ≤ present)
  else
    (onDay days today →
      (todays ≤ present → pass.startMinute settings ≤ pass.presentMinute settings →
        pass.startMinute settings ≤ minuteOfDay time) ∧
      (present < todays → (MissedEarlier settings pass time days ↔
        minuteOfDay time = pass.presentMinute settings ∨
          pass.presentMinute settings < pass.startMinute settings ∧
            pass.startMinute settings ≤ minuteOfDay time))) ∧
    (MissedEarlier settings pass time days → onDay days today)

/-- The times that the case analysis is about, as integers of one day. -/
theorem minutes_eq (naive : Int) :
    (minuteOfDay (timeOf naive) : Int) = (naive - dateOf naive * day) / 60000000000 := by
  simp only [minuteOfDay, timeOf, dateOf, day, second]
  omega

/-- An earlier day's occurrence is over when the present day begins. -/
theorem earlier_over {date : Int} (inDay : (time : Int) < day) (earlier : date < pass.today settings) :
    occurrenceOn time date < pass.today settings * day := by
  simp only [occurrenceOn, day, second] at inDay ⊢
  omega

theorem today_begun : pass.today settings * day ≤ pass.naive settings := by
  simp only [Pass.today, dateOf, day, second]
  omega

theorem not_missedEarlier (inDay : (time : Int) < day)
    (begun : pass.today settings * day ≤ pass.naiveStart settings) :
    ¬ MissedEarlier settings pass time days := by
  rintro ⟨date, earlier, _, after⟩
  have ended := earlier_over settings pass time inDay earlier
  omega

theorem catchesUp_iff (inDay : (time : Int) < day) :
    (catchupDue settings pass (.timeOfDay time days) = true ↔ Missed settings pass time days) ↔
      CatchesUp settings pass time days := by
  have minutes : minuteOfDay time < 1440 := by
    simp only [minuteOfDay, day, second] at inDay ⊢
    omega
  have own : (minuteOfDay time : Int) = time / 60000000000 := by
    simp only [minuteOfDay]
    omega
  have presentMinute : (pass.presentMinute settings : Int) =
      (pass.naive settings - pass.today settings * day) / 60000000000 := minutes_eq _
  have startMinute : (pass.startMinute settings : Int) =
      (pass.naiveStart settings - dateOf (pass.naiveStart settings) * day) / 60000000000 := minutes_eq _
  have begun := today_begun settings pass
  rw [catchupDue_timeOfDay settings pass time days minutes, missed_iff settings pass time days inDay,
    CatchesUp]
  by_cases back : pass.naive settings < pass.naiveStart settings
  · -- a window turned round has no occurrence in it
    have notToday : ¬ InWindow settings pass time days (pass.today settings) := by
      rintro ⟨_, after, before⟩
      omega
    have notEarlier := not_missedEarlier settings pass time days inDay (by omega)
    simp only [if_pos back, notToday, notEarlier, or_self, iff_false, not_and]
  simp only [if_neg back]
  by_cases same : dateOf (pass.naiveStart settings) = pass.today settings
  · -- the occurrence of today is the only one, and the minutes at the ends are halves
    have startBegun : pass.today settings * day ≤ pass.naiveStart settings := by
      simp only [← same, dateOf, day, second]
      omega
    have notEarlier := not_missedEarlier settings pass time days inDay startBegun
    rw [same] at startMinute
    simp only [if_pos same, notEarlier, or_false, InWindow, Set.mem_Ioc]
    by_cases on : onDay days (pass.today settings)
    · simp only [on, true_and, true_imp_iff, ClockMeets, occurrenceOn]
      rw [if_pos (by omega)]
      omega
    · simp only [on, false_and, false_imp_iff]
  · -- today's occurrence is after the window's start
    have startBefore : pass.naiveStart settings < pass.today settings * day := by
      have order : dateOf (pass.naiveStart settings) ≤ pass.today settings := by
        simp only [Pass.today, dateOf, day, second] at back ⊢
        omega
      simp only [dateOf, day, second] at same order ⊢
      omega
    simp only [if_neg same, InWindow, Set.mem_Ioc, occurrenceOn]
    by_cases on : onDay days (pass.today settings)
    · have after : pass.naiveStart settings < pass.today settings * day + time := by omega
      simp only [on, after, true_and, true_imp_iff, implies_true, and_true, ClockMeets]
      by_cases reached : pass.today settings * day + time ≤ pass.naive settings
      · simp only [reached, true_or, iff_true, true_imp_iff]
        split <;> omega
      · have turned : pass.naive settings < pass.today settings * day + time := by omega
        simp only [reached, turned, false_or, true_imp_iff, false_imp_iff, true_and]
        split <;> grind
    · simp only [on, false_and, false_or, false_imp_iff, true_and, false_iff, imp_false]

/-- The catch-up goes through the rules once, and fires the enabled ones with a
trigger that is due. -/
theorem fireCatchup_eq (fires : PeriodicFires) :
    (fireCatchup settings pass fires).1 =
      (pass.rules.filter fun rule =>
        rule.enabled && rule.allTriggers.any (catchupDue settings pass)).map (·.id) := by
  have visited (rules : List Rule) (done : List Uuid × PeriodicFires) :
      (rules.foldl (catchupRule settings pass) done).1 = done.1 ++ (rules.filter fun rule =>
        rule.enabled && rule.allTriggers.any (catchupDue settings pass)).map (·.id) := by
    induction rules generalizing done with
    | nil => exact (List.append_nil _).symm
    | cons rule rest ih =>
      rw [List.foldl_cons, ih, catchupRule]
      cases enabled : rule.enabled with
      | false => simp [enabled]
      | true =>
        cases due : rule.allTriggers.any (catchupDue settings pass) with
        | false => simp [enabled, due]
        | true => simp [enabled, due]
  exact visited pass.rules _

/-- The catch-up fires the rules with a due trigger, and a time of day is due just
where its most recent occurrence is in the window, exactly under `CatchesUp`. -/
theorem catchup_fires_missed_iff :
    (∀ fires, (fireCatchup settings pass fires).1 = (pass.rules.filter fun rule =>
      rule.enabled && rule.allTriggers.any (catchupDue settings pass)).map (·.id)) ∧
    ∀ (time : NaiveTime) (days : List Weekday), (time : Int) < day →
      ((catchupDue settings pass (.timeOfDay time days) = true ↔
        ∃ date, MostRecent settings pass time days date ∧
          occurrenceOn time date ∈ Set.Ioc (pass.naiveStart settings) (pass.naive settings)) ↔
        CatchesUp settings pass time days) := by
  constructor
  · exact fireCatchup_eq settings pass
  · intro time days inDay
    have sameDate : (∃ date, MostRecent settings pass time days date ∧
        occurrenceOn time date ∈ Set.Ioc (pass.naiveStart settings) (pass.naive settings)) ↔
          Missed settings pass time days := by
      rw [← mostRecent_missed_iff settings pass time days]
      constructor
      · rintro ⟨date, recent, inside⟩
        exact ⟨date, recent, recent.1, inside⟩
      · rintro ⟨date, recent, _, inside⟩
        exact ⟨date, recent, inside⟩
    rw [sameDate]
    exact catchesUp_iff settings pass time days inDay

end Passes

/-- A rule for five to midnight on Sundays, and a start on Monday ten past midnight,
in UTC with a window of half an hour. -/
def lockUp : Rule := .minimal ⟨9⟩ (.timeOfDay (86100 * 1000000000) [.sun]) []

def halfAnHour : Settings := ⟨fun _ => 0, fun _ => none, 30⟩

def mondayMorning : Pass where
  now := (4 * 86400 + 600) * second
  rules := [lockUp]
  sun := fun _ _ _ => none
  instant := 0

/-- The rule was missed a quarter of an hour ago, and the catch-up passes over it. -/
theorem sunday_is_over :
    (∃ date, MostRecent halfAnHour mondayMorning (86100 * 1000000000) [.sun] date ∧
      occurrenceOn (86100 * 1000000000) date ∈
        Set.Ioc (mondayMorning.naiveStart halfAnHour) (mondayMorning.naive halfAnHour)) ∧
    (fireCatchup halfAnHour mondayMorning fun _ => none).1 = [] := by
  refine ⟨⟨3, ⟨.inr (by decide), by decide, ?_⟩, by decide⟩,
    by decide⟩
  intro later _ upTo
  simp only [occurrenceOn, Pass.naive, Settings.naiveLocal, mondayMorning, halfAnHour, day, minute,
    second] at upTo
  omega

/-- A start at one minute to midnight on the Sunday. -/
def sundayEvening : Pass := { mondayMorning with now := (4 * 86400 - 60) * second }

/-- There the catch-up is right, and fires the rule. -/
theorem sunday_evening_caught_up :
    catchupDue halfAnHour sundayEvening (.timeOfDay (86100 * 1000000000) [.sun]) = true ↔
      ∃ date, MostRecent halfAnHour sundayEvening (86100 * 1000000000) [.sun] date ∧
        occurrenceOn (86100 * 1000000000) date ∈
          Set.Ioc (sundayEvening.naiveStart halfAnHour) (sundayEvening.naive halfAnHour) := by
  refine ((catchup_fires_missed_iff halfAnHour sundayEvening).2 _ _ (by decide)).mpr ?_
  rw [CatchesUp, if_neg (by decide), if_pos (by decide)]
  intro _
  exact ⟨fun same => absurd same (by decide), fun same => absurd same (by decide)⟩

end HomeCore.Scheduler
