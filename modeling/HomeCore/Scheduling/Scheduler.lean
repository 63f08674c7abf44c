import HomeCore.Types.Rule

/-! The scheduler: a catch-up pass when the process starts, then a tick in every
minute. The sun and cron are computed elsewhere; a pass takes the sun's times as
it finds them, and a cron schedule by the occurrences it enumerates. -/
namespace HomeCore.Scheduler

def minute : Int := 60 * second

def day : Int := 86400 * second

/-- A parsed cron expression in the configured zone, by the instants it occurs at. -/
structure Schedule where
  occurs : Int → Prop
  /-- `after(start).next()`. -/
  after : Int → Option Int
  least : ∀ start occurrence, after start = some occurrence →
    occurs occurrence ∧ start < occurrence ∧
      ∀ other, occurs other → start < other → occurrence ≤ other
  ends : ∀ start, after start = none → ∀ occurrence, occurs occurrence → occurrence ≤ start

structure Settings where
  /-- The minutes that the configured zone adds to an instant. No zone in use adds
  a part of a minute. -/
  zone : DateTime → Int
  parseCron : String → Option Schedule
  catchupWindowMinutes : Nat

/-! ## Local time -/

def Settings.naiveLocal (settings : Settings) (instant : DateTime) : Int :=
  instant + settings.zone instant * minute

/-- In days since the epoch. -/
def dateOf (naive : Int) : Int := naive / day

def timeOf (naive : Int) : NaiveTime := (naive % day).toNat

/-- The epoch was a Thursday. -/
def weekdayOf (naive : Int) : Weekday :=
  match ((dateOf naive + 3) % 7).toNat with
  | 0 => .mon
  | 1 => .tue
  | 2 => .wed
  | 3 => .thu
  | 4 => .fri
  | 5 => .sat
  | _ => .sun

def hour (time : NaiveTime) : Nat := time / 3600000000000

def minuteOf (time : NaiveTime) : Nat := time / 60000000000 % 60

def secondOf (time : NaiveTime) : Nat := time / 1000000000 % 60

/-- `NaiveTime::with_second(0)`, which keeps the fraction of a second. -/
def withSecondZero (time : NaiveTime) : NaiveTime := time - secondOf time * 1000000000

/-- `NaiveTime::from_hms_opt(hour, minute, 0)`, or the time itself where there is none. -/
def stripSeconds (time : NaiveTime) : NaiveTime :=
  if hour time < 24 then hour time * 3600000000000 + minuteOf time * 60000000000 else time

def timesMatch (triggerTime currentTime : NaiveTime) : Bool :=
  hour triggerTime == hour currentTime && minuteOf triggerTime == minuteOf currentTime

def inCatchupWindow (trigger windowStart now : NaiveTime) : Bool :=
  let t := stripSeconds trigger
  if windowStart ≤ now then windowStart ≤ t && t ≤ now else windowStart ≤ t || t ≤ now

/-! ## Cron and periods -/

def cronFiredInWindow (settings : Settings) (expression : String) (windowStart now : DateTime) : Bool :=
  match settings.parseCron expression with
  | some schedule => (schedule.after windowStart).any (· ≤ now)
  | none => false

def cronFiresNow (settings : Settings) (expression : String) (now : DateTime) : Bool :=
  cronFiredInWindow settings expression (now - minute) now

def periodicToSecs (everyN : Nat) : PeriodicUnit → Nat
  | .minutes => max everyN 1 * 60
  | .hours => max everyN 1 * 3600
  | .days => max everyN 1 * 86400
  | .weeks => max everyN 1 * 604800

/-! ## Passes -/

/-- What one pass over the rules finds: the clock, the rules as loaded by then,
the sun's times for a date, and the steady clock that periods are measured by. -/
structure Pass where
  now : DateTime
  rules : List Rule
  sun : Int → SunEventType → Int → Option NaiveTime
  instant : Int

/-- When each periodic rule last fired, on the steady clock. -/
abbrev PeriodicFires := Uuid → Option Int

section Passes
variable (settings : Settings) (pass : Pass)

def Pass.naive : Int := settings.naiveLocal pass.now

def tickDue (lastFire : Option Int) : Trigger → Bool
  | .timeOfDay time days =>
    timesMatch time (withSecondZero (timeOf (pass.naive settings))) &&
      (days.isEmpty || days.contains (weekdayOf (pass.naive settings)))
  | .sunEvent event offsetMinutes =>
    (pass.sun (dateOf (pass.naive settings)) event offsetMinutes).any fun sunTime =>
      timesMatch sunTime (withSecondZero (timeOf (pass.naive settings)))
  | .cron expression => cronFiresNow settings expression pass.now
  | .periodic everyN unit => match lastFire with
    | some last => periodicToSecs everyN unit * second ≤ pass.instant - last
    | none => true
  | _ => false

/-- The instant the catch-up looks back to. -/
def Pass.windowStart : DateTime := pass.now - settings.catchupWindowMinutes * minute

def catchupDue : Trigger → Bool
  | .sunEvent event offsetMinutes =>
    (pass.sun (dateOf (pass.naive settings)) event offsetMinutes).any fun sunTime =>
      inCatchupWindow sunTime
        (stripSeconds (timeOf (settings.naiveLocal (pass.windowStart settings))))
        (stripSeconds (timeOf (pass.naive settings)))
  | .timeOfDay time days =>
    (days.isEmpty || days.contains (weekdayOf (pass.naive settings))) &&
      inCatchupWindow time
        (stripSeconds (timeOf (settings.naiveLocal (pass.windowStart settings))))
        (stripSeconds (timeOf (pass.naive settings)))
  | .cron expression => cronFiredInWindow settings expression (pass.windowStart settings) pass.now
  | .periodic everyN unit => periodicToSecs everyN unit ≤ settings.catchupWindowMinutes * 60
  | _ => false

def Rule.isPeriodic (rule : Rule) : Bool :=
  rule.allTriggers.any (· matches .periodic ..)

def PeriodicFires.startAnew (fires : PeriodicFires) (rule : Rule) : PeriodicFires :=
  if Rule.isPeriodic rule then fun id => if id = rule.id then some pass.instant else fires id
  else fires

/-- One rule of a tick, after those fired before it. -/
def tickRule (done : List Uuid × PeriodicFires) (rule : Rule) : List Uuid × PeriodicFires :=
  if rule.enabled && rule.allTriggers.any (tickDue settings pass (done.2 rule.id)) then
    (done.1 ++ [rule.id], done.2.startAnew pass rule)
  else done

/-- The rules that a tick fires, in order, and the periods it starts anew. -/
def tick (fires : PeriodicFires) : List Uuid × PeriodicFires :=
  pass.rules.foldl (tickRule settings pass) ([], fires)

def catchupRule (done : List Uuid × PeriodicFires) (rule : Rule) : List Uuid × PeriodicFires :=
  if rule.enabled then
    (if rule.allTriggers.any (catchupDue settings pass) then done.1 ++ [rule.id] else done.1,
      done.2.startAnew pass rule)
  else done

/-- The rules that the catch-up fires; every period it meets starts anew. -/
def fireCatchup (fires : PeriodicFires) : List Uuid × PeriodicFires :=
  pass.rules.foldl (catchupRule settings pass) ([], fires)

end Passes

/-- The wait after a tick: from its own second to the next minute, in whole seconds. -/
def secsUntilNextMinute (settings : Settings) (now : DateTime) : Int :=
  60 - secondOf (timeOf (settings.naiveLocal now))

/-- A tick may follow another once that has been evaluated and slept off. -/
def Follows (settings : Settings) (earlier later : DateTime) : Prop :=
  earlier + secsUntilNextMinute settings earlier * second ≤ later

end HomeCore.Scheduler
