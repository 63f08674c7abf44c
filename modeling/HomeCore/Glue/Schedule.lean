import HomeCore.Calendars.Durations
import HomeCore.Glue.Counter
import HomeCore.Scheduling.CatchupProofs

/-! Schedules: weekly blocks of time, and whether the present minute is in one. Minutes are
32-bit sums; one that does not fit stops the evaluation, as it does where sums are checked. -/
namespace HomeCore.Glue.Schedule
open HomeCore.Engine HomeCore.Scheduler

def weekdayName : Weekday → String
  | .mon => "Mon"
  | .tue => "Tue"
  | .wed => "Wed"
  | .thu => "Thu"
  | .fri => "Fri"
  | .sat => "Sat"
  | .sun => "Sun"

def maxU32 : Nat := 2 ^ 32 - 1

/-- `str::parse::<u32>`: digits, after a plus sign or none. -/
def parseU32 (text : String) : Option Nat :=
  let digits := match text.toList with
    | '+' :: rest => rest
    | chars => chars
  if digits ≠ [] ∧ digits.all Char.isDigit ∧ Calendars.digitsValue digits ≤ maxU32 then
    some (Calendars.digitsValue digits)
  else none

/-- Hours and minutes; what follows a second colon is not looked at. -/
def parseHm (text : String) : Option (Nat × Nat) :=
  match splitText ':' text with
  | h :: m :: _ => do return (← parseU32 h, ← parseU32 m)
  | _ => none

def minutesOf (hm : Nat × Nat) : Nat := hm.1 * 60 + hm.2

def fits (hm : Nat × Nat) : Bool := hm.1 * 60 ≤ maxU32 && minutesOf hm ≤ maxU32

/-! ## Blocks -/

def daysOf (block : Json) : List String :=
  match block.get "days" with
  | some (.arr items) => items.filterMap Json.asStr
  | _ => []

def timeAt (block : Json) (key : String) : Option (Nat × Nat) :=
  ((block.get key).bind Json.asStr).bind parseHm

def blocksOf (attributes : AttrMap) : List Json :=
  match attributes["blocks"]? with
  | some (.arr blocks) => blocks
  | _ => []

/-- Between the two minutes of the day, or not between them where they are in the other order. -/
def within (nowMinutes startMin endMin : Nat) : Bool :=
  if startMin ≤ endMin then startMin ≤ nowMinutes && nowMinutes < endMin
  else startMin ≤ nowMinutes || nowMinutes < endMin

/-- Whether the minute is in the block; nothing where a sum does not fit. -/
def blockActive (today : String) (nowMinutes : Nat) (block : Json) : Option Bool :=
  if !(daysOf block).contains today then some false
  else match timeAt block "start", timeAt block "end" with
    | some start, some finish =>
      if fits start && fits finish then some (within nowMinutes (minutesOf start) (minutesOf finish))
      else none
    | _, _ => some false

def anyActive (today : String) (nowMinutes : Nat) : List Json → Option Bool
  | [] => some false
  | block :: rest =>
    match blockActive today nowMinutes block with
    | none => none
    | some true => some true
    | some false => anyActive today nowMinutes rest

def nowMinutes (naive : Int) : Nat := Scheduler.hour (timeOf naive) * 60 + minuteOf (timeOf naive)

def isActive (naive : Int) (attributes : AttrMap) : Option Bool :=
  anyActive (weekdayName (weekdayOf naive)) (nowMinutes naive) (blocksOf attributes)

/-- `now_local` is `naive`; `now` is the clock of the write. Nothing where a sum does not fit. -/
def recalculate (now : DateTime) (naive : Int) (store : DeviceStore) (deviceId : String) : Option WriteResult :=
  match store.getDevice deviceId with
  | none => some (store, [])
  | some device =>
    match isActive naive device.attributes with
    | none => none
    | some active =>
      if active = (device.attributes["active"]?.bind Json.asBool).getD false then some (store, [])
      else some (applyStateUpdate now store deviceId (homecoreChange now "schedule_tick")
        (withEntries [("active", .bool active)]))

/-! ## Occurrences -/

/-- The days and the times of a block that has both times, in minutes from midnight. -/
structure Span where
  days : List String
  start : Nat
  finish : Nat

def spanOf (block : Json) : Option Span := do
  return ⟨daysOf block, minutesOf (← timeAt block "start"), minutesOf (← timeAt block "end")⟩

def spans (attributes : AttrMap) : List Span := (blocksOf attributes).filterMap spanOf

namespace Span

def listed (span : Span) (date : Int) : Prop := weekdayName (weekdayOf (date * Scheduler.day)) ∈ span.days

/-- The block of a day runs from its start on that day to its end, on the following day where
the end is before the start. -/
def occurs (span : Span) (date naive : Int) : Prop :=
  date * Scheduler.day + span.start * minute ≤ naive ∧
    naive < (if span.finish < span.start then date + 1 else date) * Scheduler.day + span.finish * minute

end Span

/-- The local time is in an occurrence of some block. -/
def InOccurrence (attributes : AttrMap) (naive : Int) : Prop :=
  ∃ span ∈ spans attributes, ∃ date, span.listed date ∧ span.occurs date naive

/-- The evaluation stores that the schedule is active exactly if it is. -/
def StoresActive (now : DateTime) (naive : Int) (store : DeviceStore) (device : DeviceState) : Prop :=
  ∃ result, recalculate now naive store device.deviceId = some result ∧
    ∃ after, result.1.getDevice device.deviceId = some after ∧
      (after.attributes["active"]? = some (.bool true) ↔ InOccurrence device.attributes naive)

/-! ## When that is so -/

/-- An occurrence that began on the present day is running. -/
def RunsSinceToday (attributes : AttrMap) (naive : Int) : Prop :=
  ∃ span ∈ spans attributes, span.listed (dateOf naive) ∧ span.occurs (dateOf naive) naive

/-- An occurrence that began on an earlier day is running. -/
def RunsSinceEarlier (attributes : AttrMap) (naive : Int) : Prop :=
  ∃ span ∈ spans attributes, ∃ date < dateOf naive, span.listed date ∧ span.occurs date naive

/-- A block that runs over midnight is listed for the present day, and the time of its end is
still to come in this day. -/
def EndsLaterToday (attributes : AttrMap) (naive : Int) : Prop :=
  ∃ span ∈ spans attributes, span.listed (dateOf naive) ∧ span.finish < span.start ∧
    nowMinutes naive < span.finish

/-- A block is reached, none before being active, whose times do not fit. -/
def OverflowReached (attributes : AttrMap) (naive : Int) : Prop :=
  ∃ before block after, blocksOf attributes = before ++ block :: after ∧
    (∀ earlier ∈ before,
      blockActive (weekdayName (weekdayOf naive)) (nowMinutes naive) earlier = some false) ∧
    blockActive (weekdayName (weekdayOf naive)) (nowMinutes naive) block = none

end HomeCore.Glue.Schedule

/-! A schedule is active in the occurrences of its blocks, but for what runs over midnight: the
part after midnight is looked for on the day it lies in, and it belongs to the day before. -/
namespace HomeCore.Glue.Schedule
open HomeCore.Engine HomeCore.Scheduler

variable {attributes : AttrMap} {naive : Int} {today : String} {minutes : Nat}

/-! ## Minutes -/

theorem nowMinutes_bounds (naive : Int) :
    dateOf naive * Scheduler.day + nowMinutes naive * minute ≤ naive ∧
      naive < dateOf naive * Scheduler.day + (nowMinutes naive + 1) * minute := by
  simp only [nowMinutes, Scheduler.hour, minuteOf, timeOf, dateOf, Scheduler.day, minute, second]
  omega

theorem nowMinutes_lt (naive : Int) : nowMinutes naive < 1440 := by
  simp only [nowMinutes, Scheduler.hour, minuteOf, timeOf, Scheduler.day, second]
  omega

/-- A day's occurrence that began on that day and not later. -/
theorem occurs_today (span : Span) (naive : Int) :
    span.occurs (dateOf naive) naive ↔
      span.start ≤ nowMinutes naive ∧ (nowMinutes naive < span.finish ∨ span.finish < span.start) := by
  have bounds := nowMinutes_bounds naive
  have early := nowMinutes_lt naive
  simp only [Span.occurs]
  generalize dateOf naive = date at *
  generalize nowMinutes naive = minutes at *
  simp only [Scheduler.day, minute, second] at *
  split
  · constructor
    · rintro ⟨begun, _⟩
      exact ⟨by omega, by omega⟩
    · rintro ⟨begun, _⟩
      exact ⟨by omega, by omega⟩
  · constructor
    · rintro ⟨begun, unfinished⟩
      exact ⟨by omega, by omega⟩
    · rintro ⟨begun, unfinished⟩
      exact ⟨by omega, by omega⟩

/-- Nothing has begun that begins on a later day. -/
theorem occurs_later {span : Span} {date : Int} (later : dateOf naive < date) : ¬ span.occurs date naive := by
  have bounds := nowMinutes_bounds naive
  have early := nowMinutes_lt naive
  rintro ⟨begun, _⟩
  generalize dateOf naive = present at *
  generalize nowMinutes naive = minutes at *
  simp only [Scheduler.day, minute, second] at *
  omega

/-- Of a block whose end is a time of the day, an earlier occurrence still runs only if it is
that of the day before and runs over midnight. -/
theorem occurs_earlier {span : Span} {date : Int} (inDay : span.finish ≤ 1440) (earlier : date < dateOf naive) :
    span.occurs date naive ↔
      date = dateOf naive - 1 ∧ span.finish < span.start ∧ span.start ≤ nowMinutes naive + 1440 ∧
        nowMinutes naive < span.finish := by
  have bounds := nowMinutes_bounds naive
  simp only [Span.occurs]
  generalize dateOf naive = present at *
  generalize nowMinutes naive = minutes at *
  simp only [Scheduler.day, minute, second] at *
  split
  · constructor
    · rintro ⟨begun, unfinished⟩
      exact ⟨by omega, by omega, by omega, by omega⟩
    · rintro ⟨rfl, crosses, begun, unfinished⟩
      exact ⟨by omega, by omega⟩
  · constructor
    · rintro ⟨begun, unfinished⟩
      omega
    · rintro ⟨rfl, crosses, _⟩
      omega

theorem inOccurrence_iff :
    InOccurrence attributes naive ↔ RunsSinceToday attributes naive ∨ RunsSinceEarlier attributes naive := by
  constructor
  · rintro ⟨span, member, date, listed, occurs⟩
    rcases lt_trichotomy date (dateOf naive) with earlier | rfl | later
    · exact .inr ⟨span, member, date, earlier, listed, occurs⟩
    · exact .inl ⟨span, member, listed, occurs⟩
    · exact absurd occurs (occurs_later later)
  · rintro (⟨span, member, listed, occurs⟩ | ⟨span, member, date, _, listed, occurs⟩)
    · exact ⟨span, member, dateOf naive, listed, occurs⟩
    · exact ⟨span, member, date, listed, occurs⟩

/-! ## The loop -/

/-- The block is listed for the day, and the minute is in it. -/
def Covers (today : String) (minutes : Nat) (block : Json) : Prop :=
  ∃ span, spanOf block = some span ∧ today ∈ span.days ∧ within minutes span.start span.finish = true

theorem blockActive_covers {block : Json} {active : Bool} (known : blockActive today minutes block = some active) :
    active = true ↔ Covers today minutes block := by
  simp only [blockActive] at known
  split at known
  next unlisted =>
    cases known
    simp only [Bool.not_eq_true', List.contains_eq_mem, decide_eq_false_iff_not] at unlisted
    refine ⟨fun impossible => absurd impossible Bool.false_ne_true, ?_⟩
    rintro ⟨span, isSpan, isListed, _⟩
    simp only [spanOf, Option.bind_eq_bind, Option.bind_eq_some_iff, Option.pure_def, Option.some.injEq] at isSpan
    obtain ⟨start, _, finish, _, rfl⟩ := isSpan
    exact absurd isListed unlisted
  next listed =>
    simp only [Bool.not_eq_true', List.contains_eq_mem, decide_eq_false_iff_not, not_not] at listed
    split at known
    next start finish isStart isFinish =>
      have isSpan : spanOf block = some ⟨daysOf block, minutesOf start, minutesOf finish⟩ := by
        simp [spanOf, isStart, isFinish]
      split at known
      · cases known
        constructor
        · exact fun inside => ⟨_, isSpan, listed, inside⟩
        · rintro ⟨span, other, _, inside⟩
          rw [isSpan] at other
          cases other
          exact inside
      · cases known
    next missing =>
      cases known
      refine ⟨fun impossible => absurd impossible Bool.false_ne_true, ?_⟩
      rintro ⟨span, isSpan, _⟩
      simp only [spanOf, Option.bind_eq_bind, Option.bind_eq_some_iff, Option.pure_def, Option.some.injEq] at isSpan
      obtain ⟨start, isStart, finish, isFinish, _⟩ := isSpan
      exact absurd isFinish (missing start finish isStart)

/-- A block of a list is reached that cannot be evaluated, or the list is evaluated to whether
one of its blocks covers the minute. -/
theorem anyActive_cases (today : String) (minutes : Nat) (blocks : List Json) :
    (anyActive today minutes blocks = none ∧ ∃ before block after, blocks = before ++ block :: after ∧
      (∀ earlier ∈ before, blockActive today minutes earlier = some false) ∧
        blockActive today minutes block = none) ∨
    ∃ active, anyActive today minutes blocks = some active ∧
      (active = true ↔ ∃ block ∈ blocks, Covers today minutes block) ∧
      ¬ ∃ before block after, blocks = before ++ block :: after ∧
        (∀ earlier ∈ before, blockActive today minutes earlier = some false) ∧
          blockActive today minutes block = none := by
  induction blocks with
  | nil => exact .inr ⟨false, rfl, by simp, by simp⟩
  | cons block rest ih =>
    cases known : blockActive today minutes block with
    | none => 
      exact .inl ⟨by simp only [anyActive, known], [], block, rest, rfl, by simp, known⟩
    | some active =>
      have covers := blockActive_covers known
      cases active with
      | true =>
        refine .inr ⟨true, by simp only [anyActive, known], ?_, ?_⟩
        · exact ⟨fun _ => ⟨block, List.mem_cons_self, covers.mp rfl⟩, fun _ => rfl⟩
        · rintro ⟨before, other, after, split, inactive, stuck⟩
          cases before with
          | nil =>
            cases split
            rw [known] at stuck
            cases stuck
          | cons first before =>
            cases split
            have isInactive := inactive block List.mem_cons_self
            rw [known] at isInactive
            cases isInactive
      | false =>
        have uncovered : ¬ Covers today minutes block := fun covered => by cases covers.mpr covered
        rcases ih with ⟨stuck, before, other, after, rfl, inactive, isStuck⟩ | ⟨active, isActive, exactly, free⟩
        · refine .inl ⟨by simp only [anyActive, known, stuck], block :: before, other, after, rfl, ?_, isStuck⟩
          intro earlier member
          rcases List.mem_cons.mp member with rfl | later
          · exact known
          · exact inactive earlier later
        · refine .inr ⟨active, by simp only [anyActive, known, isActive], ?_, ?_⟩
          · rw [exactly]
            constructor
            · rintro ⟨found, member, covered⟩
              exact ⟨found, List.mem_cons_of_mem block member, covered⟩
            · rintro ⟨found, member, covered⟩
              rcases List.mem_cons.mp member with rfl | later
              · exact absurd covered uncovered
              · exact ⟨found, later, covered⟩
          · rintro ⟨before, other, after, split, inactive, stuck⟩
            cases before with
            | nil =>
              cases split
              rw [known] at stuck
              cases stuck
            | cons first before =>
              cases split
              exact free ⟨before, other, after, rfl, fun earlier member =>
                inactive earlier (List.mem_cons_of_mem _ member), stuck⟩

/-- Some block covers the minute where an occurrence runs that began on the present day, or a
block of the present day that runs over midnight ends later in it. -/
theorem covered_iff :
    (∃ block ∈ blocksOf attributes, Covers (weekdayName (weekdayOf naive)) (nowMinutes naive) block) ↔
      RunsSinceToday attributes naive ∨ EndsLaterToday attributes naive := by
  have isToday (span : Span) : span.listed (dateOf naive) ↔ weekdayName (weekdayOf naive) ∈ span.days := by
    rw [Span.listed, weekdayOf_eq naive, weekdayOn]
  simp only [RunsSinceToday, EndsLaterToday, isToday, occurs_today, spans, List.mem_filterMap]
  constructor
  · rintro ⟨block, member, span, isSpan, listed, inside⟩
    simp only [within] at inside
    split at inside
    next order =>
      simp only [Bool.and_eq_true, decide_eq_true_eq] at inside
      exact .inl ⟨span, ⟨block, member, isSpan⟩, listed, inside.1, .inl inside.2⟩
    next crosses =>
      simp only [Bool.or_eq_true, decide_eq_true_eq] at inside
      rcases inside with begun | unfinished
      · exact .inl ⟨span, ⟨block, member, isSpan⟩, listed, begun, .inr (by omega)⟩
      · exact .inr ⟨span, ⟨block, member, isSpan⟩, listed, by omega, unfinished⟩
  · rintro (⟨span, ⟨block, member, isSpan⟩, listed, begun, unfinished⟩ |
      ⟨span, ⟨block, member, isSpan⟩, listed, crosses, unfinished⟩)
    · refine ⟨block, member, span, isSpan, listed, ?_⟩
      simp only [within]
      split
      next order =>
        simp only [Bool.and_eq_true, decide_eq_true_eq]
        omega
      next => simp [begun]
    · refine ⟨block, member, span, isSpan, listed, ?_⟩
      rw [within, if_neg (by omega)]
      simp [unfinished]

/-! ## What is stored -/

theorem stored_active {now : DateTime} {store : DeviceStore} {device : DeviceState} {active : Bool}
    (found : store.getDevice device.deviceId = some device)
    (isActive : isActive naive device.attributes = some active) :
    ∃ result, recalculate now naive store device.deviceId = some result ∧
      ∃ after, result.1.getDevice device.deviceId = some after ∧
        (after.attributes["active"]? = some (.bool true) ↔ active = true) := by
  simp only [recalculate, found, isActive]
  split
  next same =>
    refine ⟨(store, []), rfl, device, found, ?_⟩
    rw [same]
    cases read : device.attributes["active"]? with
    | none => simp
    | some value => cases value <;> simp [Json.asBool]
  next =>
    refine ⟨_, rfl, _, Counter.getDevice_applyStateUpdate found, ?_⟩
    simp [edited, withEntries]

/-- What is stored is right exactly if what was worked out is. -/
theorem stores_iff_known {now : DateTime} {store : DeviceStore} {device : DeviceState} {active : Bool}
    (found : store.getDevice device.deviceId = some device)
    (known : isActive naive device.attributes = some active) :
    StoresActive now naive store device ↔ (active = true ↔ InOccurrence device.attributes naive) := by
  obtain ⟨result, isResult, after, isAfter, shows⟩ := @stored_active _ now store device active found known
  constructor
  · rintro ⟨other, isOther, last, isLast, agrees⟩
    rw [isResult] at isOther
    cases isOther
    rw [isAfter] at isLast
    cases isLast
    exact shows.symm.trans agrees
  · exact fun agrees => ⟨result, isResult, after, isAfter, shows.trans agrees⟩

theorem calm_of_known {active : Bool} (known : isActive naive attributes = some active) :
    ¬ OverflowReached attributes naive := by
  rcases anyActive_cases (weekdayName (weekdayOf naive)) (nowMinutes naive) (blocksOf attributes) with
    ⟨stuck, _⟩ | ⟨_, _, _, free⟩
  · rw [isActive, stuck] at known
    cases known
  · exact free

/-- The evaluation stores that a schedule is active exactly in the occurrences of its blocks
where no block with times that do not fit is reached, and an occurrence is running that began on
the present day, or one is running that began earlier exactly if a block of the present day that
runs over midnight ends later in it. -/
theorem stores_active_iff (now : DateTime) (naive : Int) (store : DeviceStore) (device : DeviceState)
    (found : store.getDevice device.deviceId = some device) :
    StoresActive now naive store device ↔
      ¬ OverflowReached device.attributes naive ∧
        (RunsSinceToday device.attributes naive ∨
          (RunsSinceEarlier device.attributes naive ↔ EndsLaterToday device.attributes naive)) := by
  rcases anyActive_cases (weekdayName (weekdayOf naive)) (nowMinutes naive) (blocksOf device.attributes) with
    ⟨stuck, reached⟩ | ⟨active, known, exactly, _⟩
  · constructor
    · rintro ⟨result, isResult, _⟩
      simp [recalculate, found, isActive, stuck] at isResult
    · rintro ⟨unreached, _⟩
      exact absurd reached unreached
  · have calm := calm_of_known known
    rw [stores_iff_known found known, exactly, covered_iff, inOccurrence_iff]
    tauto

/-! ## A schedule of nights -/

def nightBlock (days : List String) (start finish : String) : Json :=
  .obj [("days", .arr (days.map .str)), ("end", .str finish), ("start", .str start)]

def nightSchedule (block : Json) : DeviceState :=
  { DeviceState.new "schedule_night" "Night" pluginId 0 with
    attributes := withEntries [("active", .bool false), ("blocks", .arr [block])] ∅ }

def nights (block : Json) : DeviceStore :=
  (⟨∅, [], DeviceStore.none_keyed⟩ : DeviceStore).upsert (nightSchedule block)

theorem nights_found (block : Json) :
    (nights block).getDevice (nightSchedule block).deviceId = some (nightSchedule block) := by
  rw [nights, getDevice_upsert, if_pos rfl]

theorem spans_night {block : Json} {span : Span} (isSpan : spanOf block = some span) :
    spans (nightSchedule block).attributes = [span] := by
  simp [spans, blocksOf, nightSchedule, withEntries, isSpan]

/-- From ten in the evening to six, listed for one day. -/
def overnight (listed : String) : Json := nightBlock [listed] "22:00" "06:00"

theorem overnight_span (listed : String) : spanOf (overnight listed) = some ⟨[listed], 1320, 360⟩ := by
  have days : (overnight listed).get "days" = some (.arr [.str listed]) := rfl
  have start : timeAt (overnight listed) "start" = some (22, 0) := by rfl
  have finish : timeAt (overnight listed) "end" = some (6, 0) := by rfl
  simp [spanOf, daysOf, days, start, finish, minutesOf, Json.asStr]

/-- Three in the morning of a day, the first of January 1970 being the day 0, a Thursday. -/
def atThree (date : Int) : Int := date * Scheduler.day + 3 * 60 * minute

theorem dateOf_atThree (date : Int) : dateOf (atThree date) = date := by
  simp only [dateOf, atThree, Scheduler.day, minute, second]
  omega

theorem nowMinutes_atThree (date : Int) : nowMinutes (atThree date) = 180 := by
  have bounds := nowMinutes_bounds (atThree date)
  rw [dateOf_atThree] at bounds
  generalize nowMinutes (atThree date) = minutes at *
  simp only [atThree, Scheduler.day, minute, second] at bounds
  omega

/-- At three in the morning the night is the one that began the day before. -/
theorem atThree_iff (listed : String) (date : Int) :
    InOccurrence (nightSchedule (overnight listed)).attributes (atThree date) ↔
      weekdayName (weekdayOf ((date - 1) * Scheduler.day)) = listed := by
  rw [inOccurrence_iff, RunsSinceToday, RunsSinceEarlier, spans_night (overnight_span listed)]
  have inDay : (⟨[listed], 1320, 360⟩ : Span).finish ≤ 1440 := by simp
  constructor
  · rintro (⟨span, member, _, occurs⟩ | ⟨span, member, other, earlier, isListed, occurs⟩)
    · obtain rfl := List.mem_singleton.mp member
      rw [occurs_today, nowMinutes_atThree] at occurs
      exact absurd occurs.1 (by simp)
    · obtain rfl := List.mem_singleton.mp member
      rw [occurs_earlier inDay earlier, dateOf_atThree] at occurs
      rw [← occurs.1]
      simpa [Span.listed] using isListed
  · intro isListed
    have earlier : date - 1 < dateOf (atThree date) := by
      rw [dateOf_atThree]
      omega
    refine .inr ⟨_, List.mem_singleton_self _, date - 1, earlier, by simpa [Span.listed] using isListed, ?_⟩
    rw [occurs_earlier inDay earlier, dateOf_atThree, nowMinutes_atThree]
    simp

/-- The night of a Friday is over on Saturday at three, by the schedule, and on Friday at three
it is running. -/
theorem friday_night_misplaced :
    ¬ StoresActive 0 (atThree 1) (nights (overnight "Fri")) (nightSchedule (overnight "Fri")) ∧
      ¬ StoresActive 0 (atThree 2) (nights (overnight "Fri")) (nightSchedule (overnight "Fri")) := by
  have friday : isActive (atThree 1) (nightSchedule (overnight "Fri")).attributes = some true := by
    decide
  have saturday : isActive (atThree 2) (nightSchedule (overnight "Fri")).attributes = some false := by
    decide
  refine ⟨?_, ?_⟩
  · rw [stores_iff_known (nights_found _) friday, atThree_iff]
    decide
  · rw [stores_iff_known (nights_found _) saturday, atThree_iff]
    decide

/-- On Saturday at three the night of a Thursday is over. -/
theorem thursday_night_over :
    StoresActive 0 (atThree 2) (nights (overnight "Thu")) (nightSchedule (overnight "Thu")) := by
  have known : isActive (atThree 2) (nightSchedule (overnight "Thu")).attributes = some false := by
    decide
  have outside : ¬ InOccurrence (nightSchedule (overnight "Thu")).attributes (atThree 2) := by
    rw [atThree_iff]
    decide
  have unlisted : ¬ EndsLaterToday (nightSchedule (overnight "Thu")).attributes (atThree 2) := by
    rw [EndsLaterToday, spans_night (overnight_span "Thu"), dateOf_atThree]
    rintro ⟨span, member, listed, _⟩
    obtain rfl := List.mem_singleton.mp member
    exact absurd listed (by simp only [Span.listed]; decide)
  refine (stores_active_iff 0 (atThree 2) (nights (overnight "Thu")) (nightSchedule (overnight "Thu"))
    (nights_found _)).mpr ⟨calm_of_known known, .inr ⟨fun earlier => ?_, fun later => absurd later unlisted⟩⟩
  exact absurd (inOccurrence_iff.mpr (.inr earlier)) outside

end HomeCore.Glue.Schedule
