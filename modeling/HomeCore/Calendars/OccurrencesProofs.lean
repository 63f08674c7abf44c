import HomeCore.Calendars.IcsFiles
import HomeCore.Outcome

/-! The occurrences that a calendar file gives a UID. Each event of the file stands for the
instants of its own series in the window, up to a limit, and the events made of them are in
order. -/
namespace HomeCore.Calendars

/-- Rules are expanded rightly: in order, each instant once, those of the rule and the RDATEs
less the EXDATEs, from the first instant to the last and as many as the limit allows. -/
structure Expands (crates : CalendarCrates) (occurs : crates.Series → Set DateTime) : Prop where
  ordered : ∀ series extra skip after before limit,
    (crates.all series extra skip after before limit).Pairwise (· < ·)
  members : ∀ series extra skip after before limit t,
    t ∈ crates.all series extra skip after before limit ↔
      ((t ∈ occurs series ∨ t ∈ extra) ∧ t ∉ skip) ∧ after ≤ t ∧ t ≤ before ∧
        ({u | ((u ∈ occurs series ∨ u ∈ extra) ∧ u ∉ skip) ∧ after ≤ u ∧ u < t}).encard < limit

section Spec
variable (crates : CalendarCrates)

/-- An event that is neither cancelled nor without a start. -/
def counts (house : crates.Zone) (component : IcsComponent) : Bool :=
  isEvent component && !isCancelled crates component && (propWhen crates component "DTSTART" house).isSome

/-- The rule of a component, if it has one. -/
def ruleOf (component : IcsComponent) (start : When crates.Zone) : Option (RuleReading crates) :=
  (crates.findProp component "RRULE").map fun rrule => readRule crates start rrule.val

def isOverride (house : crates.Zone) (component : IcsComponent) : Bool :=
  (crates.findProp component "UID").isSome && (propWhen crates component "RECURRENCE-ID" house).isSome

/-- The instants of a series: those of its rule and its RDATEs, less its EXDATEs and those
that overrides replace. -/
def instants (occurs : crates.Series → Set DateTime) (replaced : List (String × DateTime))
    (house : crates.Zone) (component : IcsComponent) (series : crates.Series) : Set DateTime :=
  {t | (t ∈ occurs series ∨ t ∈ datesOf crates component "RDATE" house) ∧
    t ∉ datesOf crates component "EXDATE" house ∧ (uidOf crates component, t) ∉ replaced}

/-- Without a rule that is accepted, no EXDATE and no override names a start of the component,
and an RDATE is there only beside a rule that cannot be read. -/
def standsAlone (replaced : List (String × DateTime)) (house : crates.Zone) (component : IcsComponent)
    (start : When crates.Zone) : Prop :=
  (datesOf crates component "RDATE" house = [] ∨ ruleOf crates component start = some .unread) ∧
    ∀ t ∈ start.instant :: datesOf crates component "RDATE" house,
      t ∉ datesOf crates component "EXDATE" house ∧
        (isOverride crates house component = false → (uidOf crates component, t) ∉ replaced)

/-- The starts that a component stands for in the window: the first of the instants of its
series; or its own start and its RDATEs, where it has no rule that is accepted. -/
structure StandsFor (occurs : crates.Series → Set DateTime) (replaced : List (String × DateTime))
    (house : crates.Zone) (now windowEnd : DateTime) (component : IcsComponent) (starts : List DateTime) :
    Prop where
  ordered : ∀ start series, propWhen crates component "DTSTART" house = some start →
    ruleOf crates component start = some (.series series) → starts.Pairwise (· < ·)
  members : ∀ start duration series, propWhen crates component "DTSTART" house = some start →
    durationOf crates component start house = .ok duration →
    ruleOf crates component start = some (.series series) →
    ∀ t, t ∈ starts ↔ t ∈ instants crates occurs replaced house component series ∧
      now - duration < t ∧ t ≤ windowEnd ∧
      ({u | u ∈ instants crates occurs replaced house component series ∧ now - duration ≤ u ∧ u < t}).encard <
        maxOccurrences
  ownStart : ∀ start duration, propWhen crates component "DTSTART" house = some start →
    durationOf crates component start house = .ok duration →
    (∀ series, ruleOf crates component start ≠ some (.series series)) →
    standsAlone crates replaced house component start →
    starts = (start.instant :: datesOf crates component "RDATE" house).filter fun t =>
      decide (now - duration < t ∧ t ≤ windowEnd)

end Spec

variable {crates : CalendarCrates} {house : crates.Zone} {occurs : crates.Series → Set DateTime}
  {replaced : List (String × DateTime)} {component : IcsComponent}

/-! ## The starts of one component -/

theorem mem_skip {t : DateTime} :
    t ∈ datesOf crates component "EXDATE" house ++
        (replaced.filter (·.1 = uidOf crates component)).map (·.2) ↔
      t ∈ datesOf crates component "EXDATE" house ∨ (uidOf crates component, t) ∈ replaced := by
  rw [List.mem_append]
  refine or_congr_right ?_
  constructor
  · intro member
    obtain ⟨⟨uid, instant⟩, inReplaced, rfl⟩ := List.mem_map.mp member
    obtain ⟨isIn, same⟩ := List.mem_filter.mp inReplaced
    rw [← of_decide_eq_true same]
    exact isIn
  · intro member
    exact List.mem_map.mpr ⟨_, List.mem_filter.mpr ⟨member, decide_eq_true rfl⟩, rfl⟩

/-- What a rule that is accepted makes of a component. -/
theorem startsOf_series {start : When crates.Zone} {fromTime windowEnd : DateTime} {series : crates.Series}
    (isSeries : ruleOf crates component start = some (.series series)) :
    startsOf crates replaced component start house fromTime windowEnd =
      (crates.all series (datesOf crates component "RDATE" house)
        (datesOf crates component "EXDATE" house ++
          (replaced.filter (·.1 = uidOf crates component)).map (·.2)) fromTime windowEnd
        maxOccurrences).filter fun t => decide (fromTime < t ∧ t ≤ windowEnd) := by
  rw [ruleOf, Option.map_eq_some_iff] at isSeries
  obtain ⟨rrule, found, read⟩ := isSeries
  rw [startsOf, found]
  simp only [expandRrule, read]

/-- A component without a rule that is accepted stands for its own start. -/
theorem startsOf_own {start : When crates.Zone} {fromTime windowEnd : DateTime}
    (noSeries : ∀ series, ruleOf crates component start ≠ some (.series series))
    (alone : datesOf crates component "RDATE" house = [] ∨ ruleOf crates component start = some .unread) :
    startsOf crates replaced component start house fromTime windowEnd =
      (start.instant :: datesOf crates component "RDATE" house).filter fun t =>
        decide (fromTime < t ∧ t ≤ windowEnd) := by
  rw [startsOf]
  split
  · rename_i rrule found
    have reading : ruleOf crates component start = some (readRule crates start rrule.val) := by
      rw [ruleOf, found, Option.map_some]
    rw [expandRrule]
    split
    · rfl
    · rename_i read
      have noDates : datesOf crates component "RDATE" house = [] := by
        refine alone.resolve_right fun unread => ?_
        rw [reading, read] at unread
        cases unread
      rw [noDates]
    · rename_i series read
      refine absurd ?_ (noSeries series)
      rw [reading, read]
  · rename_i noRule
    have noDates : datesOf crates component "RDATE" house = [] := by
      refine alone.resolve_right fun unread => ?_
      rw [ruleOf, noRule] at unread
      cases unread
    rw [noDates, List.filter_singleton]
    simp

theorem startsOf_standsFor (expands : Expands crates occurs) {start : When crates.Zone}
    {duration now windowEnd : DateTime}
    (starts : propWhen crates component "DTSTART" house = some start)
    (lasts : durationOf crates component start house = .ok duration) :
    StandsFor crates occurs replaced house now windowEnd component
      (startsOf crates replaced component start house (now - duration) windowEnd) := by
  refine ⟨?_, ?_, ?_⟩
  · intro start' series starts' isSeries
    obtain rfl : start = start' := Option.some.inj (starts.symm.trans starts')
    rw [startsOf_series isSeries]
    exact (expands.ordered ..).filter _
  · intro start' duration' series starts' lasts' isSeries t
    obtain rfl : start = start' := Option.some.inj (starts.symm.trans starts')
    obtain rfl : duration = duration' := Except.ok.inj (lasts.symm.trans lasts')
    rw [startsOf_series isSeries, List.mem_filter, decide_eq_true_iff, expands.members]
    simp only [mem_skip, instants, Set.mem_ofPred_eq, not_or]
    constructor
    · rintro ⟨⟨isInstant, _, _, early⟩, after, before⟩
      exact ⟨isInstant, after, before, early⟩
    · rintro ⟨isInstant, after, before, early⟩
      exact ⟨⟨isInstant, after.le, before, early⟩, after, before⟩
  · intro start' duration' starts' lasts' noSeries alone
    obtain rfl : start = start' := Option.some.inj (starts.symm.trans starts')
    obtain rfl : duration = duration' := Except.ok.inj (lasts.symm.trans lasts')
    exact startsOf_own noSeries alone.1

theorem startsOf_within {start : When crates.Zone} {fromTime windowEnd t : DateTime}
    (member : t ∈ startsOf crates replaced component start house fromTime windowEnd) :
    fromTime < t ∧ t ≤ windowEnd := by
  rw [startsOf] at member
  split at member
  · rw [expandRrule] at member
    split at member <;> exact of_decide_eq_true (List.mem_filter.mp member).2
  · split at member
    · rename_i within
      rw [List.mem_singleton.mp member]
      exact within
    · cases member

theorem givenLength_nonneg (given : Option Int) (dateOnly : Bool) :
    0 ≤ (given.filter (0 ≤ ·)).getD (if dateOnly then 24 * hourLength else 0) := by
  cases kept : given.filter (0 ≤ ·) with
  | none =>
    rw [Option.getD_none]
    cases dateOnly <;> decide
  | some length => exact of_decide_eq_true (Option.filter_eq_some_iff.mp kept).2

theorem durationOf_nonneg {start : When crates.Zone} {duration : Int}
    (lasts : durationOf crates component start house = .ok duration) : 0 ≤ duration := by
  rw [durationOf] at lasts
  split at lasts
  · obtain rfl := Outcome.pure_ok.mp lasts
    exact givenLength_nonneg ..
  · split at lasts
    · obtain ⟨given, _, lasts⟩ := Outcome.bind_ok.mp lasts
      obtain rfl := Outcome.pure_ok.mp lasts
      exact givenLength_nonneg ..
    · obtain rfl := Outcome.pure_ok.mp lasts
      exact givenLength_nonneg ..

/-! ## The events of a file -/

/-- The starts of the events that are made of a component. -/
def startsIn (replaced : List (String × DateTime)) (now windowEnd : DateTime) (house : crates.Zone)
    (component : IcsComponent) : List DateTime :=
  match componentEvents crates replaced now windowEnd house component with
  | .ok events => events.map (·.start)
  | .error _ => []

theorem checkedMoment_ok {nanos moment : DateTime} (checked : checkedMoment nanos = .ok moment) :
    moment = nanos := by
  rw [checkedMoment] at checked
  split at checked
  · cases checked
    rfl
  · cases checked

/-- Each start becomes an event of the component's UID. -/
theorem occurrences_made {duration : Int} {dateOnly : Bool}
    {starts : List DateTime} {events : List CalEvent}
    (made : List.Forall₂ (fun t event =>
      (do
        let final ← checkedMoment (t + duration)
        pure (CalEvent.mk (uidOf crates component) (summaryOf crates component) t final dateOnly)) =
        Except.ok event) starts events) :
    events.map (·.start) = starts ∧ ∀ event ∈ events, event.uid = uidOf crates component := by
  induction made with
  | nil => exact ⟨rfl, fun event member => absurd member List.not_mem_nil⟩
  | cons isMade _ ih =>
    obtain ⟨final, _, isEvent⟩ := Outcome.bind_ok.mp isMade
    obtain rfl := Outcome.pure_ok.mp isEvent
    obtain ⟨sameStarts, sameUid⟩ := ih
    refine ⟨congrArg _ sameStarts, fun event member => ?_⟩
    rcases List.mem_cons.mp member with rfl | later
    · rfl
    · exact sameUid event later

theorem counts_eq :
    counts crates house component =
      (!(!isEvent component || isCancelled crates component) &&
        (propWhen crates component "DTSTART" house).isSome) := by
  rw [counts, Bool.not_or, Bool.not_not]

/-- A component gives no events where it does not count, and else one for each of its starts. -/
theorem componentEvents_ok {now windowEnd : DateTime} {events : List CalEvent}
    (made : componentEvents crates replaced now windowEnd house component = .ok events) :
    (counts crates house component = false ∧ events = []) ∨
      (counts crates house component = true ∧
        (∀ event ∈ events, event.uid = uidOf crates component) ∧
        ∃ start duration, propWhen crates component "DTSTART" house = some start ∧
          durationOf crates component start house = .ok duration ∧
          events.map (·.start) =
            startsOf crates replaced component start house (now - duration) windowEnd) := by
  rw [componentEvents] at made
  split at made
  · rename_i leftOut
    cases made
    refine .inl ⟨?_, rfl⟩
    rw [counts_eq, leftOut]
    rfl
  · rename_i takenUp
    split at made
    · rename_i noStart
      cases made
      refine .inl ⟨?_, rfl⟩
      rw [counts_eq, noStart, Option.isSome_none, Bool.and_false]
    · rename_i start starts
      obtain ⟨duration, lasts, made⟩ := Outcome.bind_ok.mp made
      obtain ⟨fromTime, checked, made⟩ := Outcome.bind_ok.mp made
      obtain rfl := checkedMoment_ok checked
      obtain ⟨sameStarts, sameUid⟩ := occurrences_made (Outcome.mapM_ok.mp made)
      refine .inr ⟨?_, sameUid, start, duration, starts, lasts, sameStarts⟩
      rw [counts_eq, Bool.eq_false_of_not_eq_true takenUp, starts]
      rfl

/-- The events of a UID, of several components: those of the components with that UID. -/
theorem starts_of_uid {now windowEnd : DateTime} {uid : String}
    {components : List IcsComponent} {events : List (List CalEvent)}
    (made : List.Forall₂ (fun component of =>
      componentEvents crates replaced now windowEnd house component = .ok of) components events) :
    (events.flatten.filter fun event => decide (event.uid = uid)).map (·.start) =
      (components.filter fun component =>
        counts crates house component && decide (uidOf crates component = uid)).flatMap
          (startsIn replaced now windowEnd house) := by
  induction made with
  | nil => rfl
  | @cons component of components events isMade _ ih =>
    rw [List.flatten_cons, List.filter_append, List.map_append, ih, List.filter_cons]
    rcases componentEvents_ok isMade with ⟨leftOut, rfl⟩ | ⟨isCounted, sameUid, _⟩
    · rw [leftOut]
      rfl
    · by_cases same : uidOf crates component = uid
      · have all : of.filter (fun event => decide (event.uid = uid)) = of :=
          List.filter_eq_self.mpr fun event member =>
            decide_eq_true ((sameUid event member).trans same)
        rw [all, isCounted, decide_eq_true same, Bool.and_self, if_pos rfl, List.flatMap_cons, startsIn,
          isMade]
      · have none_ : of.filter (fun event => decide (event.uid = uid)) = [] :=
          List.filter_eq_nil_iff.mpr fun event member isUid =>
            same ((sameUid event member).symm.trans (of_decide_eq_true isUid))
        rw [none_, isCounted, decide_eq_false same, Bool.and_false]
        rfl

/-- The events of a file are those that its components give. -/
theorem parsed_events {id content : String} {expansionDays : Nat} {now : DateTime} {entry : CalendarEntry}
    (parsed : parseIcsAt crates id content expansionDays now house = .ok (some entry)) :
    ∃ components events, crates.readCalendar content = some components ∧
      components.mapM (componentEvents crates (replacedOf crates components house) now
        (now + expansionDays * (24 * hourLength)) house) = .ok events ∧
      entry.events.Perm events.flatten := by
  rw [parseIcsAt] at parsed
  split at parsed
  · cases parsed
  · rename_i components isCalendar
    obtain ⟨windowEnd, checked, parsed⟩ := Outcome.bind_ok.mp parsed
    obtain rfl := checkedMoment_ok checked
    obtain ⟨events, made, parsed⟩ := Outcome.bind_ok.mp parsed
    obtain rfl := Option.some.inj (Outcome.pure_ok.mp parsed)
    exact ⟨components, events, isCalendar, made, List.mergeSort_perm _ _⟩

/-- The occurrences of a UID are the starts that its events in the file stand for, each of
them once for each event that stands for it. -/
theorem occurrences_stand_for (crates : CalendarCrates) (occurs : crates.Series → Set DateTime)
    (expands : Expands crates occurs) (id content uid : String) (expansionDays : Nat) (now : DateTime)
    (house : crates.Zone) (entry : CalendarEntry)
    (parsed : parseIcsAt crates id content expansionDays now house = .ok (some entry)) :
    ∃ components, crates.readCalendar content = some components ∧
      ∃ starts : IcsComponent → List DateTime,
        ((entry.events.filter fun event => decide (event.uid = uid)).map (·.start)).Perm
          ((components.filter fun component =>
            counts crates house component && decide (uidOf crates component = uid)).flatMap starts) ∧
        ∀ component ∈ components, counts crates house component = true →
          StandsFor crates occurs (replacedOf crates components house) house now
            (now + expansionDays * (24 * hourLength)) component (starts component) := by
  obtain ⟨components, events, isCalendar, made, sameEvents⟩ := parsed_events parsed
  refine ⟨components, isCalendar, startsIn (replacedOf crates components house) now
    (now + expansionDays * (24 * hourLength)) house, ?_, ?_⟩
  · rw [← starts_of_uid (Outcome.mapM_ok.mp made)]
    exact (sameEvents.filter _).map _
  · intro component member isCounted
    obtain ⟨own, _, isMade⟩ := Outcome.mapM_mem made member
    rcases componentEvents_ok isMade with ⟨leftOut, _⟩ | ⟨_, _, start, duration, starts, lasts, sameStarts⟩
    · rw [leftOut] at isCounted
      cases isCounted
    · rw [startsIn, isMade]
      simp only [sameStarts]
      exact startsOf_standsFor expands starts lasts

/-! ## Files whose moments the time library represents -/

theorem checkedMoment_within {nanos : DateTime} (above : minMoment ≤ nanos) (below : nanos ≤ maxMoment) :
    checkedMoment nanos = .ok nanos :=
  if_pos ⟨above, below⟩

/-- The length of an event can be read, and none of its moments leaves the range. -/
def Represented (crates : CalendarCrates) (now windowEnd : DateTime) (house : crates.Zone)
    (component : IcsComponent) : Prop :=
  ∀ start, propWhen crates component "DTSTART" house = some start →
    ∃ duration, durationOf crates component start house = .ok duration ∧
      minMoment ≤ now - duration ∧ windowEnd + duration ≤ maxMoment

theorem componentEvents_of_represented {now windowEnd : DateTime}
    (represented : Represented crates now windowEnd house component)
    (later : now ≤ windowEnd) :
    ∃ events, componentEvents crates replaced now windowEnd house component = .ok events := by
  rw [componentEvents]
  split
  · exact ⟨_, rfl⟩
  · split
    · exact ⟨_, rfl⟩
    · rename_i start starts
      obtain ⟨duration, lasts, above, below⟩ := represented start starts
      have long : 0 ≤ duration := durationOf_nonneg lasts
      have first : checkedMoment (now - duration) = .ok (now - duration) :=
        checkedMoment_within above (by linarith)
      rw [lasts]
      cases made : (startsOf crates replaced component start house (now - duration) windowEnd).mapM
          fun t => do
            let final ← checkedMoment (t + duration)
            pure (CalEvent.mk (uidOf crates component) (summaryOf crates component) t final
              start.dateOnly) with
      | ok events =>
        exact ⟨events, Outcome.bind_ok.mpr ⟨duration, rfl, Outcome.bind_ok.mpr ⟨_, first, made⟩⟩⟩
      | error fault =>
        obtain ⟨t, isStart, failed⟩ := Outcome.mapM_error made
        obtain ⟨after, before⟩ := startsOf_within isStart
        have final : checkedMoment (t + duration) = .ok (t + duration) :=
          checkedMoment_within (by linarith) (by linarith)
        rw [final] at failed
        cases failed

/-- A file is read whose events are so represented. -/
theorem parsed_of_represented (id : String) {content : String} {expansionDays : Nat} {now : DateTime}
    {components : List IcsComponent} (isCalendar : crates.readCalendar content = some components)
    (above : minMoment ≤ now) (below : now + expansionDays * (24 * hourLength) ≤ maxMoment)
    (represented : ∀ component ∈ components,
      Represented crates now (now + expansionDays * (24 * hourLength)) house component) :
    ∃ entry, parseIcsAt crates id content expansionDays now house = .ok (some entry) := by
  have days : (0 : Int) ≤ expansionDays * (24 * hourLength) :=
    Int.mul_nonneg (Int.natCast_nonneg _) (by decide)
  have later : now ≤ now + expansionDays * (24 * hourLength) := Int.le_add_of_nonneg_right days
  have endMoment := checkedMoment_within (above.trans later) below
  rw [parseIcsAt, isCalendar]
  cases made : components.mapM (componentEvents crates (replacedOf crates components house) now
      (now + expansionDays * (24 * hourLength)) house) with
  | ok events => exact ⟨_, Outcome.bind_ok.mpr ⟨_, endMoment, Outcome.bind_ok.mpr ⟨events, made, rfl⟩⟩⟩
  | error fault =>
    obtain ⟨component, member, failed⟩ := Outcome.mapM_error made
    obtain ⟨events, read⟩ := componentEvents_of_represented (represented component member) later
    rw [failed] at read
    cases read

/-! ## A calendar of a plain time zone -/

/-- Of times in order, the first are those with few enough before them. -/
theorem mem_take_of_ordered {times : List DateTime} (ordered : times.Pairwise (· < ·)) (limit : Nat)
    (t : DateTime) : t ∈ times.take limit ↔ t ∈ times ∧ {u | u ∈ times ∧ u < t}.encard < limit := by
  induction times generalizing limit with
  | nil => simp
  | cons first times ih =>
    obtain ⟨isFirst, ordered⟩ := List.pairwise_cons.mp ordered
    cases limit with
    | zero => simp
    | succ limit =>
      rw [List.take_succ_cons, List.mem_cons, List.mem_cons, ih ordered limit]
      by_cases same : t = first
      · subst same
        have noneBefore : {u | u ∈ t :: times ∧ u < t} = ∅ := by
          refine Set.eq_empty_of_forall_notMem ?_
          rintro u ⟨member, before⟩
          rcases List.mem_cons.mp member with rfl | later
          · exact lt_irrefl _ before
          · exact lt_asymm before (isFirst u later)
        rw [noneBefore, Set.encard_empty, Nat.cast_add, Nat.cast_one]
        simp
      · simp only [same, false_or]
        refine and_congr_right fun member => ?_
        have before : {u | u ∈ first :: times ∧ u < t} = insert first {u | u ∈ times ∧ u < t} := by
          ext u
          simp only [Set.mem_ofPred_eq, Set.mem_insert_iff, List.mem_cons]
          constructor
          · rintro ⟨rfl | later, early⟩
            · exact .inl rfl
            · exact .inr ⟨later, early⟩
          · rintro (rfl | ⟨later, early⟩)
            · exact ⟨.inl rfl, isFirst t member⟩
            · exact ⟨.inr later, early⟩
        have isNew : first ∉ {u | u ∈ times ∧ u < t} := fun isIn => lt_irrefl _ (isFirst first isIn.1)
        rw [before, Set.encard_insert_of_notMem isNew, Nat.cast_add, Nat.cast_one]
        exact (ENat.add_lt_add_iff_right ENat.one_ne_top).symm

/-- A rule that recurs at a fixed distance, so many times and not after its last instant. -/
structure PlainRule where
  every : Int
  count : Nat
  last : Option DateTime

structure PlainSeries where
  first : DateTime
  rule : PlainRule

def PlainSeries.instants (series : PlainSeries) : Finset DateTime :=
  ((Finset.range series.rule.count).image fun i : Nat => series.first + (i : Int) * series.rule.every).filter
    fun t => series.rule.last.all fun last => decide (t ≤ last)

def PlainSeries.all (series : PlainSeries) (extra skip : List DateTime) (after before : DateTime)
    (limit : Nat) : List DateTime :=
  ((((series.instants ∪ extra.toFinset) \ skip.toFinset).filter fun t => after ≤ t ∧ t ≤ before).sort
    (· ≤ ·)).take limit

def dayLength : Int := 24 * hourLength

def minuteLength : Int := 60 * second

def dailyText : String := "\n".intercalate
  ["BEGIN:VCALENDAR",
    "BEGIN:VEVENT", "UID:bins", "DTSTART:20260101T070000Z", "RRULE:FREQ=DAILY;COUNT=4",
    "EXDATE:20260102T070000Z", "END:VEVENT",
    "BEGIN:VEVENT", "UID:bins", "RECURRENCE-ID:20260103T070000Z", "DTSTART:20260103T090000Z", "END:VEVENT",
    "END:VCALENDAR"]

def dailyComponents : List IcsComponent :=
  [⟨"VEVENT", [⟨"UID", [], "bins"⟩, ⟨"DTSTART", [], "20260101T070000Z"⟩,
      ⟨"RRULE", [], "FREQ=DAILY;COUNT=4"⟩, ⟨"EXDATE", [], "20260102T070000Z"⟩]⟩,
    ⟨"VEVENT", [⟨"UID", [], "bins"⟩, ⟨"RECURRENCE-ID", [], "20260103T070000Z"⟩,
      ⟨"DTSTART", [], "20260103T090000Z"⟩]⟩]

def minutelyText : String := "\n".intercalate
  ["BEGIN:VCALENDAR",
    "BEGIN:VEVENT", "UID:pulse", "DTSTART:20260101T070000Z", "RRULE:FREQ=MINUTELY;COUNT=2001", "END:VEVENT",
    "END:VCALENDAR"]

def minutelyEvent : IcsComponent :=
  ⟨"VEVENT", [⟨"UID", [], "pulse"⟩, ⟨"DTSTART", [], "20260101T070000Z"⟩,
    ⟨"RRULE", [], "FREQ=MINUTELY;COUNT=2001"⟩]⟩

/-- The midnight that begins 2026. -/
def newYearMidnight : DateTime := 20454 * dayLength

/-- A house on universal time. -/
def plainCrates : CalendarCrates where
  Zone := Unit
  Rule := PlainRule
  Series := PlainSeries
  readCalendar content :=
    if content = dailyText then some dailyComponents
    else if content = minutelyText then some [minutelyEvent]
    else none
  findProp component name := component.properties.find? fun prop => prop.name = name
  parseDate text := if text = "20260101" then some newYearMidnight else none
  parseDateTime text :=
    ([("20260101T070000", newYearMidnight + 7 * hourLength),
      ("20260102T070000", newYearMidnight + dayLength + 7 * hourLength),
      ("20260103T070000", newYearMidnight + 2 * dayLength + 7 * hourLength),
      ("20260103T090000", newYearMidnight + 2 * dayLength + 9 * hourLength)].lookup text)
  parseZone _ := none
  utc := ()
  earliest _ wall := some wall
  parseRule text :=
    if text = "FREQ=DAILY;COUNT=4" then some ⟨dayLength, 4, none⟩
    else if text = "FREQ=MINUTELY;COUNT=2001" then some ⟨minuteLength, 2001, none⟩
    else none
  count rule n := { rule with count := n }
  withUntil rule last := { rule with last := some last }
  build rule first _ := some ⟨first, rule⟩
  all := PlainSeries.all

def plainOccurs : plainCrates.Series → Set DateTime := fun series => PlainSeries.instants series

theorem plain_expands : Expands plainCrates plainOccurs where
  ordered series extra skip after before limit := by
    have sorted := Finset.sortedLT_sort
      (((series.instants ∪ extra.toFinset) \ skip.toFinset).filter fun t => after ≤ t ∧ t ≤ before)
    exact sorted.pairwise.sublist (List.take_sublist _ _)
  members series extra skip after before limit t := by
    have sorted := (Finset.sortedLT_sort (((series.instants ∪ extra.toFinset) \ skip.toFinset).filter
      fun t => after ≤ t ∧ t ≤ before)).pairwise
    refine (mem_take_of_ordered sorted limit t).trans ?_
    simp only [Finset.mem_sort, Finset.mem_filter, Finset.mem_sdiff, Finset.mem_union, List.mem_toFinset]
    have sameBefore : t ≤ before →
        {u | (((u ∈ series.instants ∨ u ∈ extra) ∧ u ∉ skip) ∧ after ≤ u ∧ u ≤ before) ∧ u < t} =
          {u | ((u ∈ series.instants ∨ u ∈ extra) ∧ u ∉ skip) ∧ after ≤ u ∧ u < t} := by
      intro inTime
      ext u
      constructor
      · rintro ⟨⟨isInstant, started, _⟩, early⟩
        exact ⟨isInstant, started, early⟩
      · rintro ⟨isInstant, started, early⟩
        exact ⟨⟨isInstant, started, early.le.trans inTime⟩, early⟩
    constructor
    · rintro ⟨⟨isInstant, started, inTime⟩, few⟩
      rw [sameBefore inTime] at few
      exact ⟨isInstant, started, inTime, few⟩
    · rintro ⟨isInstant, started, inTime, few⟩
      refine ⟨⟨isInstant, started, inTime⟩, ?_⟩
      rw [sameBefore inTime]
      exact few

theorem daily_read : plainCrates.readCalendar dailyText = some dailyComponents := by
  simp only [plainCrates, if_true]

theorem daily_represented : ∀ component ∈ dailyComponents,
    Represented plainCrates newYearMidnight (newYearMidnight + (10 : Nat) * (24 * hourLength))
      plainCrates.utc component := by
  intro component member start starts
  refine ⟨0, ?_, by decide, by decide⟩
  simp only [dailyComponents, List.mem_cons, List.not_mem_nil, or_false] at member
  rcases member with rfl | rfl
  · obtain rfl : ⟨newYearMidnight + 7 * hourLength, false, ()⟩ = start := Option.some.inj starts
    rfl
  · obtain rfl : ⟨newYearMidnight + 2 * dayLength + 9 * hourLength, false, ()⟩ = start :=
      Option.some.inj starts
    rfl

theorem daily_occurrences : ∃ entry,
    parseIcsAt plainCrates "home" dailyText 10 newYearMidnight plainCrates.utc = .ok (some entry) ∧
      ∃ components, plainCrates.readCalendar dailyText = some components ∧
        ∃ starts : IcsComponent → List DateTime,
          ((entry.events.filter fun event => decide (event.uid = "bins")).map (·.start)).Perm
            ((components.filter fun component => counts plainCrates plainCrates.utc component &&
              decide (uidOf plainCrates component = "bins")).flatMap starts) ∧
          ∀ component ∈ components, counts plainCrates plainCrates.utc component = true →
            StandsFor plainCrates plainOccurs (replacedOf plainCrates components plainCrates.utc)
              plainCrates.utc newYearMidnight (newYearMidnight + (10 : Nat) * (24 * hourLength)) component (starts component) := by
  obtain ⟨entry, parsed⟩ :=
    parsed_of_represented "home" daily_read (by decide) (by decide) daily_represented
  exact ⟨entry, parsed, occurrences_stand_for plainCrates _ plain_expands "home" dailyText "bins" 10
    newYearMidnight plainCrates.utc entry parsed⟩

/-- The occurrences of a component if there were no limit on them. -/
def allInstants (crates : CalendarCrates) (occurs : crates.Series → Set DateTime)
    (replaced : List (String × DateTime)) (house : crates.Zone) (component : IcsComponent)
    (start : When crates.Zone) : Set DateTime :=
  match ruleOf crates component start with
  | some (.series series) => instants crates occurs replaced house component series
  | _ => {t | (t = start.instant ∨ t ∈ datesOf crates component "RDATE" house) ∧
      t ∉ datesOf crates component "EXDATE" house ∧
        (isOverride crates house component = false → (uidOf crates component, t) ∉ replaced)}

/-- The occurrences of each UID are exactly those. -/
def OccurrencesExact (crates : CalendarCrates) (occurs : crates.Series → Set DateTime) : Prop :=
  ∀ id content uid expansionDays now house components entry,
    crates.readCalendar content = some components →
    parseIcsAt crates id content expansionDays now house = .ok (some entry) →
    ∀ t, (∃ event ∈ entry.events, event.uid = uid ∧ event.start = t) ↔
      ∃ component ∈ components, counts crates house component = true ∧ uidOf crates component = uid ∧
        ∃ start duration, propWhen crates component "DTSTART" house = some start ∧
          durationOf crates component start house = .ok duration ∧
          now - duration < t ∧ t ≤ now + (expansionDays : Nat) * (24 * hourLength) ∧
          t ∈ allInstants crates occurs (replacedOf crates components house) house component start

theorem minutely_read : plainCrates.readCalendar minutelyText = some [minutelyEvent] := by
  have other : minutelyText ≠ dailyText := by decide
  simp only [plainCrates, other, if_false, if_true]

def minutelyStart : When plainCrates.Zone := ⟨newYearMidnight + 7 * hourLength, false, ()⟩

def minutelySeries : plainCrates.Series :=
  PlainSeries.mk (newYearMidnight + 7 * hourLength) ⟨minuteLength, 2001, none⟩

theorem minutely_starts :
    propWhen plainCrates minutelyEvent "DTSTART" plainCrates.utc = some minutelyStart :=
  rfl

theorem minutely_lasts : durationOf plainCrates minutelyEvent minutelyStart plainCrates.utc = .ok 0 := rfl

theorem minutely_rule : ruleOf plainCrates minutelyEvent minutelyStart = some (.series minutelySeries) := by
  have noUntil : (splitText ';' "FREQ=MINUTELY;COUNT=2001").filterMap untilPart = [] := by
    decide +kernel
  have rest : ";".intercalate ((splitText ';' "FREQ=MINUTELY;COUNT=2001").filter fun part =>
      (untilPart part).isNone) = "FREQ=MINUTELY;COUNT=2001" := by
    decide +kernel
  have found : plainCrates.findProp minutelyEvent "RRULE" =
      some ⟨"RRULE", [], "FREQ=MINUTELY;COUNT=2001"⟩ := rfl
  rw [ruleOf, found, Option.map_some, readRule, noUntil, rest]
  rfl

/-- The instant that many minutes after the first. -/
def minute (i : Nat) : DateTime := newYearMidnight + 7 * hourLength + (i : Int) * minuteLength

theorem minute_injective : Function.Injective minute := by
  intro i j same
  have := Int.add_left_cancel same
  have := Int.eq_of_mul_eq_mul_right (by decide) this
  exact Int.ofNat.inj this

theorem minute_instant {i : Nat} (counted : i < 2001) :
    minute i ∈ instants plainCrates plainOccurs
      (replacedOf plainCrates [minutelyEvent] plainCrates.utc) plainCrates.utc minutelyEvent minutelySeries := by
  have noExdate : datesOf plainCrates minutelyEvent "EXDATE" plainCrates.utc = [] := by decide +kernel
  have noOverride : replacedOf plainCrates [minutelyEvent] plainCrates.utc = [] := by decide
  rw [instants, noExdate, noOverride]
  refine ⟨.inl ?_, List.not_mem_nil, List.not_mem_nil⟩
  refine Finset.mem_coe.mpr (Finset.mem_filter.mpr ⟨?_, rfl⟩)
  exact Finset.mem_image.mpr ⟨i, Finset.mem_range.mpr counted, rfl⟩

/-- As many come before the last as the limit allows. -/
theorem minutes_before_last :
    (maxOccurrences : ENat) ≤ {u | u ∈ instants plainCrates plainOccurs
      (replacedOf plainCrates [minutelyEvent] plainCrates.utc) plainCrates.utc minutelyEvent minutelySeries ∧
      newYearMidnight - 0 ≤ u ∧ u < minute 2000}.encard := by
  have counted : ((Finset.range 2000).image minute).card = maxOccurrences := by
    rw [Finset.card_image_of_injective _ minute_injective, Finset.card_range]
    rfl
  rw [← counted, ← Set.encard_coe_eq_coe_finsetCard]
  refine Set.encard_le_encard fun u isMinute => ?_
  obtain ⟨i, early, rfl⟩ := Finset.mem_image.mp (Finset.mem_coe.mp isMinute)
  have early : i < 2000 := Finset.mem_range.mp early
  refine ⟨minute_instant (by omega), ?_, ?_⟩
  · have positive : (0 : Int) ≤ 7 * hourLength + (i : Int) * minuteLength :=
      Int.add_nonneg (by decide) (Int.mul_nonneg (Int.natCast_nonneg _) (by decide))
    rw [minute, Int.sub_zero, Int.add_assoc]
    exact Int.le_add_of_nonneg_right positive
  · have longer : (i : Int) * minuteLength < (2000 : Int) * minuteLength :=
      Int.mul_lt_mul_of_pos_right (by omega) (by decide)
    exact Int.add_lt_add_left longer _

/-- The last of two thousand and one occurrences is left out. -/
theorem minutely_cut :
    Expands plainCrates plainOccurs ∧ ¬ OccurrencesExact plainCrates plainOccurs := by
  refine ⟨plain_expands, fun exact_ => ?_⟩
  have represented : ∀ component ∈ [minutelyEvent], Represented plainCrates newYearMidnight
      (newYearMidnight + (2 : Nat) * (24 * hourLength)) plainCrates.utc component := by
    intro component member start starts
    obtain rfl := List.mem_singleton.mp member
    obtain rfl : minutelyStart = start := Option.some.inj (minutely_starts.symm.trans starts)
    exact ⟨0, minutely_lasts, by decide, by decide⟩
  obtain ⟨entry, parsed⟩ :=
    parsed_of_represented "home" minutely_read (by decide) (by decide) represented
  obtain ⟨event, member, isUid, atLast⟩ : ∃ event ∈ entry.events, event.uid = "pulse" ∧
      event.start = minute 2000 := by
    refine (exact_ "home" minutelyText "pulse" 2 newYearMidnight plainCrates.utc [minutelyEvent] entry
      minutely_read parsed (minute 2000)).mpr ⟨minutelyEvent, List.mem_singleton_self _, rfl, rfl, minutelyStart, 0,
      minutely_starts, minutely_lasts, by decide, by decide, ?_⟩
    rw [allInstants, minutely_rule]
    exact minute_instant (by decide)
  obtain ⟨components, events, isCalendar, made, sameEvents⟩ := parsed_events parsed
  obtain rfl := Option.some.inj (minutely_read.symm.trans isCalendar)
  obtain ⟨own, rest, isMade, noMore, rfl⟩ := List.forall₂_cons_left_iff.mp (Outcome.mapM_ok.mp made)
  obtain rfl := List.forall₂_nil_left_iff.mp noMore
  have isStart : minute 2000 ∈ own.map (·.start) := by
    rw [← atLast]
    exact List.mem_map_of_mem (by simpa using sameEvents.mem_iff.mp member)
  rcases componentEvents_ok isMade with ⟨leftOut, _⟩ | ⟨_, _, start, duration, starts, lasts, sameStarts⟩
  · cases leftOut
  · obtain rfl := Option.some.inj (minutely_starts.symm.trans starts)
    obtain rfl := Except.ok.inj (minutely_lasts.symm.trans lasts)
    rw [sameStarts] at isStart
    obtain ⟨_, _, _, few⟩ := ((startsOf_standsFor plain_expands starts lasts).members minutelyStart 0
      minutelySeries starts lasts minutely_rule (minute 2000)).mp isStart
    exact absurd few (not_lt.mpr minutes_before_last)

end HomeCore.Calendars
