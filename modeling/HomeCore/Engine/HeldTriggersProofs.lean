import HomeCore.Engine.HeldTriggers

/-! A held trigger fires only when it was held, for as long as nothing returns
while a timer sleeps. -/
namespace HomeCore.Engine

theorem knownAt_cons_of_lt {past : List (DateTime × Known)} {since moment : DateTime} {known : Known}
    (earlier : moment < since) : knownAt ((since, known) :: past) moment = knownAt past moment := by
  simp [knownAt, Int.not_le.mpr earlier]

theorem knownAt_cons_of_le {past : List (DateTime × Known)} {since moment : DateTime} {known : Known}
    (later : since ≤ moment) : knownAt ((since, known) :: past) moment = some known := by
  simp [knownAt, later]

theorem HeldThroughout.cons {past : List (DateTime × Known)} {timer : HoldTimer} {since : DateTime}
    {known : Known} (held : HeldThroughout past timer) (ended : timer.due ≤ since) :
    HeldThroughout ((since, known) :: past) timer := by
  intro moment start finish
  rw [knownAt_cons_of_lt (Int.lt_of_lt_of_le finish ended)]
  exact held moment start finish

/-- Only the watched attribute counts. -/
theorem stateSatisfies_congr {trigger : Trigger} {a b : AttrMap}
    (same : ∀ attr, watchedAttr trigger = some attr → a[attr]? = b[attr]?) :
    stateSatisfies trigger (some a) = stateSatisfies trigger (some b) := by
  cases trigger with
  | deviceStateChanged deviceId deviceIds attr =>
    cases attr with
    | none => rfl
    | some name => simp only [stateSatisfies, same name rfl]
  | numericThreshold deviceId name => simp only [stateSatisfies, Option.bind_some, same name rfl]
  | _ => rfl

/-- A trigger that must hold is matched by a report that has the attribute it
watches, or by a change of availability it is about. -/
theorem matched_held {parseJson : String → Option Json} {trigger : Trigger} {event : Event} {secs : Nat}
    (lasts : triggerForDuration trigger = some secs)
    (isMatch : triggerCheck parseJson trigger event = .matched) :
    (∃ timestamp deviceId name previous current changed change,
      event = .deviceStateChanged timestamp deviceId name previous current changed change ∧
      ∀ attr, watchedAttr trigger = some attr → attr ∈ current) ∨
    (∃ deviceId toValue secs, trigger = .deviceAvailabilityChanged deviceId toValue secs) := by
  cases trigger with
  | deviceAvailabilityChanged deviceId toValue secs => exact .inr ⟨deviceId, toValue, secs, rfl⟩
  | deviceStateChanged deviceId deviceIds attr =>
    cases event with
    | deviceStateChanged timestamp eid name previous current changed change =>
      refine .inl ⟨timestamp, eid, name, previous, current, changed, change, rfl, ?_⟩
      intro watched isWatched
      obtain rfl : attr = some watched := isWatched
      simp only [triggerCheck, deviceStateCheck] at isMatch
      split at isMatch
      · cases isMatch
      · cases found : current[watched]? with
        | none => simp [found] at isMatch
        | some value => simp [Std.ExtTreeMap.mem_iff_isSome_getElem?, found]
    | _ => simp [triggerCheck] at isMatch
  | numericThreshold deviceId name =>
    cases event with
    | deviceStateChanged timestamp eid label previous current changed change =>
      refine .inl ⟨timestamp, eid, label, previous, current, changed, change, rfl, ?_⟩
      intro watched isWatched
      obtain rfl : name = watched := Option.some.inj isWatched
      simp only [triggerCheck, thresholdCheck] at isMatch
      split at isMatch
      · cases isMatch
      · cases found : current[name]? with
        | none => simp [found] at isMatch
        | some value => simp [Std.ExtTreeMap.mem_iff_isSome_getElem?, found]
    | _ => simp [triggerCheck] at isMatch
  | _ => simp [triggerForDuration] at lasts

/-- After a report that has the watched attribute, cache and report agree on it. -/
theorem cached_after_report {trigger : Trigger} {timestamp : DateTime} {deviceId : String}
    {name : Option String} {previous current : AttrMap} {changed : List String}
    {change : DeviceChange} (cache : Std.ExtTreeMap String AttrMap) (known : Known)
    (reported : ∀ attr, watchedAttr trigger = some attr → attr ∈ current) :
    let event := Event.deviceStateChanged timestamp deviceId name previous current changed change
    stateSatisfies trigger (cacheAttributes cache event)[deviceId]? =
      stateSatisfies trigger (known.observe event).attrs[deviceId]? := by
  simp only [cacheAttributes, Known.observe, Std.ExtTreeMap.getElem?_insert_self]
  apply stateSatisfies_congr
  intro attr watched
  have isReported := reported attr watched
  rw [Std.ExtTreeMap.mem_iff_isSome_getElem?] at isReported
  obtain ⟨value, found⟩ := Option.isSome_iff_exists.mp isReported
  split
  · rw [getElem?_mergeAttributes, found]
    rfl
  · rfl

/-- An event leaves the attributes of the devices it is not a report of. -/
theorem untouched_by {event : Event} {deviceId : String}
    (other : ∀ timestamp name previous current changed change,
      event ≠ .deviceStateChanged timestamp deviceId name previous current changed change)
    (cache : Std.ExtTreeMap String AttrMap) (known : Known) :
    (cacheAttributes cache event)[deviceId]? = cache[deviceId]? ∧
      (known.observe event).attrs[deviceId]? = known.attrs[deviceId]? := by
  cases event with
  | deviceStateChanged timestamp eid name previous current changed change =>
    have differ : ¬ compare eid deviceId = .eq := by
      intro same
      obtain rfl := Std.LawfulEqCmp.eq_of_compare same
      exact other timestamp name previous current changed change rfl
    simp only [cacheAttributes, Known.observe, Std.ExtTreeMap.getElem?_insert, if_neg differ, and_self]
  | _ => exact ⟨rfl, rfl⟩

section Invariant
variable {wire : Wire} {rules : List Rule} {holding : Holding} {time : DateTime}

/-- A timer of this event, with the trigger it is for. -/
theorem mem_arm {event : Event} {timer : HoldTimer} (armed : timer ∈ arm wire rules time event) :
    timer.armedAt = time ∧ timer.device = eventDevice event ∧
      (∃ secs, triggerForDuration timer.trigger = some secs) ∧
      triggerCheck wire.parseJson timer.trigger event = .matched := by
  obtain ⟨rule, _, found⟩ := List.mem_filterMap.mp armed
  obtain ⟨⟨index, trigger⟩, isFound, lasting⟩ := Option.bind_eq_some_iff.mp found
  obtain ⟨secs, lasts, rfl⟩ := Option.map_eq_some_iff.mp lasting
  refine ⟨rfl, rfl, ⟨secs, lasts⟩, ?_⟩
  obtain ⟨⟨matched, place⟩, first, same⟩ := Option.map_eq_some_iff.mp isFound
  cases same
  have passes := List.find?_some first
  simpa using (Bool.and_eq_true_iff.mp passes).2

/-- A timer of this event is tracked from the start. -/
theorem tracked_armed {event : Event} {timer : HoldTimer}
    (armed : timer ∈ arm wire rules time event) (own : timer.device = ownDevice timer.trigger) :
    Tracked ({ holding with now := time }.react wire rules (.event time event)) timer := by
  obtain ⟨armedAt, device, ⟨secs, lasts⟩, isMatch⟩ := mem_arm armed
  refine ⟨own, ?_, ?_⟩
  · rcases matched_held lasts isMatch with
      ⟨timestamp, deviceId, name, previous, current, changed, change, rfl, reported⟩ |
      ⟨deviceId, toValue, secs, isAvailability⟩
    · simp only [device, eventDevice, Option.bind_some, Holding.react]
      exact cached_after_report holding.cache holding.known reported
    · simp only [isAvailability, stateSatisfies]
  · intro _ moment start finish
    exact absurd finish (Int.not_lt.mpr (armedAt ▸ start))

/-- A sleeping timer whose predicate holds now has held at every moment since it
was armed, those to come included as far as nothing is heard. -/
theorem HoldInvariant.holds_since (invariant : HoldInvariant holding) {timer : HoldTimer}
    (tracked : Tracked holding timer) (satisfied : timer.satisfied holding.known = true)
    {moment : DateTime} (start : timer.armedAt ≤ moment) :
    ∃ known, knownAt holding.past moment = some known ∧ timer.satisfied known = true := by
  by_cases before : moment < holding.now
  · exact tracked.held satisfied moment start before
  · exact ⟨holding.known, invariant.present moment (Int.not_lt.mp before), satisfied⟩

/-- One that sleeps is tracked on, as nothing returns. -/
theorem tracked_event {event : Event} {timer : HoldTimer} (invariant : HoldInvariant holding)
    (asleep : timer ∈ holding.sleeping)
    (steady : Steady wire rules holding time event) :
    Tracked ({ holding with now := time }.react wire rules (.event time event)) timer := by
  have tracked := invariant.sleeping timer asleep
  refine ⟨tracked.own, ?_, ?_⟩
  · simp only [Holding.react]
    cases isDevice : timer.device with
    | none => rfl
    | some deviceId =>
      simp only [Option.bind_some]
      by_cases reportOf : ∃ timestamp name previous current changed change,
          event = .deviceStateChanged timestamp deviceId name previous current changed change
      · obtain ⟨timestamp, name, previous, current, changed, change, rfl⟩ := reportOf
        refine cached_after_report holding.cache holding.known fun attr watched => ?_
        exact steady.reports timer asleep timestamp deviceId name previous current changed change
          attr rfl isDevice watched
      · simp only [not_exists] at reportOf
        obtain ⟨cacheEq, knownEq⟩ := untouched_by reportOf holding.cache holding.known
        rw [cacheEq, knownEq]
        simpa [isDevice] using tracked.cached
  · simp only [Holding.react]
    intro nowSatisfied moment start finish
    have wasSatisfied : timer.satisfied holding.known = true := by
      by_contra broken
      rw [Bool.not_eq_true] at broken
      simp [steady.stays timer asleep broken] at nowSatisfied
    rw [knownAt_cons_of_lt finish]
    exact invariant.holds_since tracked wasSatisfied start

/-- Time passes, timers stop sleeping, and requests that were due come up. -/
theorem HoldInvariant.later (invariant : HoldInvariant holding) (ahead : holding.now ≤ time)
    {sleeping published : List HoldTimer} {fired : List (HoldTimer × Rule)}
    (fewer : ∀ timer ∈ sleeping, timer ∈ holding.sleeping)
    (dueNow : ∀ timer ∈ published, timer ∈ holding.published ∨
      timer.due ≤ time ∧ HeldThroughout holding.past timer)
    (firedNow : ∀ timer rule, (timer, rule) ∈ fired → (timer, rule) ∈ holding.fired ∨
      timer ∈ holding.published) :
    HoldInvariant { holding with now := time, sleeping := sleeping, published := published
                                 fired := fired } := by
  refine ⟨?_, ?_, ?_, ?_⟩
  · intro moment later
    exact invariant.present moment (Int.le_trans ahead later)
  · intro timer member
    have tracked := invariant.sleeping timer (fewer timer member)
    refine ⟨tracked.own, tracked.cached, ?_⟩
    intro nowSatisfied moment start finish
    exact invariant.holds_since tracked nowSatisfied start
  · intro timer member
    rcases dueNow timer member with already | held
    · obtain ⟨ended, held⟩ := invariant.published timer already
      exact ⟨Int.le_trans ended ahead, held⟩
    · exact held
  · intro timer rule member
    rcases firedNow timer rule member with already | requested
    · obtain ⟨ended, held⟩ := invariant.fired timer rule already
      exact ⟨Int.le_trans ended ahead, held⟩
    · obtain ⟨ended, held⟩ := invariant.published timer requested
      exact ⟨Int.le_trans ended ahead, held⟩

/-- What the second look sees is the device that started the timer. -/
theorem satisfied_of_passesAgain {timer : HoldTimer} (tracked : Tracked holding timer)
    (passes : passesAgain holding timer = true) : timer.satisfied holding.known = true := by
  obtain ⟨matchesStill, available⟩ := Bool.and_eq_true_iff.mp passes
  have own := tracked.own
  have cached := tracked.cached
  unfold HoldTimer.satisfied
  rw [← cached, own]
  cases isTrigger : timer.trigger with
  | deviceStateChanged deviceId =>
    simpa [ownDevice, stillMatchesForDuration, isTrigger] using matchesStill
  | numericThreshold deviceId =>
    simpa [ownDevice, stillMatchesForDuration, isTrigger] using matchesStill
  | deviceAvailabilityChanged deviceId =>
    simpa [ownDevice, stateSatisfies, availabilityHeld, isTrigger] using available
  | _ => simp [stateSatisfies]

theorem holdInvariant_event (invariant : HoldInvariant holding) {time : DateTime} {event : Event}
    (ahead : holding.now ≤ time) (steady : Steady wire rules holding time event) :
    HoldInvariant ({ holding with now := time }.react wire rules (.event time event)) := by
  refine ⟨?_, ?_, ?_, ?_⟩
  · intro moment later
    exact knownAt_cons_of_le later
  · intro timer member
    rcases List.mem_append.mp member with asleep | armed
    · exact tracked_event invariant asleep steady
    · exact tracked_armed armed (steady.own timer armed)
  · intro timer member
    obtain ⟨ended, held⟩ := invariant.published timer member
    exact ⟨Int.le_trans ended ahead, held.cons (Int.le_trans ended ahead)⟩
  · intro timer rule member
    obtain ⟨ended, held⟩ := invariant.fired timer rule member
    exact ⟨Int.le_trans ended ahead, held.cons (Int.le_trans ended ahead)⟩

theorem holdInvariant_wake (invariant : HoldInvariant holding) {time : DateTime} (which : Nat)
    (ahead : holding.now ≤ time) :
    HoldInvariant ({ holding with now := time }.react wire rules (.wake time which)) := by
  simp only [Holding.react]
  cases isTimer : holding.sleeping[which]? with
  | none => exact invariant.later ahead (fun _ => id) (fun _ => .inl) (fun _ _ => .inl)
  | some timer =>
    dsimp only
    split
    · rename_i isDue
      refine invariant.later ahead (fun _ => List.mem_of_mem_eraseIdx) ?_ (fun _ _ => .inl)
      intro requested member
      rcases List.mem_append.mp member with already | isNew
      · exact .inl already
      · split at isNew
        · rename_i passes
          obtain rfl := List.mem_singleton.mp isNew
          have tracked := invariant.sleeping requested (List.mem_of_getElem? isTimer)
          have satisfied := satisfied_of_passesAgain tracked passes
          refine .inr ⟨isDue, fun moment start _ => ?_⟩
          exact invariant.holds_since tracked satisfied start
        · cases isNew
    · exact invariant.later ahead (fun _ => id) (fun _ => .inl) (fun _ _ => .inl)

theorem holdInvariant_receive (invariant : HoldInvariant holding) {time : DateTime}
    (ahead : holding.now ≤ time) :
    HoldInvariant ({ holding with now := time }.react wire rules (.receive time)) := by
  simp only [Holding.react]
  cases requests : holding.published with
  | nil => exact invariant.later ahead (fun _ => id) (by simp) (fun _ _ => .inl)
  | cons timer others =>
    refine invariant.later ahead (fun _ => id) ?_ ?_
    · intro other member
      exact .inl (requests ▸ List.mem_cons_of_mem timer member)
    · intro other rule member
      rcases List.mem_append.mp member with isNew | already
      · obtain ⟨selected, _, same⟩ := List.mem_map.mp isNew
        cases same
        exact .inr (requests ▸ List.mem_cons_self)
      · exact .inl already

theorem holdInvariant_step (invariant : HoldInvariant holding) (input : HoldInput)
    (steady : StepsSteadily wire rules holding input) :
    HoldInvariant (holding.step wire rules input) := by
  unfold Holding.step
  split
  · rename_i ahead
    cases input with
    | event time event => exact holdInvariant_event invariant ahead (steady ahead)
    | wake time which => exact holdInvariant_wake invariant which ahead
    | receive time => exact holdInvariant_receive invariant ahead
  · exact invariant

theorem holdInvariant_start (now : DateTime) (known : Known) :
    HoldInvariant (Holding.start now known) := by
  refine ⟨fun moment later => knownAt_cons_of_le later, ?_, ?_, ?_⟩
  all_goals
    intros
    simp_all [Holding.start]

/-- Over every run in which timers are armed by the trigger's own device and
nothing returns while one sleeps, the rule is fired by the second look only if
the trigger's predicate held, at every moment of the time it asks for, on the
device whose change armed it. -/
theorem fires_only_if_held (now : DateTime) (known : Known) (inputs : List HoldInput)
    (steady : Runs.EachStep (Holding.step wire rules) (StepsSteadily wire rules)
      (Holding.start now known) inputs) :
    Runs.Always (Holding.step wire rules) FiresOnlyHeld (Holding.start now known) inputs := by
  have throughout := Runs.invariant HoldInvariant
    (fun _ input invariant => holdInvariant_step invariant input) (holdInvariant_start now known) steady
  refine throughout.mono fun holding invariant timer rule fired => ?_
  exact (invariant.fired timer rule fired).2

end Invariant

/-! ## A door left open for five minutes -/

def doorRule : Rule :=
  Rule.minimal ⟨1⟩
    (.deviceStateChanged "door" [] (some "open") (some (.bool true)) none none none (some 300) none none)
    []

def doorStart : Holding :=
  Holding.start 0 ⟨Std.ExtTreeMap.ofList [("door", Std.ExtTreeMap.ofList [("open", Json.bool false)])], ∅⟩

/-- The door is seen to open, or to close, at a second. -/
def doorSeen (seconds : Int) (isOpen : Bool) : HoldInput :=
  .event (seconds * second)
    (.deviceStateChanged (seconds * second) "door" none
      (Std.ExtTreeMap.ofList [("open", Json.bool !isOpen)])
      (Std.ExtTreeMap.ofList [("open", Json.bool isOpen)]) ["open"] (.unknown (seconds * second)))

def noWire : Wire := ⟨fun _ => none, fun _ => none, fun _ => none, fun _ => .null⟩

/-- Opened once, it has been open when the rule fires. -/
theorem door_held_open :
    let step := Holding.step noWire [doorRule]
    let inputs := [doorSeen 0 true, .wake (300 * second) 0, .receive (300 * second)]
    (inputs.foldl step doorStart).fired.length = 1 ∧
      Runs.Always step FiresOnlyHeld doorStart inputs := by
  intro step inputs
  refine ⟨by decide, ?_⟩
  refine fires_only_if_held 0 _ inputs ⟨fun _ => ?_, trivial, trivial, trivial⟩
  refine ⟨by decide, ?_, ?_⟩
  all_goals
    intro timer asleep
    cases asleep

/-- Closed and opened again within the time, the rule fires for the first
opening, two minutes after the second. -/
theorem door_reopened_fires_early :
    let step := Holding.step noWire [doorRule]
    let inputs := [doorSeen 0 true, doorSeen 100 false, doorSeen 180 true,
      .wake (300 * second) 0, .receive (300 * second)]
    let holding := inputs.foldl step doorStart
    (holding.fired.any fun (timer, _) =>
      timer.armedAt ≤ 150 * second && 150 * second < timer.due &&
        (knownAt holding.past (150 * second)).any (!timer.satisfied ·)) = true ∧
      ¬ Runs.Always step FiresOnlyHeld doorStart inputs := by
  intro step inputs holding
  have evaluated : (holding.fired.any fun (timer, _) =>
      timer.armedAt ≤ 150 * second && 150 * second < timer.due &&
        (knownAt holding.past (150 * second)).any (!timer.satisfied ·)) = true := by
    decide
  refine ⟨evaluated, fun always => ?_⟩
  obtain ⟨⟨timer, rule⟩, fired, early⟩ := List.any_eq_true.mp evaluated
  simp only [Bool.and_eq_true, decide_eq_true_eq] at early
  obtain ⟨⟨start, finish⟩, broken⟩ := early
  obtain ⟨known, isKnown, satisfied⟩ := always.last timer rule fired (150 * second) start finish
  change knownAt holding.past _ = _ at isKnown
  simp [isKnown, satisfied] at broken

end HomeCore.Engine
