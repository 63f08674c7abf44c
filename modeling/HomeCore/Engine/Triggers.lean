import HomeCore.Types.Event
import HomeCore.Types.Text

/-! Matching bus events against rule triggers: the exact check, and the
pre-filter by which the dispatch loop skips it. The JSON parser is a parameter,
since the payload of an MQTT message is read by serde_json. -/
namespace HomeCore.Engine

def numCmp (a b : Json) : Option Ordering := do
  let af ← a.asF64
  let bf ← b.asF64
  pure (compare af bf)

/-- `compare` of a condition's operator. -/
def compareOp (actual : Json) (op : CompareOp) (expected : Json) : Bool :=
  match op with
  | .eq => actual == expected
  | .ne => actual != expected
  | .gt => numCmp actual expected == some .gt
  | .gte => numCmp actual expected == some .gt || numCmp actual expected == some .eq
  | .lt => numCmp actual expected == some .lt
  | .lte => numCmp actual expected == some .lt || numCmp actual expected == some .eq

/-- `+` is one level of a topic and `#` all the rest, the parent included. -/
def topicPartsMatch : List String → List String → Bool
  | [], [] => true
  | [], _ :: _ => false
  | p :: ps, ts =>
    if p == "#" then true
    else match ts with
      | [] => false
      | t :: ts => (p == "+" || p == t) && topicPartsMatch ps ts

def mqttTopicMatches (pattern topic : String) : Bool :=
  topicPartsMatch (splitText '/' pattern) (splitText '/' topic)

inductive TriggerResult where
  | matched
  | noMatch (reason : String)
  deriving DecidableEq

open TriggerResult

/-- Checks in order, the first that fails giving its reason. -/
def firstFailure : List (Bool × String) → TriggerResult
  | [] => matched
  | (holds, reason) :: rest => if holds then firstFailure rest else noMatch reason

def deviceStateCheck (deviceId : String) (deviceIds : List String) (attr : Option String)
    (toValue fromValue notFrom notTo : Option Json) (changeKind : Option DeviceChangeKind)
    (changeSource : Option String) (eid : String) (previous current : AttrMap)
    (change : DeviceChange) : TriggerResult :=
  if !(deviceId == eid || deviceIds.any (· == eid)) then noMatch "device_id mismatch"
  else
    let provenance :=
      firstFailure [
        (changeKind.all (change.kind == ·), "change_kind mismatch"),
        (changeSource.all (change.source == some ·), "change_source mismatch")]
    match attr with
    | none => provenance
    | some name => match current[name]? with
      | none => noMatch "attribute not in current state"
      | some currVal =>
        let prevVal := previous[name]?
        match firstFailure [
            (prevVal != some currVal, "attribute value unchanged"),
            (toValue.all (currVal == ·), "attribute did not change to expected value (to)"),
            (notTo.all (currVal != ·), "attribute changed to excluded value (not_to)"),
            (fromValue.all (prevVal == some ·), "previous value does not match 'from' filter"),
            (notFrom.all (prevVal != some ·), "previous value matches 'not_from' exclusion")] with
        | noMatch reason => noMatch reason
        | matched => provenance

def buttonAttr : ButtonEventType → String
  | .pushed => "pushed"
  | .held => "held"
  | .doubleTapped => "double_tapped"
  | .released => "released"

def buttonCheck (deviceId : String) (buttonNumber : Option Nat) (event : ButtonEventType)
    (eid : String) (previous current : AttrMap) : TriggerResult :=
  if deviceId != eid then noMatch "device_id mismatch"
  else match current[buttonAttr event]? with
    | none => noMatch "button attribute not in current state"
    | some newVal => firstFailure [
        (previous[buttonAttr event]? != some newVal, "button attribute value unchanged"),
        (buttonNumber.all ((newVal.asU64.getD 0) % 2 ^ 32 == ·), "button number mismatch")]

def thresholdFires (op : ThresholdOp) (threshold curr : Rat) (prev : Option Rat) : Bool :=
  match op with
  | .above => threshold < curr
  | .below => curr < threshold
  | .crossesAbove => prev.any (· ≤ threshold) && threshold < curr
  | .crossesBelow => prev.any (threshold ≤ ·) && curr < threshold

def thresholdCheck (deviceId name : String) (op : ThresholdOp) (threshold : Rat) (eid : String)
    (previous current : AttrMap) : TriggerResult :=
  if deviceId != eid then noMatch "device_id mismatch"
  else match current[name]?.bind Json.asF64 with
    | none => noMatch "attribute not numeric in current state"
    | some curr =>
      if thresholdFires op threshold curr (previous[name]?.bind Json.asF64) then matched
      else noMatch "threshold condition not met"

def mqttCheck (parseJson : String → Option Json) (topicPattern : String)
    (expectedPayload valuePath : Option String) (valueOp : Option CompareOp)
    (valueCmp : Option Json) (topic : String) (payload : List UInt8) : TriggerResult :=
  let payloadStr := fromUtf8Lossy payload
  if !mqttTopicMatches topicPattern topic then noMatch "topic pattern mismatch"
  else if !expectedPayload.all (payloadStr == ·) then noMatch "payload mismatch"
  else match valuePath, valueOp, valueCmp with
    | some path, some op, some cmp => match parseJson payloadStr with
      | none => noMatch "payload is not valid JSON for value_path match"
      | some json => match json.pointer path with
        | none => noMatch "value_path not found in payload"
        | some actual =>
          if compareOp actual op cmp then matched else noMatch "value_path comparison failed"
    | _, _, _ => matched

def modeCheck (modeId : Option String) (toValue : Option Bool) (payload : Json) : TriggerResult :=
  firstFailure [
    (modeId.all fun expected => (payload.get "mode_id").bind Json.asStr == some expected,
      "mode_id mismatch"),
    (toValue.all fun expected => ((payload.get "on").bind Json.asBool).getD false == expected,
      "mode 'to' state mismatch")]

/-- The battery triggers name one device or any. -/
def batteryCheck (wanted : Option String) (eid : String) : TriggerResult :=
  firstFailure [(wanted.all (· == eid), "device_id mismatch")]

def alertClearedCheck (filter : AlertFilter) (alert : Option Alert) : TriggerResult :=
  match alert with
  | some a => if filter.selects a then matched else noMatch "not an alert like that"
  -- A core that did not say which alert: only a rule that asked for any matches.
  | none => if filter = {} then matched else noMatch "not an alert like that"

/-- `trigger_check`, its arms in the order of the source. -/
def triggerCheck (parseJson : String → Option Json) (trigger : Trigger) (event : Event) :
    TriggerResult :=
  match trigger, event with
  | .deviceStateChanged deviceId deviceIds attr toValue fromValue notFrom notTo _ kind source,
      .deviceStateChanged _ eid _ previous current _ change =>
    deviceStateCheck deviceId deviceIds attr toValue fromValue notFrom notTo kind source eid
      previous current change
  | .buttonEvent deviceId number button, .deviceStateChanged _ eid _ previous current _ _ =>
    buttonCheck deviceId number button eid previous current
  | .numericThreshold deviceId name op value _, .deviceStateChanged _ eid _ previous current _ _ =>
    thresholdCheck deviceId name op value eid previous current
  | _, .deviceStateChanged .. => noMatch "wrong trigger type for DeviceStateChanged"
  | .mqttMessage pattern expected path op cmp, .mqttMessage _ topic payload _ =>
    mqttCheck parseJson pattern expected path op cmp topic payload
  | .timeOfDay .., _ | .sunEvent .., _ | .cron .., _ | .periodic .., _ | .calendarEvent .., _ =>
    noMatch "handled by scheduler"
  | .webhookReceived path, .custom _ eventType payload =>
    if eventType != "webhook" then noMatch "not a webhook event"
    else if (payload.get "path").bind Json.asStr == some path then matched
    else noMatch "webhook path mismatch"
  | .customEvent eventType, .custom _ et _ =>
    if eventType == et then matched else noMatch "event_type mismatch"
  | .systemStarted, .custom _ eventType _ =>
    if eventType == "system_started" then matched else noMatch "not system_started"
  | .hubVariableChanged filter, .custom _ eventType payload =>
    if eventType == "hub_variable_changed" then
      match filter with
      | none => matched
      | some n =>
        if (payload.get "name").bind Json.asStr == some n then matched
        else noMatch "hub variable name mismatch"
    else noMatch "event type does not match trigger type"
  | .modeChanged modeId toValue, .custom _ eventType payload =>
    if eventType == "mode_changed" then modeCheck modeId toValue payload
    else noMatch "event type does not match trigger type"
  | .manualTrigger, _ => noMatch "manual trigger only fires via API"
  | .deviceAvailabilityChanged deviceId toValue _,
      .deviceAvailabilityChanged _ evDevice _ available =>
    firstFailure [
      (deviceId == evDevice, "device_id mismatch"),
      (toValue.all (· == available), "availability mismatch")]
  | _, .deviceAvailabilityChanged .. => noMatch "wrong trigger type for DeviceAvailabilityChanged"
  | .deviceBatteryLow wanted, .deviceBatteryLow _ evDevice .. => batteryCheck wanted evDevice
  | _, .deviceBatteryLow .. => noMatch "wrong trigger type for DeviceBatteryLow"
  | .deviceBatteryRecovered wanted, .deviceBatteryRecovered _ evDevice .. =>
    batteryCheck wanted evDevice
  | _, .deviceBatteryRecovered .. => noMatch "wrong trigger type for DeviceBatteryRecovered"
  | .alertRaised filter, .alertRaised _ alert update =>
    if update then noMatch "an alert already active changed, not a new one"
    else if filter.selects alert then matched
    else noMatch "not an alert like that"
  | .alertCleared filter, .alertCleared _ _ _ alert => alertClearedCheck filter alert
  | .alertAcknowledged filter, .alertAcknowledged _ alert =>
    if filter.selects alert then matched else noMatch "not an alert like that"
  | _, _ => noMatch "event type does not match trigger type"

/-- The event types that the pre-filter reserves for a trigger kind of their own. -/
def reservedEventTypes : List String :=
  ["webhook", "hub_variable_changed", "calendar_event", "system_started", "mode_changed"]

def customKindMatches (eventType : String) (trigger : Trigger) : Bool :=
  if eventType == "webhook" then (trigger matches .webhookReceived ..)
  else if eventType == "hub_variable_changed" then (trigger matches .hubVariableChanged ..)
  else if eventType == "calendar_event" then (trigger matches .calendarEvent ..)
  else if eventType == "system_started" then (trigger matches .systemStarted)
  else if eventType == "mode_changed" then (trigger matches .modeChanged ..)
  else (trigger matches .customEvent ..)

/-- `trigger_kind_can_match_event`. -/
def triggerKindCanMatchEvent (trigger : Trigger) (event : Event) : Bool :=
  if (trigger matches .timeOfDay .. | .sunEvent .. | .cron .. | .periodic ..
      | .alertActiveFor .. | .manualTrigger) then false
  else match event with
    | .deviceStateChanged .. =>
      (trigger matches .deviceStateChanged .. | .buttonEvent .. | .numericThreshold ..)
    | .deviceAvailabilityChanged .. => (trigger matches .deviceAvailabilityChanged ..)
    | .deviceBatteryLow .. => (trigger matches .deviceBatteryLow ..)
    | .deviceBatteryRecovered .. => (trigger matches .deviceBatteryRecovered ..)
    | .alertRaised .. => (trigger matches .alertRaised ..)
    | .alertCleared .. => (trigger matches .alertCleared ..)
    | .alertAcknowledged .. => (trigger matches .alertAcknowledged ..)
    | .mqttMessage .. => (trigger matches .mqttMessage ..)
    | .custom _ eventType _ => customKindMatches eventType trigger
    | _ => true

/-- A rule asking for a custom event by a name the pre-filter reserves. -/
def asksForReserved (trigger : Trigger) (event : Event) : Bool :=
  match trigger, event with
  | .customEvent eventType, .custom _ et _ => eventType == et && reservedEventTypes.contains et
  | _, _ => false

theorem customKindMatches_of_matched {parseJson} {trigger : Trigger} {timestamp eventType payload}
    (free : asksForReserved trigger (.custom timestamp eventType payload) = false)
    (checked : triggerCheck parseJson trigger (.custom timestamp eventType payload) = matched) :
    customKindMatches eventType trigger = true := by
  cases trigger with
  | webhookReceived path =>
    simp only [triggerCheck] at checked
    split at checked
    · contradiction
    · simp_all [customKindMatches]
  | customEvent name =>
    simp only [triggerCheck] at checked
    split at checked
    · simp_all [asksForReserved, reservedEventTypes, customKindMatches]
    · contradiction
  | systemStarted =>
    simp only [triggerCheck] at checked
    split at checked
    · simp_all [customKindMatches]
    · contradiction
  | hubVariableChanged filter =>
    simp only [triggerCheck] at checked
    split at checked
    · simp_all [customKindMatches]
    · contradiction
  | modeChanged modeId toValue =>
    simp only [triggerCheck] at checked
    split at checked
    · simp_all [customKindMatches]
    · contradiction
  | _ => simp [triggerCheck] at checked

theorem canMatch_of_matched {parseJson} {trigger : Trigger} {event : Event}
    (free : asksForReserved trigger event = false)
    (checked : triggerCheck parseJson trigger event = matched) :
    triggerKindCanMatchEvent trigger event = true := by
  cases event with
  | custom timestamp eventType payload =>
    have kind := customKindMatches_of_matched free checked
    cases trigger <;> first | exact kind | simp [triggerCheck] at checked
  | _ => cases trigger <;> first | rfl | simp [triggerCheck] at checked

/-- The pre-filter loses a firing exactly where a rule asks for a custom event
by a reserved name: the event's own kind is let through, the `CustomEvent`
trigger that `trigger_check` would match is not. -/
theorem prefilter_conservative_iff (parseJson : String → Option Json) (trigger : Trigger)
    (event : Event) :
    (triggerCheck parseJson trigger event = matched →
      triggerKindCanMatchEvent trigger event = true) ↔ asksForReserved trigger event = false := by
  constructor
  · intro conservative
    by_contra reserved
    cases trigger <;> cases event <;> try contradiction
    rename_i eventType timestamp name payload
    simp only [asksForReserved, Bool.not_eq_false, Bool.and_eq_true, beq_iff_eq] at reserved
    obtain ⟨rfl, listed⟩ := reserved
    have dropped := conservative (by simp [triggerCheck])
    simp only [reservedEventTypes, List.contains_iff_mem, List.mem_cons, List.not_mem_nil,
      or_false] at listed
    rcases listed with rfl | rfl | rfl | rfl | rfl <;>
      simp [triggerKindCanMatchEvent, customKindMatches] at dropped
  · exact canMatch_of_matched

/-- A rule that starts on the `mode_changed` event every mode switch emits. -/
theorem prefilter_drops_mode_changed :
    ¬ ∀ (parseJson : String → Option Json) (trigger : Trigger) (event : Event),
      triggerCheck parseJson trigger event = matched →
        triggerKindCanMatchEvent trigger event = true := by
  intro conservative
  have dropped := conservative (fun _ => none) (.customEvent "mode_changed")
    (.custom 0 "mode_changed" (.obj [("mode_id", .str "mode_night"), ("on", .bool true)]))
    (by decide)
  exact absurd dropped (by decide)

end HomeCore.Engine
