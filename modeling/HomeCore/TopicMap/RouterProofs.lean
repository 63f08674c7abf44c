import HomeCore.TopicMap.Router
import HomeCore.Splitting

/-! The way of a command back to the device that reported. A command pattern captures again
what it is filled with, whatever its shape; ids are made by replacing characters, so whether
the command's topic is the pattern filled with what was reported depends on the value and on
how the profile writes its command topics. -/
namespace HomeCore.TopicMap

variable {hash : HashOrder} {topic : Text} {payload : List UInt8} {profiles : List EcosystemProfile}
  {vars : Vars} {segments : List Segment}

/-! ## What is captured has no separator -/

def Unseparated (vars : Vars) : Prop :=
  ∀ (name : String) (value : Text), vars[name]? = some value → '/' ∉ value

theorem Unseparated.insert (unseparated : Unseparated vars) {name : String} {value : Text}
    (plain : '/' ∉ value) : Unseparated (vars.insert name value) := by
  intro other found lookup
  rw [Std.ExtTreeMap.getElem?_insert] at lookup
  split at lookup
  · cases lookup
    exact plain
  · exact unseparated other found lookup

theorem matchParts_unseparated {parts : List Text} {result : Vars} (unseparated : Unseparated vars)
    (plain : ∀ part ∈ parts, '/' ∉ part) (matched : matchParts vars segments parts = .matched result) :
    Unseparated result := by
  induction segments generalizing vars parts with
  | nil =>
    simp only [matchParts] at matched
    cases matched
    exact unseparated
  | cons segment rest ih =>
    cases parts with
    | nil =>
      simp only [matchParts] at matched
      cases matched
      exact unseparated
    | cons part later =>
      have first := plain part List.mem_cons_self
      have others : ∀ other ∈ later, '/' ∉ other := fun other member =>
        plain other (List.mem_cons_of_mem part member)
      cases segment with
      | literal text =>
        simp only [matchParts] at matched
        split at matched
        · exact ih unseparated others matched
        · cases matched
      | capture name =>
        simp only [matchParts] at matched
        exact ih (unseparated.insert first) others matched
      | partialCapture before name after =>
        simp only [matchParts] at matched
        split at matched
        · split at matched
          · refine ih (unseparated.insert ?_) others matched
            exact fun inside => first (List.mem_of_mem_take (List.mem_of_mem_drop inside))
          · cases matched
        · cases matched

theorem matchSegments_unseparated (matched : matchSegments segments topic = .matched vars) :
    Unseparated vars := by
  simp only [matchSegments] at matched
  split at matched
  · cases matched
  · refine matchParts_unseparated ?_ ?_ matched
    · intro name value lookup
      simp at lookup
    · intro part member inside
      exact (Splitting.mem_splitOn member '/' inside).2 rfl

/-! ## What a pattern is filled with it captures -/

/-- The texts of a segment have no separator. -/
def Segment.Whole : Segment → Prop
  | literal text => '/' ∉ text
  | capture _ => True
  | partialCapture before _ after => '/' ∉ before ∧ '/' ∉ after

theorem parseSegment_whole {text : Text} (plain : '/' ∉ text) : (parseSegment text).Whole := by
  simp only [parseSegment]
  split
  · split
    · split
      · trivial
      · refine ⟨fun inside => plain (List.mem_of_mem_take inside), fun inside => plain ?_⟩
        exact List.mem_of_mem_drop inside
    · exact plain
  · exact plain

theorem parsePattern_whole (pattern : Text) : ∀ segment ∈ parsePattern pattern, segment.Whole := by
  intro segment member
  obtain ⟨part, isPart, rfl⟩ := List.mem_map.mp member
  exact parseSegment_whole fun inside => (Splitting.mem_splitOn isPart '/' inside).2 rfl

theorem fill_whole {segment : Segment} {text : Text} (unseparated : Unseparated vars)
    (whole : segment.Whole) (filled : segment.fill vars = some text) : '/' ∉ text := by
  cases segment with
  | literal plain =>
    cases filled
    exact whole
  | capture name => exact unseparated name text filled
  | partialCapture before name after =>
    obtain ⟨value, lookup, rfl⟩ := Option.map_eq_some_iff.mp filled
    have inner := unseparated name value lookup
    simp only [List.mem_append, not_or]
    exact ⟨⟨whole.1, inner⟩, whole.2⟩

/-- The values of the segments' names laid over others. -/
def overlaid (segments : List Segment) (values earlier : Vars) (name : String) : Option Text :=
  if segments.any (·.name? = some name) then values[name]? else earlier[name]?

theorem overlaid_literal (values earlier : Vars) (text : Text) (rest : List Segment) (name : String) :
    overlaid (.literal text :: rest) values earlier name = overlaid rest values earlier name := by
  simp [overlaid, Segment.name?]

/-- A value that is captured under its own name is overlaid. -/
theorem overlaid_insert {values earlier : Vars} {segment : Segment} {captured : String} {value : Text}
    (isName : segment.name? = some captured) (lookup : values[captured]? = some value)
    (rest : List Segment) (name : String) :
    overlaid rest values (earlier.insert captured value) name =
      overlaid (segment :: rest) values earlier name := by
  simp only [overlaid, List.any_cons, isName, Option.some.injEq, Bool.or_eq_true, decide_eq_true_eq,
    Std.ExtTreeMap.getElem?_insert, Std.compare_eq_iff_eq]
  by_cases later : rest.any (·.name? = some name) = true
  · rw [if_pos later, if_pos (.inr later)]
  · by_cases same : captured = name
    · rw [if_neg later, if_pos same, if_pos (.inl same), ← same, lookup]
    · rw [if_neg later, if_neg same, if_neg]
      rintro (here | there)
      · exact same here
      · exact later there

theorem matchParts_enclosed {before after value : Text} {earlier : Vars} {name : String}
    {rest : List Segment} {parts : List Text} :
    matchParts earlier (.partialCapture before name after :: rest) ((before ++ value ++ after) :: parts) =
      matchParts (earlier.insert name value) rest parts := by
  have starts : before.isPrefixOf (before ++ value ++ after) = true := by
    rw [List.append_assoc]
    exact List.isPrefixOf_iff_prefix.mpr (List.prefix_append _ _)
  have finishes : after.isSuffixOf (before ++ value ++ after) = true :=
    List.isSuffixOf_iff_suffix.mpr (List.suffix_append _ _)
  have fits : before.length + after.length ≤ (before ++ value ++ after).length := by
    simp only [List.length_append]
    omega
  have inner : ((before ++ value ++ after).take ((before ++ value ++ after).length - after.length)).drop
      before.length = value := by
    rw [List.length_append, Nat.add_sub_cancel, List.take_left, List.drop_left]
  simp only [matchParts, starts, finishes, Bool.and_self, if_true, fits, inner]

/-- Whatever its shape, a pattern matches what it is filled to, and captures the values. -/
theorem matchParts_fill {parts : List Text} (earlier : Vars)
    (filled : segments.mapM (Segment.fill vars) = some parts) :
    ∃ result, matchParts earlier segments parts = .matched result ∧
      ∀ name : String, result[name]? = overlaid segments vars earlier name := by
  induction segments generalizing earlier parts with
  | nil =>
    cases filled
    exact ⟨earlier, rfl, fun name => rfl⟩
  | cons segment rest ih =>
    rw [List.mapM_cons] at filled
    obtain ⟨part, first, others⟩ := Option.bind_eq_some_iff.mp filled
    obtain ⟨later, filledRest, isParts⟩ := Option.bind_eq_some_iff.mp others
    cases isParts
    cases segment with
    | literal text =>
      cases first
      obtain ⟨result, matched, values⟩ := ih earlier filledRest
      refine ⟨result, ?_, fun name => ?_⟩
      · simp only [matchParts, if_true]
        exact matched
      · rw [values, overlaid_literal]
    | capture name =>
      obtain ⟨result, matched, values⟩ := ih (earlier.insert name part) filledRest
      refine ⟨result, matched, fun other => ?_⟩
      exact (values other).trans (overlaid_insert rfl first rest other)
    | partialCapture before name after =>
      obtain ⟨value, lookup, rfl⟩ := Option.map_eq_some_iff.mp first
      obtain ⟨result, matched, values⟩ := ih (earlier.insert name value) filledRest
      refine ⟨result, ?_, fun other => ?_⟩
      · rw [matchParts_enclosed]
        exact matched
      · exact (values other).trans (overlaid_insert rfl lookup rest other)

theorem fill_unseparated {parts : List Text} (unseparated : Unseparated vars)
    (whole : ∀ segment ∈ segments, segment.Whole)
    (filled : segments.mapM (Segment.fill vars) = some parts) :
    parts.length = segments.length ∧ ∀ part ∈ parts, '/' ∉ part := by
  induction segments generalizing parts with
  | nil =>
    cases filled
    exact ⟨rfl, fun part member => by cases member⟩
  | cons segment rest ih =>
    rw [List.mapM_cons] at filled
    obtain ⟨first, isFirst, others⟩ := Option.bind_eq_some_iff.mp filled
    obtain ⟨later, filledRest, isParts⟩ := Option.bind_eq_some_iff.mp others
    cases isParts
    obtain ⟨length, plain⟩ :=
      ih (fun other isOther => whole other (List.mem_cons_of_mem segment isOther)) filledRest
    refine ⟨congrArg Nat.succ length, ?_⟩
    intro part member
    rcases List.mem_cons.mp member with rfl | after
    · exact fill_whole unseparated (whole segment List.mem_cons_self) isFirst
    · exact plain part after

/-- Filled with values that have no separator, a pattern captures just those of its names. -/
theorem matchSegments_fill (unseparated : Unseparated vars) (nonempty : segments ≠ [])
    (whole : ∀ segment ∈ segments, segment.Whole) (filled : fillPattern segments vars = some topic) :
    matchSegments segments topic = .matched (restrictTo segments vars) := by
  obtain ⟨parts, each, rfl⟩ := Option.map_eq_some_iff.mp filled
  obtain ⟨length, plain⟩ := fill_unseparated unseparated whole each
  have isNonempty : parts ≠ [] := by
    rintro rfl
    exact nonempty (List.length_eq_zero_iff.mp length.symm)
  have split : ([('/' : Char)].intercalate parts).splitOn '/' = parts :=
    List.splitOn_intercalate '/' plain isNonempty
  obtain ⟨result, matched, values⟩ := matchParts_fill ∅ each
  have same : result = restrictTo segments vars := by
    refine Std.ExtTreeMap.ext_getElem? fun name => ?_
    rw [values, overlaid, restrictTo, Std.ExtTreeMap.getElem?_filter']
    by_cases own : segments.any (·.name? = some name) = true
    · rw [if_pos own]
      cases vars[name]? with
      | none => rfl
      | some value => rw [Option.filter_some, if_pos own]
    · rw [if_neg own, Std.ExtTreeMap.getElem?_empty]
      cases vars[name]? with
      | none => rfl
      | some value => rw [Option.filter_some, if_neg own]
  simp only [matchSegments, split, length]
  simp only [ne_eq, not_true_eq_false, if_false, matched, same]

/-! ## Routing -/

/-- What is routed was captured by some pattern from the topic, and its id is made of it. -/
structure Routed (hash : HashOrder) (topic : Text) (inbound : Inbound) : Prop where
  captured : ∃ segments, matchSegments segments topic = .matched inbound.vars
  made : inbound.deviceId = inbound.identity.resolveDeviceId hash inbound.vars

theorem routeState_routed {entries : List (Text × StateTopicConfig)} {inbound : Inbound}
    (routed : routeState hash topic payload entries = .ok (some inbound)) : Routed hash topic inbound := by
  induction entries with
  | nil => cases routed
  | cons entry rest ih =>
    simp only [routeState] at routed
    split at routed
    next vars matched =>
      simp only [applyState] at routed
      split at routed
      · cases routed
      · cases routed
        exact ⟨⟨_, matched⟩, rfl⟩
    next => exact ih routed
    next => cases routed

theorem routeAvailability_routed {entries : List (Text × AvailabilityTopicConfig)} {inbound : Inbound}
    (routed : routeAvailability hash topic payload entries = .ok (some inbound)) :
    Routed hash topic inbound := by
  induction entries with
  | nil => cases routed
  | cons entry rest ih =>
    simp only [routeAvailability] at routed
    split at routed
    next vars matched =>
      split at routed
      · cases routed
        exact ⟨⟨_, matched⟩, rfl⟩
      · exact ih routed
    next => exact ih routed
    next => cases routed

theorem routeInbound_routed {inbound : Inbound}
    (routed : routeInbound hash topic payload profiles = .ok (some inbound)) : Routed hash topic inbound := by
  simp only [routeInbound] at routed
  split at routed
  next => exact routeAvailability_routed routed
  next => exact routeState_routed routed

theorem routeCmd_first {entries : List CmdTopicConfig} {config : CmdTopicConfig} {command : List UInt8}
    (isFirst : entries.find? (fun config =>
      match matchSegments (parsePattern config.source) topic with
      | .unmatched => false
      | _ => true) = some config)
    (matched : matchSegments (parsePattern config.source) topic = .matched vars) :
    routeCmd hash topic command entries = (applyCmd hash config vars command).map some := by
  induction entries with
  | nil => cases isFirst
  | cons entry rest ih =>
    simp only [routeCmd]
    cases outcome : matchSegments (parsePattern entry.source) topic with
    | unmatched =>
      rw [List.find?_cons_of_neg (by simp [outcome])] at isFirst
      exact ih isFirst
    | matched found =>
      rw [List.find?_cons_of_pos (by simp [outcome])] at isFirst
      cases isFirst
      rw [outcome] at matched
      cases matched
      rfl
    | panicked =>
      rw [List.find?_cons_of_pos (by simp [outcome])] at isFirst
      cases isFirst
      rw [outcome] at matched
      cases matched

/-! ## Ids -/

theorem sanitizeId_plain {text : Text} (plain : isPlain text = true) : sanitizeId text = text := by
  refine (List.map_congr_left fun c member => ?_).trans (List.map_id text)
  have apart := List.all_eq_true.mp plain c member
  simp only [Bool.and_eq_true, decide_eq_true_eq] at apart
  simp [apart.1.1, apart.1.2, apart.2]

theorem fill_ownSource {idPrefix value : Text} {name : String} (lookup : vars[name]? = some value) :
    fillPattern (ownSource idPrefix name) vars = some (commandTopic (idPrefix ++ value)) := by
  simp only [fillPattern, ownSource, List.mapM_cons, List.mapM_nil, Segment.fill, lookup, Option.map_some,
    Option.pure_def, Option.bind_eq_bind, Option.bind_some, List.append_nil, commandTopic]

/-- Commands for an id go to the first command entry that takes them; where its source,
filled with what was reported, is the topic of those commands, the entry's target is rendered
with just what was reported. That is so of a source that is written for the id's prefix, where
the value that identifies the device is plain. Under one prefix, plain values that differ make
ids that differ. -/
theorem commands_return (profiles : List EcosystemProfile) (hash : HashOrder) (topic : Text)
    (payload : List UInt8) (inbound : Inbound)
    (routed : routeInbound hash topic payload profiles = .ok (some inbound)) :
    (∀ config hash' command, firstCommand profiles (commandTopic inbound.deviceId) = some config →
      fillPattern (parsePattern config.source) inbound.vars = some (commandTopic inbound.deviceId) →
      routeOutbound hash' (commandTopic inbound.deviceId) profiles command =
        (applyCmd hash' config (restrictTo (parsePattern config.source) inbound.vars) command).map some) ∧
    (∀ idPrefix value, inbound.identity = .byPrefix idPrefix value → isPlain value = true →
      (∀ name : String, inbound.vars[name]? = some value →
        fillPattern (ownSource idPrefix name) inbound.vars = some (commandTopic inbound.deviceId)) ∧
      ∀ hash' topic' payload' other value',
        routeInbound hash' topic' payload' profiles = .ok (some other) →
        other.identity = .byPrefix idPrefix value' → isPlain value' = true → value ≠ value' →
        inbound.deviceId ≠ other.deviceId) := by
  have inboundRouted := routeInbound_routed routed
  refine ⟨?_, ?_⟩
  · intro config hash' command isFirst filled
    obtain ⟨_, captured⟩ := inboundRouted.captured
    have nonempty : parsePattern config.source ≠ [] := by
      simp [parsePattern, List.splitOn_ne_nil]
    exact routeCmd_first isFirst (matchSegments_fill (matchSegments_unseparated captured) nonempty
      (parsePattern_whole config.source) filled)
  · intro idPrefix value isIdentity plain
    have made : inbound.deviceId = idPrefix ++ value := by
      rw [inboundRouted.made, isIdentity, Identity.resolveDeviceId, sanitizeId_plain plain]
    refine ⟨fun name lookup => ?_, ?_⟩
    · rw [made]
      exact fill_ownSource lookup
    · intro hash' topic' payload' other value' otherRouted otherIdentity otherPlain apart same
      have otherMade : other.deviceId = idPrefix ++ value' := by
        rw [(routeInbound_routed otherRouted).made, otherIdentity, Identity.resolveDeviceId,
          sanitizeId_plain otherPlain]
      rw [made, otherMade] at same
      exact apart (List.append_cancel_left same)

/-- A hash map that lists its entries in order of their names. -/
def sortedHash : HashOrder := ⟨id, List.Perm.refl⟩

def zigbeeCmd : CmdTopicConfig where
  source := "homecore/devices/zigbee_\x7bdevice\x7d/cmd".toList
  target := some "zigbee2mqtt/\x7bdevice\x7d/set".toList
  translate command := .ok command

/-- The profile of Zigbee2MQTT, with its commands and without; payloads are left alone. -/
def zigbee2mqtt (commands : List CmdTopicConfig) : EcosystemProfile where
  idPrefix := "zigbee_".toList
  stateTopics := [⟨"zigbee2mqtt/\x7bdevice\x7d".toList, none, fun _ _ _ => .ok (.null, false)⟩]
  availabilityTopics := []
  cmdTopics := commands

def zigbeeReports (topic : String) : Except RouteFailure (Option Inbound) :=
  routeInbound sortedHash topic.toList [] [zigbee2mqtt [zigbeeCmd]]

def zigbeeCommand (deviceId : String) : Except RouteFailure (Option (List OutboundResult)) :=
  routeOutbound sortedHash (commandTopic deviceId.toList) [zigbee2mqtt [zigbeeCmd]] []

/-- The id of what is reported, what it was made of, and the device that was captured. -/
def shown (reported : Except RouteFailure (Option Inbound)) : Option (Text × Identity × Option Text) :=
  match reported with
  | .ok (some inbound) => some (inbound.deviceId, inbound.identity, inbound.vars["device"]?)
  | _ => none

theorem reported_of_shown {reported : Except RouteFailure (Option Inbound)} {deviceId : Text}
    {identity : Identity} {device : Option Text} (isShown : shown reported = some (deviceId, identity, device)) :
    ∃ inbound, reported = .ok (some inbound) ∧ inbound.deviceId = deviceId ∧
      inbound.identity = identity ∧ inbound.vars["device"]? = device := by
  simp only [shown] at isShown
  split at isShown
  next inbound =>
    cases isShown
    exact ⟨inbound, rfl, rfl, rfl, rfl⟩
  next => cases isShown

theorem lamp_command_returns :
    ∃ inbound, zigbeeReports "zigbee2mqtt/lamp" = .ok (some inbound) ∧
      zigbeeCommand "zigbee_lamp" = (applyCmd sortedHash zigbeeCmd
        (restrictTo (parsePattern zigbeeCmd.source) inbound.vars) []).map some ∧
      zigbeeCommand "zigbee_lamp" = .ok (some [⟨"zigbee2mqtt/lamp/set".toList, []⟩]) := by
  have isShown : shown (zigbeeReports "zigbee2mqtt/lamp") = some ("zigbee_lamp".toList,
      .byPrefix "zigbee_".toList "lamp".toList, some "lamp".toList) := by
    decide
  obtain ⟨inbound, routed, isId, isIdentity, device⟩ := reported_of_shown isShown
  obtain ⟨returns, identified⟩ := commands_return _ _ _ _ inbound routed
  obtain ⟨ownFilled, _⟩ := identified _ _ isIdentity (by decide)
  have isOwn : parsePattern zigbeeCmd.source = ownSource "zigbee_".toList "device" := by decide
  have isFirst : firstCommand [zigbee2mqtt [zigbeeCmd]] (commandTopic inbound.deviceId) = some zigbeeCmd := by
    rw [isId]
    exact List.find?_cons_of_pos (by decide)
  have returned := returns zigbeeCmd sortedHash [] isFirst (isOwn ▸ ownFilled "device" device)
  rw [isId] at returned
  exact ⟨inbound, routed, returned, by decide⟩

/-- Two devices have one id, and commands for it go to the one whose name is the id's; where a
profile has no command topics, they go nowhere. -/
theorem living_room_gets_no_command :
    shown (zigbeeReports "zigbee2mqtt/living room") = some ("zigbee_living_room".toList,
        .byPrefix "zigbee_".toList "living room".toList, some "living room".toList) ∧
      shown (zigbeeReports "zigbee2mqtt/living_room") = some ("zigbee_living_room".toList,
        .byPrefix "zigbee_".toList "living_room".toList, some "living_room".toList) ∧
      zigbeeCommand "zigbee_living_room" = .ok (some [⟨"zigbee2mqtt/living_room/set".toList, []⟩]) ∧
      shown (routeInbound sortedHash "zigbee2mqtt/lamp".toList [] [zigbee2mqtt []]) =
        some ("zigbee_lamp".toList, .byPrefix "zigbee_".toList "lamp".toList, some "lamp".toList) ∧
      routeOutbound sortedHash (commandTopic "zigbee_lamp".toList) [zigbee2mqtt []] [] = .ok none := by
  refine ⟨?_, ?_, ?_, ?_, ?_⟩
  all_goals decide

end HomeCore.TopicMap
