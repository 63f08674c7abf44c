import HomeCore.Engine.ChangeTimesProofs
import HomeCore.Glue.Sources

/-! What the manager of helper devices hears of the reports that its groups and thresholds depend on: the
raw message, and not the change. They track their sources for as long as nothing that they say would
have to change. -/
namespace HomeCore.Glue
open HomeCore.Engine

variable {env : GlueEnv} {house : GlueHouse} {now : DateTime}

/-! ## What is heard -/

theorem splitText_stateTopic (deviceId : String) (isPartial : Bool) :
    (splitText '/' (stateTopic deviceId isPartial)).getLast? =
      some (if isPartial then "partial" else "state") := by
  have ending : ∀ isPartial : Bool, ((if isPartial then ["state".toList, "partial".toList] else
      ["state".toList]).flatMap (·.splitOn '/')).map String.ofList =
        if isPartial then ["state", "partial"] else ["state"] := by decide
  have some_ {front back : List (List Char)} : front.length = 3 → front ++ back ≠ [] := by
    rintro three none
    rw [(List.append_eq_nil_iff.mp none).1] at three
    cases three
  rw [splitText, stateTopic, String.toList_ofList, Splitting.splitOn_intercalate_words (some_ rfl),
    List.flatMap_append, List.map_append, ending]
  cases isPartial with
  | false => exact List.getLast?_append_of_ne_nil _ (List.cons_ne_nil _ _)
  | true => exact List.getLast?_append_of_ne_nil _ (List.cons_ne_nil _ _)

/-- A report is not a command. -/
theorem parseGlueCmdTopic_stateTopic (deviceId idPrefix : String) (isPartial : Bool) :
    parseGlueCmdTopic (stateTopic deviceId isPartial) idPrefix = none := by
  have last := splitText_stateTopic deviceId isPartial
  rw [parseGlueCmdTopic]
  split
  · rename_i id parts
    rw [parts] at last
    have same : "cmd" = if isPartial then "partial" else "state" := Option.some.inj last
    cases isPartial
    · exact absurd same (by decide)
    · exact absurd same (by decide)
  · rfl

/-- The raw message of a report. -/
def RawReport (event : Event) : Prop :=
  ∃ now deviceId isPartial payload, event = .mqttMessage now (stateTopic deviceId isPartial) payload false

namespace GlueHouse

def HearsReports (house : GlueHouse) : Prop := ∀ event ∈ house.internal, RawReport event

theorem react_rawReport (env : GlueEnv) (now : DateTime) (house : GlueHouse) {event : Event}
    (raw : RawReport event) : house.react env now event = house := by
  obtain ⟨arrived, deviceId, isPartial, payload, rfl⟩ := raw
  simp only [react, parseGlueCmdTopic_stateTopic]

theorem foldl_react {events : List Event} (raw : ∀ event ∈ events, RawReport event) :
    events.foldl (react env now) house = house := by
  induction events with
  | nil => rfl
  | cons event later ih =>
    rw [List.foldl_cons, react_rawReport env now house (raw event List.mem_cons_self)]
    exact ih fun event member => raw event (List.mem_cons_of_mem _ member)

theorem HearsReports.handled (hears : house.HearsReports) :
    house.handled env now = { house with internal := [] } :=
  foldl_react hears

theorem rawReport_arrival {input : GlueInput} {event : Event} (member : event ∈ arrival input) :
    RawReport event := by
  cases input with
  | report now failing device payload isPartial =>
    obtain rfl := List.mem_singleton.mp member
    exact ⟨now, device.val, isPartial, payload, rfl⟩
  | helper now device change mutate => cases member
  | timer now device edit => cases member
  | take now => cases member

theorem write_take (bridge : StateBridge) : (GlueInput.take now).write env bridge = (bridge, []) := rfl

theorem take_rawReport {event : Event} {later : List Event} (queued : house.internal = event :: later)
    (raw : RawReport event) : house.step env (.take now) = { house with internal := later } := by
  simp only [GlueHouse.step, queued, react_rawReport env now _ raw]

theorem take_nothing (idle : house.internal = []) : house.step env (.take now) = house := by
  simp only [GlueHouse.step, idle]

/-- A step comes to what its input writes, whatever the manager takes. -/
theorem HearsReports.step (hears : house.HearsReports) (input : GlueInput) :
    (house.step env input).HearsReports ∧
      (house.step env input).bridge = (input.write env house.bridge).1 ∧
      (house.step env input).published = house.published ++ (input.write env house.bridge).2 ∧
      (house.step env input).flags = house.flags := by
  have arrives : ∀ event ∈ house.internal ++ arrival input, RawReport event := by
    intro event member
    rcases List.mem_append.mp member with before | new
    · exact hears event before
    · exact rawReport_arrival new
  cases input with
  | take now =>
    rw [write_take, List.append_nil]
    cases queued : house.internal with
    | nil =>
      rw [take_nothing queued]
      exact ⟨hears, rfl, rfl, rfl⟩
    | cons event later =>
      rw [HearsReports, queued] at hears
      rw [take_rawReport queued (hears event List.mem_cons_self)]
      exact ⟨fun event member => hears event (List.mem_cons_of_mem _ member), rfl, rfl, rfl⟩
  | report now failing device payload isPartial => exact ⟨arrives, rfl, rfl, rfl⟩
  | helper now device change mutate => exact ⟨arrives, rfl, rfl, rfl⟩
  | timer now device edit => exact ⟨arrives, rfl, rfl, rfl⟩

end GlueHouse

/-! ## What an input writes -/

section Write
variable {deviceId : String}

/-- What a write may do: it leaves the groups and thresholds alone, and announces at most one
change. -/
structure Plain (store : DeviceStore) (result : WriteResult) : Prop where
  kept : ∀ deviceId, isReactive deviceId = true → result.1.getDevice deviceId = store.getDevice deviceId
  single : (result.2.filterMap currentOf).length ≤ 1

theorem plain_upsert {store : DeviceStore} {after : DeviceState} {events : List Event}
    (ordinary : isReactive after.deviceId = false) (single : (events.filterMap currentOf).length ≤ 1) :
    Plain store (store.upsert after, events) := by
  refine ⟨?_, single⟩
  intro deviceId reactive
  have other : after.deviceId ≠ deviceId := by
    rintro rfl
    rw [ordinary] at reactive
    cases reactive
  rw [getDevice_upsert, if_neg other]

theorem plain_rewriteRecord (store : DeviceStore) (device : SourceId) (change : DeviceChange)
    (mutate : AttrMap → AttrMap) {tell : DeviceState → DeviceState → List Event}
    (single : ∀ before after, ((tell before after).filterMap currentOf).length ≤ 1) :
    Plain store (rewriteRecord now store device.val change mutate tell) := by
  rw [rewriteRecord]
  cases found : store.getDevice device.val with
  | none => exact ⟨fun _ _ => rfl, Nat.zero_le _⟩
  | some record =>
    refine plain_upsert ?_ ?_
    · exact (store.keyed _ _ found).symm ▸ device.property
    · rw [List.filterMap_append, currentOf_announcement, List.nil_append]
      exact single _ _

theorem plain_perform (store : DeviceStore) (device : SourceId) (edit : TimerEdit) :
    Plain store (edit.perform env now store device.val) := by
  cases edit with
  | setState newState extra change =>
    rw [TimerEdit.perform, Engine.setState]
    apply plain_rewriteRecord
    exact fun before after => Nat.le_refl 1
  | fire =>
    rw [TimerEdit.perform, fireTimer]
    apply plain_rewriteRecord
    exact fun before after => Nat.le_refl 1
  | resetForRepeat durationSecs =>
    rw [TimerEdit.perform, Engine.resetForRepeat]
    apply plain_rewriteRecord
    exact fun before after => Nat.le_refl 1

theorem plain_write (env : GlueEnv) (bridge : StateBridge) (input : GlueInput) :
    Plain bridge.store ((input.write env bridge).1.store, (input.write env bridge).2) := by
  have unwritten : Plain bridge.store (bridge.store, []) := ⟨fun _ _ => rfl, Nat.zero_le _⟩
  cases input with
  | take now => exact unwritten
  | helper now device change mutate =>
    refine plain_rewriteRecord bridge.store device change mutate fun before after => ?_
    rcases tells_publishStateChange change before after with told | ⟨silent, _⟩
    · rw [told, List.length_singleton]
    · rw [silent]
      exact Nat.zero_le _
  | timer now device edit => exact plain_perform bridge.store device edit
  | report now failing device payload isPartial =>
    rw [GlueInput.write]
    cases parsed : env.parse payload with
    | none => exact unwritten
    | some incoming =>
      by_cases ignored : incoming.asObject = none ∨ ¬ Handled bridge.store failing device.val
      · obtain ⟨same, silent⟩ := handleState_ignored env.readers now failing bridge device.val incoming
          isPartial ignored
        cases result : bridge.handleState env.readers now failing device.val incoming isPartial with
        | mk after told =>
          rw [result] at same silent
          simp only [result]
          simp only [] at same
          cases told with
          | ok events =>
            rw [silent events rfl]
            exact ⟨fun _ _ => by rw [same], Nat.zero_le _⟩
          | error call => exact ⟨fun _ _ => by rw [same], Nat.zero_le _⟩
      · obtain ⟨some_, handled⟩ := not_or.mp ignored
        obtain ⟨attrs, isObject⟩ := Option.ne_none_iff_exists'.mp some_
        obtain ⟨after, kind, change, sameId, _, _, stored, told⟩ := handleState_handled env.readers now
          failing bridge device.val incoming isPartial isObject (not_not.mp handled)
        cases result : bridge.handleState env.readers now failing device.val incoming isPartial with
        | mk written events =>
          rw [result] at stored told
          simp only [] at stored told
          subst told
          simp only [result, stored]
          refine plain_upsert (sameId ▸ device.property) ?_
          rw [currentOf_reportEvents]
          split
          · exact Nat.zero_le _
          · exact Nat.le_refl 1

end Write

/-! ## Keeping track -/

theorem Group.Fresh.activeCount_eq {devices others : List DeviceState} {attributes : AttrMap}
    (fresh : Group.Fresh devices attributes) (freshToo : Group.Fresh others attributes) :
    Group.activeCount devices attributes = Group.activeCount others attributes := by
  have count := fresh _ (List.mem_cons_of_mem _ List.mem_cons_self)
  have countToo := freshToo _ (List.mem_cons_of_mem _ List.mem_cons_self)
  injection (Option.some.inj (count.symm.trans countToo)) with numbers
  injection numbers

namespace Threshold
variable {round : Rat → Rat} {attributes : AttrMap} {values : List Rat}

theorem newAbove_eq_iff {value : Rat} : newAbove round attributes (isAbove attributes) value =
    isAbove attributes ↔ stays round attributes value := by
  rw [newAbove, stays]
  cases isAbove attributes <;> simp

theorem foldl_newAbove_iff (short : values.length ≤ 1) :
    values.foldl (newAbove round attributes) (isAbove attributes) = isAbove attributes ↔
      ∀ value ∈ values, stays round attributes value := by
  cases values with
  | nil => simp
  | cons value rest =>
    have alone : rest = [] := List.length_eq_zero_iff.mp (Nat.le_zero.mp (Nat.le_of_succ_le_succ short))
    rw [alone, List.foldl_cons, List.foldl_nil, newAbove_eq_iff]
    simp

theorem folded_append (flag : Bool) (published events : List Event) :
    folded round attributes flag (published ++ events) =
      (events.filterMap (heardValue attributes)).foldl (newAbove round attributes)
        (folded round attributes flag published) := by
  rw [folded, List.filterMap_append, List.foldl_append]
  rfl

theorem length_heardValue (events : List Event) :
    (events.filterMap (heardValue attributes)).length ≤ (events.filterMap currentOf).length := by
  induction events with
  | nil => exact Nat.le_refl 0
  | cons event later ih =>
    cases value : heardValue attributes event with
    | none =>
      rw [List.filterMap_cons_none value]
      refine ih.trans (List.Sublist.length_le ?_)
      exact (List.sublist_cons_self event later).filterMap currentOf
    | some v =>
      obtain ⟨told, said⟩ : ∃ told, currentOf event = some told := by
        cases event <;> first | exact ⟨_, rfl⟩ | cases value
      rw [List.filterMap_cons_some value, List.filterMap_cons_some said, List.length_cons, List.length_cons]
      omega

end Threshold

/-- A step keeps track exactly where it moves nothing. -/
theorem tracked_step_iff (hears : house.HearsReports) (tracked : house.Tracked env) (input : GlueInput) :
    (house.step env input).Tracked env ↔ Unmoved env house input := by
  obtain ⟨_, bridge, published, flags⟩ : (house.step env input).HearsReports ∧ _ := hears.step input
  have plain := plain_write env house.bridge input
  have listed {device : DeviceState} (reactive : isReactive device.deviceId = true) :
      device ∈ (input.write env house.bridge).1.store.listDevices ↔
        device ∈ house.bridge.store.listDevices := by
    rw [DeviceStore.mem_listDevices, DeviceStore.mem_listDevices, plain.kept _ reactive]
  have ofGroup {deviceId : String} (isGroup : startsWith groupIdPrefix deviceId = true) :
      isReactive deviceId = true := by rw [isReactive, isGroup, Bool.true_or]
  have ofThreshold {deviceId : String} (isThreshold : startsWith thresholdIdPrefix deviceId = true) :
      isReactive deviceId = true := by rw [isReactive, isThreshold, Bool.or_true]
  have short (device : DeviceState) :
      ((input.write env house.bridge).2.filterMap (Threshold.heardValue device.attributes)).length ≤ 1 :=
    (Threshold.length_heardValue _).trans plain.single
  constructor
  · intro still
    refine ⟨?_, ?_⟩
    · intro device member isGroup
      have fresh := still.groups device (bridge ▸ (listed (ofGroup isGroup)).mpr member) isGroup
      rw [bridge] at fresh
      exact fresh.activeCount_eq (tracked.groups device member isGroup)
    · intro device member isThreshold
      have now := still.thresholds device (bridge ▸ (listed (ofThreshold isThreshold)).mpr member)
        isThreshold
      rw [published, flags, Threshold.folded_append, ← tracked.thresholds device member isThreshold] at now
      exact (Threshold.foldl_newAbove_iff (short device)).mp now.symm
  · intro unmoved
    refine ⟨?_, ?_⟩
    · intro device member isGroup
      rw [bridge] at member ⊢
      have before := (listed (ofGroup isGroup)).mp member
      rw [Group.Fresh, unmoved.groups device before isGroup]
      exact tracked.groups device before isGroup
    · intro device member isThreshold
      rw [bridge] at member
      have before := (listed (ofThreshold isThreshold)).mp member
      rw [published, flags, Threshold.folded_append, ← tracked.thresholds device before isThreshold]
      exact ((Threshold.foldl_newAbove_iff (short device)).mpr
        (unmoved.thresholds device before isThreshold)).symm

/-- Through every run of reports, whenever the manager has taken all that it heard, groups and
thresholds say what their sources come to exactly as long as no report changes what that is. -/
theorem sources_tracked_iff (env : GlueEnv) (bridge : StateBridge)
    (tracked : (GlueHouse.start bridge).Tracked env) (inputs : List GlueInput) :
    Runs.Always (GlueHouse.step env) (fun house => ∀ now, (house.handled env now).Tracked env)
        (.start bridge) inputs ↔
      Runs.EachStep (GlueHouse.step env) (Unmoved env) (.start bridge) inputs := by
  have settled {house : GlueHouse} (hears : house.HearsReports) :
      (∀ now, (house.handled env now).Tracked env) ↔ house.Tracked env := by
    constructor
    · intro always
      have once := always 0
      rw [hears.handled] at once
      exact ⟨once.groups, once.thresholds⟩
    · intro tracked now
      rw [hears.handled]
      exact ⟨tracked.groups, tracked.thresholds⟩
  have idle : (GlueHouse.start bridge).HearsReports := fun _ member => absurd member List.not_mem_nil
  refine Runs.always_iff_under GlueHouse.HearsReports ?_ ?_ idle ((settled idle).mpr tracked) inputs
  · exact fun house input hears _ _ => (hears.step input).1
  · intro house input hears always
    rw [settled (hears.step input).1]
    exact tracked_step_iff hears ((settled hears).mp always) input

/-! ## A hall with a door and a thermometer -/

instance (round : Rat → Rat) (attributes : AttrMap) (value : Rat) :
    Decidable (Threshold.stays round attributes value) :=
  inferInstanceAs (Decidable (if Threshold.isAbove attributes then _ else _))

instance (env : GlueEnv) (house : GlueHouse) : Decidable (house.Tracked env) :=
  decidable_of_iff ((∀ device ∈ house.bridge.store.listDevices,
      startsWith groupIdPrefix device.deviceId = true →
        ∀ entry ∈ Group.tally device.attributes
          (Group.activeCount house.bridge.store.listDevices device.attributes),
          device.attributes[entry.1]? = some entry.2) ∧
    ∀ device ∈ house.bridge.store.listDevices, startsWith thresholdIdPrefix device.deviceId = true →
      Threshold.isAbove device.attributes =
        Threshold.folded env.round device.attributes (house.flags device.deviceId) house.published)
    ⟨fun both => ⟨both.1, both.2⟩, fun tracked => ⟨tracked.groups, tracked.thresholds⟩⟩

instance (env : GlueEnv) (house : GlueHouse) (input : GlueInput) : Decidable (Unmoved env house input) :=
  decidable_of_iff ((∀ device ∈ house.bridge.store.listDevices,
      startsWith groupIdPrefix device.deviceId = true →
        Group.activeCount (input.write env house.bridge).1.store.listDevices device.attributes =
          Group.activeCount house.bridge.store.listDevices device.attributes) ∧
    ∀ device ∈ house.bridge.store.listDevices, startsWith thresholdIdPrefix device.deviceId = true →
      ∀ value ∈ (input.write env house.bridge).2.filterMap (Threshold.heardValue device.attributes),
        Threshold.stays env.round device.attributes value)
    ⟨fun both => ⟨both.1, both.2⟩, fun unmoved => ⟨unmoved.groups, unmoved.thresholds⟩⟩

def sensor (deviceId attr : String) (value : Json) : DeviceState :=
  { DeviceState.new deviceId deviceId "hall" 0 with
    canonicalName := some ("hall." ++ deviceId)
    available := true
    attributes := .ofList [(attr, value)] }

def helper (glueType : String) (config : List (String × Json)) : DeviceState :=
  { DeviceState.new (glueType ++ "_hall") glueType pluginId 0 with
    canonicalName := some ("hall." ++ glueType)
    attributes := attributesFor glueType (.ofList config) }

/-- The group counts open doors, and the threshold lies at 20 with a swing of 2. -/
def hall : StateBridge where
  store := (Group.recalculate 0 ((((DeviceStore.mk ∅ [] DeviceStore.none_keyed).upsert
    (sensor "door" "open" (.bool false))).upsert (sensor "thermometer" "value" (.num (.float 19)))).upsert
      (helper "group" [("members", .arr [.str "door"]), ("attribute", .str "open")]) |>.upsert
        (helper "threshold" [("source_device_id", .str "thermometer"), ("threshold", .num (.float 20)),
          ("hysteresis", .num (.float 2))])) "group_hall").1
  pendingCommandChanges := ∅

/-- What comes in below, as JSON. -/
def hallPayloads : List (List UInt8 × Json) :=
  [([123, 34, 111, 112, 101, 110, 34, 58, 116, 114, 117, 101, 125], .obj [("open", .bool true)]),
    ([123, 34, 111, 112, 101, 110, 34, 58, 102, 97, 108, 115, 101, 125], .obj [("open", .bool false)]),
    ([123, 34, 118, 97, 108, 117, 101, 34, 58, 50, 48, 125], .obj [("value", .num (.posInt 20))])]

def hallEnv : GlueEnv where
  readers := ⟨fun _ _ => none, fun _ => none⟩
  parse payload := hallPayloads.lookup payload
  rfc3339 _ := ""
  round q := q

def hallReport (now : DateTime) (device : SourceId) (index : Nat) : GlueInput :=
  .report now none device ((hallPayloads.map Prod.fst).getD index []) false

/-- The door says again that it is closed, and it gets warmer, but not warm enough. -/
def hallUnmoved : List GlueInput :=
  [hallReport 1 ⟨"door", by decide⟩ 1, .take 2, hallReport 3 ⟨"thermometer", by decide⟩ 2, .take 4]

theorem hall_tracked : (GlueHouse.start hall).Tracked hallEnv ∧
    Runs.Always (GlueHouse.step hallEnv) (fun house => ∀ now, (house.handled hallEnv now).Tracked hallEnv)
      (.start hall) hallUnmoved := by
  have tracked : (GlueHouse.start hall).Tracked hallEnv := by decide
  have unmoved : Runs.EachStep (GlueHouse.step hallEnv) (Unmoved hallEnv) (.start hall) hallUnmoved := by
    decide +kernel
  exact ⟨tracked, (sources_tracked_iff hallEnv hall tracked hallUnmoved).mpr unmoved⟩

/-- The door is opened, and everything that the manager hears of it is taken. -/
theorem open_door_uncounted : (GlueHouse.start hall).Tracked hallEnv ∧
    ¬ (((GlueHouse.start hall).step hallEnv (hallReport 1 ⟨"door", by decide⟩ 0)).handled hallEnv
      2).Tracked hallEnv := by
  decide

end HomeCore.Glue
