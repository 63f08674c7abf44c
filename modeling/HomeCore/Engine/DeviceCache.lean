import HomeCore.Engine.Triggers
import HomeCore.Runs
import HomeCore.Devices.StateBridgeProofs

/-! The engine's own copy of the device attributes: seeded from the store when
the engine starts and merged from each `DeviceStateChanged` event after that. -/
namespace HomeCore.Engine

structure EngineCache where
  deviceCache : Std.ExtTreeMap String AttrMap
  attrChangedAt : Std.ExtTreeMap String (Std.ExtTreeMap String DateTime)

/-- What the engine remembers of one stored record: its attributes, and for each
when the record says it changed, or else when the device was last seen. -/
def seedStamps (device : DeviceState) : Std.ExtTreeMap String DateTime :=
  device.attributes.map fun key _ => device.attributesChangedAt[key]?.getD device.lastSeen

/-- The start of `RuleEngine::run`. -/
def seed (devices : List DeviceState) : EngineCache where
  deviceCache := Std.ExtTreeMap.ofList (devices.map fun device => (device.deviceId, device.attributes))
  attrChangedAt := Std.ExtTreeMap.ofList (devices.map fun device => (device.deviceId, seedStamps device))

/-- The entries of `current` inserted one by one. -/
def mergeAttributes (attrs current : AttrMap) : AttrMap :=
  current.foldl (fun attrs key value => attrs.insert key value) attrs

def stampMoved (now : DateTime) (previous : Option AttrMap) (current : AttrMap)
    (stamps : Std.ExtTreeMap String DateTime) : Std.ExtTreeMap String DateTime :=
  current.foldl (fun stamps key value =>
    if previous.bind (·[key]?) = some value then stamps else stamps.insert key now) stamps

def cacheAttributes (cache : Std.ExtTreeMap String AttrMap) : Event → Std.ExtTreeMap String AttrMap
  | .deviceStateChanged _ deviceId _ _ current _ _ =>
    cache.insert deviceId (match cache[deviceId]? with
      | some attrs => mergeAttributes attrs current
      | none => current)
  | _ => cache

/-- The first part of `handle_event`. -/
def updateCache (now : DateTime) (cache : EngineCache) (event : Event) : EngineCache where
  deviceCache := cacheAttributes cache.deviceCache event
  attrChangedAt := match event with
    | .deviceStateChanged _ deviceId _ _ current _ _ =>
      cache.attrChangedAt.insert deviceId
        (stampMoved now cache.deviceCache[deviceId]? current (cache.attrChangedAt[deviceId]?.getD ∅))
    | _ => cache.attrChangedAt

/-- A `DeviceState` condition, judged on what is known of its device. -/
def deviceStateHolds (known : Option AttrMap) (attr : String) (op : CompareOp) (value : Json) : Bool :=
  match known with
  | none => false
  | some attrs => match attrs[attr]? with
    | none => false
    | some actual => compareOp actual op value

/-! ## The bridge and the engine side by side -/

/-- The store, the events the engine has yet to receive, and its cache. -/
structure House where
  bridge : StateBridge
  published : List Event
  cache : EngineCache

def House.start (bridge : StateBridge) : House :=
  ⟨bridge, [], seed bridge.store.listDevices⟩

inductive HouseInput where
  /-- A command seen on its way to a device. -/
  | command (now : DateTime) (deviceId : String) (payload : Json)
  | report (now : DateTime) (failing : Option StoreCall) (deviceId : String) (incoming : Json)
      (isPartial : Bool)
  /-- The engine receives the oldest event it has not seen. -/
  | process (now : DateTime)

def House.step (readers : ChangeReaders) (house : House) : HouseInput → House
  | .command now deviceId payload =>
    { house with bridge := house.bridge.recordPendingCommandChange readers now deviceId payload }
  | .report now failing deviceId incoming isPartial =>
    match house.bridge.handleState readers now failing deviceId incoming isPartial with
    | (bridge, .ok events) => { house with bridge := bridge, published := house.published ++ events }
    | (bridge, .error _) => { house with bridge := bridge }
  | .process now => match house.published with
    | [] => house
    | event :: later => { house with published := later, cache := updateCache now house.cache event }

/-- The device cache once every event published so far has been processed. -/
def House.caughtUp (house : House) : Std.ExtTreeMap String AttrMap :=
  house.published.foldl cacheAttributes house.cache.deviceCache

def House.stored (house : House) (deviceId : String) : Option AttrMap :=
  (house.bridge.store.getDevice deviceId).map (·.attributes)

/-- The cache is the store, and so are the answers of the conditions judged on it. -/
structure Refines (house : House) : Prop where
  entries : ∀ deviceId, house.caughtUp[deviceId]? = house.stored deviceId
  answers : ∀ deviceId attr op value,
    deviceStateHolds house.caughtUp[deviceId]? attr op value =
      deviceStateHolds (house.stored deviceId) attr op value

/-- The payload names every key the record holds, or as a partial one sets none
of them to null, the record holds no provenance key, and a payload about a
device not yet known has a reading. -/
def KeepsKeys (store : DeviceStore) (deviceId : String) (payload : AttrMap) (isPartial : Bool) :
    Prop :=
  match store.getDevice deviceId with
  | some device => ∀ key ∈ device.attributes, key ∉ provenanceKeys ∧
      if isPartial then (stripProvenance payload)[key]? ≠ some .null
      else key ∈ stripProvenance payload
  | none => ∃ (key : String) (value : Json), (stripProvenance payload)[key]? = some value ∧
      (isPartial = true → value ≠ .null)

/-- No report takes a key away. -/
def DropsNothing (house : House) : HouseInput → Prop
  | .report _ failing deviceId incoming isPartial =>
    ∀ payload, incoming.asObject = some payload → Handled house.bridge.store failing deviceId →
      KeepsKeys house.bridge.store deviceId payload isPartial
  | _ => True

end HomeCore.Engine

/-! When the engine's cache is the store. Both sides follow the same reports by
different rules: the store replaces or patches its map, the cache only inserts.
They agree for as long as no report takes a key away. -/
namespace HomeCore.Engine

theorem getElem?_mergeAttributes (attrs current : AttrMap) (key : String) :
    (mergeAttributes attrs current)[key]? = (current[key]?.map some).getD attrs[key]? := by
  unfold mergeAttributes
  refine Maps.getElem?_foldl ?_ current attrs key
  intro target k value key
  exact Std.ExtTreeMap.getElem?_insert

theorem mergeAttributes_eq_right {attrs current : AttrMap} :
    mergeAttributes attrs current = current ↔ ∀ key ∈ attrs, key ∈ current := by
  constructor
  · intro same key member
    by_contra absent
    have looked := getElem?_mergeAttributes attrs current key
    rw [same, Std.ExtTreeMap.getElem?_eq_none absent] at looked
    rw [Std.ExtTreeMap.mem_iff_isSome_getElem?] at member
    simp only [Option.map_none, Option.getD_none] at looked
    rw [← looked] at member
    simp at member
  · intro contained
    apply Std.ExtTreeMap.ext_getElem?
    intro key
    rw [getElem?_mergeAttributes]
    cases found : current[key]? with
    | some value => simp
    | none =>
      have absent : key ∉ attrs := by
        intro member
        have := contained key member
        simp [Std.ExtTreeMap.mem_iff_isSome_getElem?, found] at this
      simp [absent]

theorem caughtUp_reportEvents (now : DateTime) (kind : DeviceWrite) (before after : DeviceState)
    (change : DeviceChange) (cache : Std.ExtTreeMap String AttrMap) :
    (reportEvents now kind before after change).foldl cacheAttributes cache =
      if before.attributes = after.attributes then cache
      else cache.insert after.deviceId ((cache[after.deviceId]?).elim after.attributes
        (mergeAttributes · after.attributes)) := by
  have announced : ∀ cache, (announcement now kind after).foldl cacheAttributes cache = cache := by
    intro cache
    cases kind <;> rfl
  simp only [reportEvents, List.foldl_append, announced, List.isEmpty_iff, changedKeys_eq_nil]
  by_cases same : before.attributes = after.attributes
  · simp only [same, if_true]
    split <;> split <;> rfl
  · simp only [same, if_false]
    split <;> split <;> cases known : cache[after.deviceId]? <;> simp [cacheAttributes, known]

theorem refines_iff (house : House) :
    Refines house ↔ ∀ deviceId, house.caughtUp[deviceId]? = house.stored deviceId := by
  constructor
  · exact Refines.entries
  · intro entries
    exact ⟨entries, fun deviceId _ _ _ => by rw [entries deviceId]⟩

section Step
variable (readers : ChangeReaders) (now : DateTime) {failing : Option StoreCall}
  {deviceId : String} {incoming : Json} (isPartial : Bool) {house : House}

/-- Both maps after a handled report: the store holds the reported attributes
and the cache, once caught up, has them merged into what it held. -/
theorem step_handled {payload : AttrMap} (isObject : incoming.asObject = some payload)
    (handled : Handled house.bridge.store failing deviceId) :
    ∃ before next : AttrMap,
      before = ((house.stored deviceId).getD ∅) ∧
      next = reportedAttributes before payload isPartial ∧
      (house.step readers (.report now failing deviceId incoming isPartial)).caughtUp =
        (if before = next then house.caughtUp
          else house.caughtUp.insert deviceId
            ((house.caughtUp[deviceId]?).elim next (mergeAttributes · next))) ∧
      ∀ other, (house.step readers (.report now failing deviceId incoming isPartial)).stored other =
        if deviceId = other then some next else house.stored other := by
  obtain ⟨after, kind, change, idEq, attributesEq, _, storeEq, eventsEq⟩ :=
    handleState_handled readers now failing house.bridge deviceId incoming isPartial isObject handled
  have stepEq : house.step readers (.report now failing deviceId incoming isPartial) =
      { house with
        bridge := (house.bridge.handleState readers now failing deviceId incoming isPartial).1
        published := house.published ++ reportEvents now kind
          (recordBefore now deviceId house.bridge.store) after change } := by
    simp only [House.step]
    split
    all_goals
      rename_i result
      simp_all
  refine ⟨(recordBefore now deviceId house.bridge.store).attributes, after.attributes, ?_,
    attributesEq, ?_, ?_⟩
  · exact recordBefore_attributes now deviceId house.bridge.store
  · simp only [stepEq, House.caughtUp, List.foldl_append]
    rw [caughtUp_reportEvents, idEq]
  · intro other
    simp only [stepEq, House.stored, storeEq, getDevice_upsert, idEq]
    split <;> rfl

/-- Where store and cache change at one device only, they agree afterwards
exactly when they agree on it. -/
theorem refines_iff_at_device {moved : House} {before next : AttrMap} (agreed : Refines house)
    (caughtUpEq : moved.caughtUp = if before = next then house.caughtUp
      else house.caughtUp.insert deviceId
        ((house.caughtUp[deviceId]?).elim next (mergeAttributes · next)))
    (storedEq : ∀ other, moved.stored other = if deviceId = other then some next else house.stored other) :
    Refines moved ↔ (if before = next then house.stored deviceId
      else some ((house.stored deviceId).elim next (mergeAttributes · next))) = some next := by
  rw [refines_iff]
  constructor
  · intro entries
    have entry := entries deviceId
    rw [storedEq, if_pos rfl, caughtUpEq] at entry
    rw [← entry]
    split
    · rw [agreed.entries]
    · rw [Std.ExtTreeMap.getElem?_insert_self, agreed.entries]
  · intro entry other
    rw [storedEq, caughtUpEq]
    by_cases isDevice : deviceId = other
    · subst isDevice
      rw [if_pos rfl, ← entry]
      split
      · rw [agreed.entries]
      · rw [Std.ExtTreeMap.getElem?_insert_self, agreed.entries]
    · rw [if_neg isDevice]
      split
      · rw [agreed.entries]
      · have differ : ¬ compare deviceId other = .eq := mt Std.compare_eq_iff_eq.mp isDevice
        rw [Std.ExtTreeMap.getElem?_insert, if_neg differ, agreed.entries]

/-- A handled report keeps the agreement exactly when it takes no key away. -/
theorem refines_handled {payload : AttrMap} (agreed : Refines house)
    (isObject : incoming.asObject = some payload)
    (handled : Handled house.bridge.store failing deviceId) :
    Refines (house.step readers (.report now failing deviceId incoming isPartial)) ↔
      KeepsKeys house.bridge.store deviceId payload isPartial := by
  obtain ⟨before, next, beforeEq, nextEq, caughtUpEq, storedEq⟩ :=
    step_handled readers now isPartial isObject handled
  rw [refines_iff_at_device agreed caughtUpEq storedEq]
  unfold KeepsKeys
  unfold House.stored at beforeEq ⊢
  cases stored : house.bridge.store.getDevice deviceId with
  | none =>
    simp only [stored, Option.map_none, Option.getD_none, Option.elim_none] at beforeEq ⊢
    rw [← reportedAttributes_ne_empty, ← beforeEq, ← nextEq]
    by_cases same : before = next <;> simp [same, eq_comm]
  | some device =>
    simp only [stored, Option.map_some, Option.getD_some, Option.elim_some] at beforeEq ⊢
    have merged : (if before = next then some before else some (mergeAttributes before next)) =
        some next ↔ ∀ key ∈ before, key ∈ next := by
      split
      · rename_i same
        simp [same]
      · rw [Option.some_inj, mergeAttributes_eq_right]
    rw [← beforeEq, merged]
    refine forall₂_congr fun key member => ?_
    rw [nextEq]
    exact mem_reportedAttributes member

theorem refines_ignored
    (ignored : incoming.asObject = none ∨ ¬ Handled house.bridge.store failing deviceId) :
    Refines (house.step readers (.report now failing deviceId incoming isPartial)) ↔ Refines house := by
  obtain ⟨storeEq, eventsEq⟩ :=
    handleState_ignored readers now failing house.bridge deviceId incoming isPartial ignored
  have caughtUpEq :
      (house.step readers (.report now failing deviceId incoming isPartial)).caughtUp =
        house.caughtUp := by
    simp only [House.step]
    split
    · rename_i bridge events handledEq
      have none := eventsEq events (by rw [handledEq])
      simp [House.caughtUp, none]
    · rfl
  have storedEq : ∀ other,
      (house.step readers (.report now failing deviceId incoming isPartial)).stored other =
        house.stored other := by
    intro other
    simp only [House.step]
    split
    all_goals
      rename_i handledEq
      rw [handledEq] at storeEq
      dsimp only at storeEq
      simp only [House.stored, storeEq]
  simp only [refines_iff, caughtUpEq, storedEq]

end Step

/-- One step: what the bridge and the engine agree on, they go on agreeing on
exactly when the step drops nothing. -/
theorem refines_step (readers : ChangeReaders) (house : House) (input : HouseInput)
    (agreed : Refines house) :
    Refines (house.step readers input) ↔ DropsNothing house input := by
  cases input with
  | command now deviceId payload =>
    have storeEq : (house.bridge.recordPendingCommandChange readers now deviceId payload).store =
        house.bridge.store := by
      unfold StateBridge.recordPendingCommandChange
      split <;> rfl
    simp only [refines_iff, House.step, House.caughtUp, House.stored, storeEq, DropsNothing, iff_true]
    exact agreed.entries
  | process now =>
    simp only [DropsNothing, iff_true]
    unfold House.step
    cases queue : house.published with
    | nil => exact agreed
    | cons event later =>
      rw [refines_iff] at agreed ⊢
      simpa only [House.caughtUp, House.stored, queue, List.foldl_cons, updateCache] using agreed
  | report now failing deviceId incoming isPartial =>
    simp only [DropsNothing]
    cases isObject : incoming.asObject with
    | none =>
      rw [refines_ignored readers now isPartial (.inl isObject)]
      simp [agreed]
    | some payload =>
      by_cases handled : Handled house.bridge.store failing deviceId
      · rw [refines_handled readers now isPartial agreed isObject handled]
        simp [handled]
      · rw [refines_ignored readers now isPartial (.inr handled)]
        simp [agreed, handled]

theorem refines_start (bridge : StateBridge) : Refines (House.start bridge) := by
  rw [refines_iff]
  intro deviceId
  simp only [House.start, House.caughtUp, House.stored, List.foldl_nil, seed,
    DeviceStore.listDevices, DeviceStore.getDevice]
  exact Maps.getElem?_ofList_toList bridge.store.keyed (·.attributes) deviceId

/-- Over every run of reports, commands and deliveries, the engine's cache, once
it has processed what was published, is the store's attributes throughout if and
only if no report takes away a key of the record it is about. -/
theorem cache_refines_store_iff (readers : ChangeReaders) (bridge : StateBridge)
    (inputs : List HouseInput) :
    Runs.Always (House.step readers) Refines (House.start bridge) inputs ↔
      Runs.EachStep (House.step readers) DropsNothing (House.start bridge) inputs :=
  Runs.always_iff_eachStep (refines_step readers) (refines_start bridge) inputs

/-- A lamp that last reported its battery along with being on. -/
def lampBridge : StateBridge :=
  let readings : AttrMap :=
    Std.ExtTreeMap.ofList [("battery", Json.num (.posInt 50)), ("on", Json.bool true)]
  let lamp := { DeviceState.new "lamp" "lamp" "lamp" 0 with
    canonicalName := some "lamp", available := true, attributes := readings }
  ⟨DeviceStore.upsert ⟨∅, [], DeviceStore.none_keyed⟩ lamp, ∅⟩

/-- It reports again, this time without the battery, and the engine is told: a
check of the battery passes on the cache and fails on the record. -/
theorem cache_keeps_dropped_attribute :
    let step := House.step ⟨fun _ _ => none, fun _ => none⟩
    let inputs := [.report 0 none "lamp" (.obj [("on", .bool true)]) false, .process 0]
    let house := inputs.foldl step (House.start lampBridge)
    (house.published.isEmpty = true ∧
      deviceStateHolds house.cache.deviceCache["lamp"]? "battery" .eq (.num (.posInt 50)) = true ∧
      deviceStateHolds (house.stored "lamp") "battery" .eq (.num (.posInt 50)) = false) ∧
    ¬ Runs.Always step Refines (House.start lampBridge) inputs := by
  intro step inputs house
  have evaluated : house.published.isEmpty = true ∧
      deviceStateHolds house.cache.deviceCache["lamp"]? "battery" .eq (.num (.posInt 50)) = true ∧
      deviceStateHolds (house.stored "lamp") "battery" .eq (.num (.posInt 50)) = false := by
    decide
  refine ⟨evaluated, fun always => ?_⟩
  obtain ⟨allProcessed, onCache, onStore⟩ := evaluated
  have same := always.last.answers "lamp" "battery" .eq (.num (.posInt 50))
  have caughtUp : house.caughtUp = house.cache.deviceCache := by
    rw [House.caughtUp, List.isEmpty_iff.mp allProcessed, List.foldl_nil]
  change deviceStateHolds house.caughtUp["lamp"]? _ _ _ = deviceStateHolds (house.stored "lamp") _ _ _
    at same
  rw [caughtUp, onCache, onStore] at same
  cases same

end HomeCore.Engine
