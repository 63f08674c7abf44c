import HomeCore.Devices.StateReports
import HomeCore.Engine.ChangeTimes

/-! What a restart does to the times of changes. The engine that is started again has them from the
records, where only state reports keep them; for the other writers a record has the time at which it
was last written, of all its attributes alike. -/
namespace HomeCore.Engine

def reading (cache : EngineCache) (deviceId attr : String) : Option Json :=
  cache.deviceCache[deviceId]?.bind fun attrs => attrs[attr]?

/-- The engine as it is, and as it would be if it were started again. -/
structure Survives (house : TimedHouse) : Prop where
  /-- The times of changes, to the second. -/
  times : ∀ deviceId attr, (changedAt house.cache deviceId attr).map (· / second) =
    (changedAt (TimedHouse.start house.bridge).cache deviceId attr).map (· / second)
  /-- What is true of the time elapsed for the one is true for the other, a second later. -/
  elapsed : ∀ deviceId attr now durationSecs,
    timeElapsedHolds (changedAt house.cache deviceId attr) now durationSecs = true →
      timeElapsedHolds (changedAt (TimedHouse.start house.bridge).cache deviceId attr) (now + second)
        durationSecs = true
  elapsedSince : ∀ deviceId attr now durationSecs,
    timeElapsedHolds (changedAt (TimedHouse.start house.bridge).cache deviceId attr) now
        durationSecs = true →
      timeElapsedHolds (changedAt house.cache deviceId attr) (now + second) durationSecs = true

/-- No attribute is taken away. One that moves is recorded in the second in which the engine hears of it;
one that does not has its own time on record, or the device was last seen in this second already. -/
def KeepsTimes (device : DeviceState) (next : AttrMap) (recorded : String → DateTime)
    (seen heard : DateTime) : Prop :=
  ∀ key, match device.attributes[key]?, next[key]? with
    | some old, some new =>
      if old = new then key ∈ device.attributesChangedAt ∨ seen / second = device.lastSeen / second
      else recorded key / second = heard / second
    | some _, none => False
    | none, some _ => recorded key / second = heard / second
    | none, none => True

/-- What a record has as the time of an attribute, when it was last seen at this time. -/
def onRecord (device : DeviceState) (seen : DateTime) (key : String) : DateTime :=
  device.attributesChangedAt[key]?.getD seen

/-- The writers that leave the times on record as they are. -/
def KeepsOldTimes (now heard : DateTime) (device : DeviceState) (next : AttrMap) : Prop :=
  KeepsTimes device next (onRecord device now) now heard

def RecordedAsHeard (rfc3339 : DateTime → String) (house : TimedHouse) : ChangeInput → Prop
  | .report now heard failing deviceId incoming isPartial =>
    ∀ payload ∈ incoming.asObject, Handled house.bridge.store failing deviceId →
      let device := recordBefore now deviceId house.bridge.store
      KeepsTimes device (reportedAttributes device.attributes payload isPartial) (fun _ => now) now heard
  | .availability now deviceId _ => ∀ device ∈ house.bridge.store.getDevice deviceId,
      KeepsOldTimes now now device device.attributes
  | .helper now heard deviceId _ mutate => ∀ device ∈ house.bridge.store.getDevice deviceId,
      KeepsOldTimes now heard device (mutate device.attributes)
  | .settings _ heard deviceId config => ∀ device ∈ house.bridge.store.getDevice deviceId,
      KeepsOldTimes device.lastSeen heard device
        (configured (device.deviceType.getD "") config device.attributes)
  | .timer now heard deviceId newState extra _ => ∀ device ∈ house.bridge.store.getDevice deviceId,
      KeepsOldTimes now heard device (timerAttributes now rfc3339 newState extra device.attributes)
  | .timerFires now heard deviceId => ∀ device ∈ house.bridge.store.getDevice deviceId,
      KeepsOldTimes now heard device (firedAttributes device.attributes)
  | .timerRepeats now heard deviceId durationSecs => ∀ device ∈ house.bridge.store.getDevice deviceId,
      KeepsOldTimes now heard device (repeatedAttributes now rfc3339 durationSecs device.attributes)
  | .mode now heard mode on times _ =>
      let device := modeRecord now house.bridge.store mode
      KeepsOldTimes now heard device (modeAttributes mode on times device.attributes)
  | .command .. | .restart => True

/-! ## The condition -/

theorem elapsed_le {span : Int} {durationSecs : Nat} :
    durationSecs ≤ (span.tdiv second).toNat ↔ durationSecs = 0 ∨ durationSecs * second ≤ span := by
  have positive : (0 : Int) < second := by decide
  constructor
  · intro passed
    by_cases isZero : durationSecs = 0
    · exact .inl isZero
    · right
      have whole : (durationSecs : Int) ≤ span.tdiv second := by omega
      have lasts : 0 ≤ span := by
        by_contra negative
        have mirrored : 0 ≤ (-span).tdiv second := Int.tdiv_nonneg (by omega) positive.le
        rw [Int.neg_tdiv] at mirrored
        omega
      rw [Int.tdiv_eq_ediv_of_nonneg lasts] at whole
      exact (Int.le_ediv_iff_mul_le positive).mp whole
  · rintro (isZero | passed)
    · omega
    · have lasts : 0 ≤ span := le_trans (by positivity) passed
      rw [Int.tdiv_eq_ediv_of_nonneg lasts]
      have whole := (Int.le_ediv_iff_mul_le positive).mpr passed
      omega

/-- Two times in the same second are less than a second apart. -/
theorem elapsed_later {a b : Option DateTime} (same : a.map (· / second) = b.map (· / second))
    {now : DateTime} {durationSecs : Nat} (elapsed : timeElapsedHolds a now durationSecs = true) :
    timeElapsedHolds b (now + second) durationSecs = true := by
  cases a with
  | none => cases elapsed
  | some a =>
    cases b with
    | none => cases same
    | some b =>
      simp only [Option.map_some, Option.some.injEq, second] at same
      simp only [timeElapsedHolds, Option.any_some, decide_eq_true_eq, elapsed_le] at elapsed ⊢
      refine elapsed.imp id fun elapsed => ?_
      simp only [second] at elapsed ⊢
      omega

theorem survives_iff (house : TimedHouse) : Survives house ↔ ∀ deviceId attr,
    (changedAt house.cache deviceId attr).map (· / second) =
      (changedAt (TimedHouse.start house.bridge).cache deviceId attr).map (· / second) := by
  constructor
  · exact Survives.times
  · intro times
    refine ⟨times, ?_, ?_⟩
    · intro deviceId attr now durationSecs
      exact elapsed_later (times deviceId attr)
    · intro deviceId attr now durationSecs
      exact elapsed_later (times deviceId attr).symm

/-! ## What the engine hears -/

def currentOf : Event → Option (String × AttrMap)
  | .deviceStateChanged _ deviceId _ _ current _ _ => some (deviceId, current)
  | _ => none

def hear (heard : DateTime) (cache : EngineCache) (told : String × AttrMap) : EngineCache where
  deviceCache := cache.deviceCache.insert told.1 (match cache.deviceCache[told.1]? with
    | some attrs => mergeAttributes attrs told.2
    | none => told.2)
  attrChangedAt := cache.attrChangedAt.insert told.1
    (stampMoved heard cache.deviceCache[told.1]? told.2 (cache.attrChangedAt[told.1]?.getD ∅))

theorem updateCache_eq (heard : DateTime) (cache : EngineCache) (event : Event) :
    updateCache heard cache event = (currentOf event).elim cache (hear heard cache) := by
  cases event <;> rfl

theorem foldl_updateCache (heard : DateTime) (cache : EngineCache) (events : List Event) :
    events.foldl (updateCache heard) cache = (events.filterMap currentOf).foldl (hear heard) cache := by
  induction events generalizing cache with
  | nil => rfl
  | cons event rest ih =>
    rw [List.foldl_cons, ih, updateCache_eq, List.filterMap_cons]
    cases currentOf event <;> rfl

section Hear
variable (heard : DateTime) (cache : EngineCache) (deviceId : String) (current : AttrMap)

theorem reading_hear (other attr : String) :
    reading (hear heard cache (deviceId, current)) other attr =
      if deviceId = other then current[attr]?.or (reading cache other attr)
      else reading cache other attr := by
  simp only [reading, hear, Std.ExtTreeMap.getElem?_insert, Std.compare_eq_iff_eq]
  split
  · next same =>
    subst same
    rw [Option.bind_some]
    cases cache.deviceCache[deviceId]? with
    | none => simp
    | some attrs =>
      simp only [Option.bind_some, getElem?_mergeAttributes]
      cases current[attr]? <;> rfl
  · rfl

theorem getElem?_stampMoved (previous : Option AttrMap) (stamps : Std.ExtTreeMap String DateTime)
    (attr : String) : (stampMoved heard previous current stamps)[attr]? =
      current[attr]?.elim stamps[attr]? fun value =>
        if previous.bind (·[attr]?) = some value then stamps[attr]? else some heard := by
  let settle : String → Json → Option DateTime → Option DateTime := fun key value stamp =>
    if previous.bind (·[key]?) = some value then stamp else some heard
  have written : ∀ (target : Std.ExtTreeMap String DateTime) k value (key : String),
      (if previous.bind (·[k]?) = some value then target else target.insert k heard)[key]? =
        if compare k key = .eq then settle key value target[key]? else target[key]? := by
    intro target k value key
    simp only [Std.compare_eq_iff_eq, settle]
    by_cases same : k = key
    · subst same
      rw [if_pos rfl]
      split
      · rfl
      · exact Std.ExtTreeMap.getElem?_insert_self
    · rw [if_neg same]
      split
      · rfl
      · rw [Std.ExtTreeMap.getElem?_insert, if_neg (mt Std.compare_eq_iff_eq.mp same)]
  exact Maps.getElem?_foldl_settle written current stamps attr

theorem changedAt_hear (other attr : String) :
    changedAt (hear heard cache (deviceId, current)) other attr =
      if deviceId = other then current[attr]?.elim (changedAt cache other attr) fun value =>
        if reading cache other attr = some value then changedAt cache other attr else some heard
      else changedAt cache other attr := by
  simp only [changedAt, hear, Std.ExtTreeMap.getElem?_insert, Std.compare_eq_iff_eq]
  split
  · next same =>
    subst same
    have stamps : (cache.attrChangedAt[deviceId]?.getD ∅)[attr]? = changedAt cache deviceId attr := by
      rw [changedAt]
      cases cache.attrChangedAt[deviceId]? <;> simp
    rw [Option.bind_some, getElem?_stampMoved, stamps]
    rfl
  · rfl

end Hear

/-! ## What the records say -/

section Recorded
variable (store : DeviceStore) (deviceId attr : String)

def storedReading : Option Json := (store.getDevice deviceId).bind fun device => device.attributes[attr]?

/-- When the record has it that the attribute last changed. -/
def recordedAt : Option DateTime :=
  (store.getDevice deviceId).bind fun device =>
    device.attributes[attr]?.map fun _ => onRecord device device.lastSeen attr

theorem reading_seed : reading (seed store.listDevices) deviceId attr = storedReading store deviceId attr := by
  simp only [reading, seed, DeviceStore.listDevices, storedReading, DeviceStore.getDevice]
  rw [Maps.getElem?_ofList_toList store.keyed (·.attributes) deviceId]
  cases store.devices[deviceId]? <;> rfl

theorem changedAt_seed : changedAt (seed store.listDevices) deviceId attr = recordedAt store deviceId attr := by
  simp only [changedAt, seed, DeviceStore.listDevices, recordedAt, DeviceStore.getDevice]
  rw [Maps.getElem?_ofList_toList store.keyed seedStamps deviceId]
  cases store.devices[deviceId]? with
  | none => rfl
  | some device =>
    rw [Option.map_some, Option.bind_some, Option.bind_some, seedStamps, Std.ExtTreeMap.getElem?_map]
    rfl

end Recorded

/-- What the engine has read is what is stored. -/
def SameReadings (house : TimedHouse) : Prop :=
  ∀ deviceId attr, reading house.cache deviceId attr = storedReading house.bridge.store deviceId attr

theorem survives_iff_recorded (house : TimedHouse) : Survives house ↔ ∀ deviceId attr,
    (changedAt house.cache deviceId attr).map (· / second) =
      (recordedAt house.bridge.store deviceId attr).map (· / second) := by
  rw [survives_iff]
  simp only [TimedHouse.start, changedAt_seed]

theorem survives_congr {a b : TimedHouse} (sameStore : a.bridge.store = b.bridge.store)
    (sameCache : a.cache = b.cache) : (Survives a ↔ Survives b) ∧ (SameReadings a ↔ SameReadings b) := by
  rw [survives_iff_recorded, survives_iff_recorded, SameReadings, SameReadings, sameStore, sameCache]
  exact ⟨Iff.rfl, Iff.rfl⟩

/-! ## A write -/

/-- A record is written over another, or over none, and the engine is told of its attributes, at least
where they moved. -/
structure Wrote (store : DeviceStore) (before after : DeviceState) (result : WriteResult) : Prop where
  found : ∀ device ∈ store.getDevice before.deviceId, before.attributes = device.attributes ∧
    before.attributesChangedAt = device.attributesChangedAt ∧ before.lastSeen = device.lastSeen
  fresh : store.getDevice before.deviceId = none → before.attributes = ∅
  sameId : after.deviceId = before.deviceId
  stored : result.1 = store.upsert after
  told : result.2.filterMap currentOf = [(after.deviceId, after.attributes)] ∨
    (result.2.filterMap currentOf = [] ∧ before.attributes = after.attributes)

/-- The times on record are the engine's. -/
def TimesKept (before after : DeviceState) (heard : DateTime) : Prop :=
  ∀ key, match before.attributes[key]?, after.attributes[key]? with
    | some old, some new =>
      if old = new then
        onRecord after after.lastSeen key / second = onRecord before before.lastSeen key / second
      else onRecord after after.lastSeen key / second = heard / second
    | some _, none => False
    | none, some _ => onRecord after after.lastSeen key / second = heard / second
    | none, none => True

section Wrote
variable {house : TimedHouse} {before after : DeviceState} {result : WriteResult} {heard : DateTime}

theorem Wrote.before_reading (wrote : Wrote house.bridge.store before after result) (attr : String) :
    storedReading house.bridge.store before.deviceId attr = before.attributes[attr]? := by
  rw [storedReading]
  cases found : house.bridge.store.getDevice before.deviceId with
  | none => simp [wrote.fresh found]
  | some device => rw [Option.bind_some, (wrote.found device found).1]

theorem Wrote.before_recorded (wrote : Wrote house.bridge.store before after result) (attr : String) :
    recordedAt house.bridge.store before.deviceId attr =
      before.attributes[attr]?.map fun _ => onRecord before before.lastSeen attr := by
  rw [recordedAt]
  cases found : house.bridge.store.getDevice before.deviceId with
  | none => simp [wrote.fresh found]
  | some device =>
    obtain ⟨attributes, stamps, seen⟩ := wrote.found device found
    rw [Option.bind_some, onRecord, onRecord, attributes, stamps, seen]

/-- What the engine has read and holds for times after the write. -/
theorem Wrote.hears (wrote : Wrote house.bridge.store before after result) (same : SameReadings house)
    (deviceId attr : String) :
    (reading (house.wrote heard result).cache deviceId attr = if before.deviceId = deviceId then
        after.attributes[attr]?.or before.attributes[attr]? else reading house.cache deviceId attr) ∧
      changedAt (house.wrote heard result).cache deviceId attr =
        if before.deviceId = deviceId ∧ after.attributes[attr]?.isSome = true ∧
          before.attributes[attr]? ≠ after.attributes[attr]? then some heard
        else changedAt house.cache deviceId attr := by
  have readings : reading house.cache before.deviceId attr = before.attributes[attr]? := by
    rw [same, wrote.before_reading]
  rw [TimedHouse.wrote, foldl_updateCache]
  by_cases isDevice : before.deviceId = deviceId
  · subst isDevice
    rcases wrote.told with told | ⟨silent, same⟩
    · rw [told, List.foldl_cons, List.foldl_nil, reading_hear, changedAt_hear, wrote.sameId, if_pos rfl,
        if_pos rfl, if_pos rfl, readings]
      refine ⟨rfl, ?_⟩
      cases after.attributes[attr]? with
      | none => simp
      | some value =>
        by_cases moved : before.attributes[attr]? = some value
        · simp [moved]
        · simp [moved]
    · rw [silent, List.foldl_nil, ← same, if_pos rfl, readings]
      simp
  · rw [if_neg isDevice, if_neg (by simp [isDevice])]
    rcases wrote.told with told | ⟨silent, same⟩
    · rw [told, List.foldl_cons, List.foldl_nil, reading_hear, changedAt_hear, wrote.sameId,
        if_neg isDevice, if_neg isDevice]
      exact ⟨rfl, rfl⟩
    · rw [silent, List.foldl_nil]
      exact ⟨rfl, rfl⟩

theorem Wrote.after_stored (wrote : Wrote house.bridge.store before after result) (deviceId attr : String) :
    (storedReading (house.wrote heard result).bridge.store deviceId attr =
      if before.deviceId = deviceId then after.attributes[attr]?
      else storedReading house.bridge.store deviceId attr) ∧
    recordedAt (house.wrote heard result).bridge.store deviceId attr =
      if before.deviceId = deviceId then
        after.attributes[attr]?.map fun _ => onRecord after after.lastSeen attr
      else recordedAt house.bridge.store deviceId attr := by
  change storedReading result.1 _ _ = _ ∧ recordedAt result.1 _ _ = _
  rw [storedReading, recordedAt, wrote.stored, getDevice_upsert, wrote.sameId]
  split <;> exact ⟨rfl, rfl⟩

/-- Another record keeps its times; those of the one written are the engine's exactly if the write
keeps them. -/
theorem Wrote.survives_iff (wrote : Wrote house.bridge.store before after result)
    (same : SameReadings house) (survives : Survives house) :
    Survives (house.wrote heard result) ↔ TimesKept before after heard := by
  have agreed := (survives_iff_recorded house).mp survives
  have own := agreed before.deviceId
  simp only [wrote.before_recorded] at own
  rw [survives_iff_recorded]
  have other : ∀ deviceId attr, before.deviceId ≠ deviceId →
      (changedAt (house.wrote heard result).cache deviceId attr).map (· / second) =
        (recordedAt (house.wrote heard result).bridge.store deviceId attr).map (· / second) := by
    intro deviceId attr apart
    rw [(wrote.hears same deviceId attr).2, (wrote.after_stored deviceId attr).2, if_neg apart,
      if_neg (by simp [apart])]
    exact agreed deviceId attr
  have here : ∀ attr, (changedAt (house.wrote heard result).cache before.deviceId attr).map (· / second) =
        (recordedAt (house.wrote heard result).bridge.store before.deviceId attr).map (· / second) ↔
      match before.attributes[attr]?, after.attributes[attr]? with
      | some old, some new =>
        if old = new then
          onRecord after after.lastSeen attr / second = onRecord before before.lastSeen attr / second
        else onRecord after after.lastSeen attr / second = heard / second
      | some _, none => False
      | none, some _ => onRecord after after.lastSeen attr / second = heard / second
      | none, none => True := by
    intro attr
    have held := own attr
    rw [(wrote.hears same before.deviceId attr).2, (wrote.after_stored before.deviceId attr).2, if_pos rfl]
    cases was : before.attributes[attr]? with
    | none =>
      rw [was, Option.map_none, Option.map_none, Option.map_eq_none_iff] at held
      cases next : after.attributes[attr]? with
      | none => simp [held]
      | some new => simp [eq_comm]
    | some old =>
      rw [was, Option.map_some, Option.map_some] at held
      cases next : after.attributes[attr]? with
      | none => simp [held]
      | some new =>
        by_cases unmoved : old = new
        · simp [unmoved, held, eq_comm]
        · simp [unmoved, eq_comm]
  constructor
  · intro times attr
    exact (here attr).mp (times before.deviceId attr)
  · intro kept deviceId attr
    by_cases isDevice : before.deviceId = deviceId
    · subst isDevice
      exact (here attr).mpr (kept attr)
    · exact other deviceId attr isDevice

theorem Wrote.sameReadings (wrote : Wrote house.bridge.store before after result)
    (same : SameReadings house) (kept : TimesKept before after heard) :
    SameReadings (house.wrote heard result) := by
  intro deviceId attr
  rw [(wrote.hears same deviceId attr).1, (wrote.after_stored deviceId attr).1]
  split
  · have keeps := kept attr
    cases next : after.attributes[attr]? with
    | some new => rfl
    | none =>
      rw [next] at keeps
      cases was : before.attributes[attr]? with
      | none => rfl
      | some old =>
        rw [was] at keeps
        exact keeps.elim
  · exact same deviceId attr

theorem Wrote.keeps (wrote : Wrote house.bridge.store before after result) (same : SameReadings house)
    (survives : Survives house) {condition : Prop} (kept : TimesKept before after heard ↔ condition) :
    (Survives (house.wrote heard result) ↔ condition) ∧
      (condition → SameReadings (house.wrote heard result)) :=
  ⟨(wrote.survives_iff same survives).trans kept, fun holds => wrote.sameReadings same (kept.mpr holds)⟩

end Wrote

/-! ## The writers -/

section Writers
variable {house : TimedHouse} {store : DeviceStore} {before after device : DeviceState} {now heard : DateTime}

/-- A writer that leaves the times on record as they are. -/
theorem timesKept_old (stamps : after.attributesChangedAt = before.attributesChangedAt) :
    TimesKept before after heard ↔ KeepsOldTimes after.lastSeen heard before after.attributes := by
  refine forall_congr' fun key => ?_
  have sameRecord : onRecord after after.lastSeen key = onRecord before after.lastSeen key := by
    rw [onRecord, onRecord, stamps]
  rw [sameRecord]
  cases before.attributes[key]? with
  | none => cases after.attributes[key]? <;> exact Iff.rfl
  | some old =>
    cases after.attributes[key]? with
    | none => exact Iff.rfl
    | some new =>
      by_cases unmoved : old = new
      · simp only [if_pos unmoved, onRecord, Std.ExtTreeMap.mem_iff_isSome_getElem?]
        cases before.attributesChangedAt[key]? <;> simp
      · simp only [if_neg unmoved]

theorem currentOf_announcement (kind : DeviceWrite) :
    (announcement now kind after).filterMap currentOf = [] := by
  cases kind <;> rfl

theorem movedKeys_eq_nil {previous current : AttrMap} (unmoved : movedKeys previous current = []) :
    previous = current := by
  obtain ⟨updated, removed⟩ := List.append_eq_nil_iff.mp unmoved
  apply changedKeys_eq_nil.mp
  rw [changedKeys, updated, List.nil_append, List.filter_eq_nil_iff]
  intro key member
  have kept := List.filter_eq_nil_iff.mp removed key member
  simpa using kept

/-- A write over a record that is there. -/
theorem Wrote.of_found {deviceId : String} {result : WriteResult} (found : store.getDevice deviceId = some before)
    (sameId : after.deviceId = before.deviceId) (stored : result.1 = store.upsert after)
    (told : result.2.filterMap currentOf = [(after.deviceId, after.attributes)] ∨
      (result.2.filterMap currentOf = [] ∧ before.attributes = after.attributes)) :
    Wrote store before after result := by
  have isDevice := store.keyed deviceId before found
  refine ⟨?_, ?_, sameId, stored, told⟩
  · intro known isKnown
    rw [isDevice, found, Option.mem_def, Option.some_inj] at isKnown
    rw [isKnown]
    exact ⟨rfl, rfl, rfl⟩
  · intro absent
    rw [isDevice, found] at absent
    cases absent

/-- A writer that edits the record if there is one, and otherwise does nothing. -/
theorem keeps_edit (same : SameReadings house) (survives : Survives house) {deviceId : String}
    {edit : DeviceState → DeviceState} {result : WriteResult}
    (absent : house.bridge.store.getDevice deviceId = none → result = (house.bridge.store, []))
    (wrote : ∀ device, house.bridge.store.getDevice deviceId = some device →
      Wrote house.bridge.store device (edit device) result)
    (stamps : ∀ device, (edit device).attributesChangedAt = device.attributesChangedAt) :
    let condition := ∀ device ∈ house.bridge.store.getDevice deviceId,
      KeepsOldTimes (edit device).lastSeen heard device (edit device).attributes
    (Survives (house.wrote heard result) ↔ condition) ∧
      (condition → SameReadings (house.wrote heard result)) := by
  intro condition
  cases found : house.bridge.store.getDevice deviceId with
  | none =>
    rw [absent found]
    refine ⟨iff_of_true survives ?_, fun _ => same⟩
    intro device isDevice
    rw [found] at isDevice
    cases isDevice
  | some device =>
    have only : condition ↔ KeepsOldTimes (edit device).lastSeen heard device (edit device).attributes := by
      simp only [condition, found, Option.mem_def, Option.some.injEq, forall_eq']
    rw [only]
    exact (wrote device found).keeps same survives (timesKept_old (stamps device))

theorem keeps_rewriteRecord (same : SameReadings house) (survives : Survives house) {deviceId : String}
    {change : DeviceChange} {mutate : AttrMap → AttrMap} {tell : DeviceState → DeviceState → List Event}
    (tells : ∀ before after : DeviceState, (tell before after).filterMap currentOf =
        [(after.deviceId, after.attributes)] ∨
      ((tell before after).filterMap currentOf = [] ∧ before.attributes = after.attributes)) :
    let condition := ∀ device ∈ house.bridge.store.getDevice deviceId,
      KeepsOldTimes now heard device (mutate device.attributes)
    let written := house.wrote heard (rewriteRecord now house.bridge.store deviceId change mutate tell)
    (Survives written ↔ condition) ∧ (condition → SameReadings written) := by
  refine @keeps_edit house heard same survives deviceId (edited now change mutate) _ ?_ ?_ fun _ => rfl
  · intro absent
    rw [rewriteRecord, absent]
  · intro device found
    rw [rewriteRecord, found]
    refine .of_found found rfl rfl ?_
    rw [List.filterMap_append, currentOf_announcement, List.nil_append]
    exact tells _ _

theorem tells_publishStateChange (change : DeviceChange) (before after : DeviceState) :
    (publishStateChange now change before after).filterMap currentOf = [(after.deviceId, after.attributes)] ∨
      ((publishStateChange now change before after).filterMap currentOf = [] ∧
        before.attributes = after.attributes) := by
  rw [publishStateChange]
  split
  · next unmoved => exact .inr ⟨rfl, movedKeys_eq_nil (List.isEmpty_iff.mp unmoved)⟩
  · exact .inl rfl

/-! Settings are only added to the attributes. -/

theorem mem_reselected {attributes : AttrMap} {key : String} (member : key ∈ attributes) :
    key ∈ reselected attributes := by
  rw [reselected]
  split
  · exact member
  · exact Std.ExtTreeMap.mem_insert.mpr (.inr member)

theorem mem_configured {deviceType key : String} {config attributes : AttrMap} (member : key ∈ attributes) :
    key ∈ configured deviceType config attributes := by
  have adds : ∀ (value : Option Json) (name : String) (attrs : AttrMap), key ∈ attrs →
      key ∈ value.elim attrs (attrs.insert name) := by
    intro value name attrs member
    cases value with
    | none => exact member
    | some value => exact Std.ExtTreeMap.mem_insert.mpr (.inr member)
  have merges : ∀ (incoming : AttrMap) (names : List String) (attrs : AttrMap), key ∈ attrs →
      key ∈ names.foldl (fun attrs name => (incoming[name]?).elim attrs (attrs.insert name)) attrs := by
    intro incoming names
    induction names with
    | nil => exact fun attrs member => member
    | cons name rest ih => exact fun attrs member => ih _ (adds _ _ attrs member)
  have timed : ∀ (incoming attrs : AttrMap), key ∈ attrs → key ∈ (if deviceType = "timer" then
      (incoming["duration_secs"]?).elim attrs (attrs.insert "default_secs") else attrs) := by
    intro incoming attrs member
    split
    · exact adds _ _ attrs member
    · exact member
  simp only [configured]
  split
  · exact mem_reselected (timed _ _ (merges _ _ attributes member))
  · exact timed _ _ (merges _ _ attributes member)

theorem same_of_extends {previous current : AttrMap} (contained : ∀ key ∈ previous, key ∈ current)
    (unmoved : (current.keys.filter fun key => previous[key]? != current[key]?) = []) : previous = current := by
  refine changedKeys_eq_nil.mp ?_
  rw [changedKeys, unmoved, List.nil_append, List.filter_eq_nil_iff]
  intro key member
  have kept := contained key (Std.ExtTreeMap.mem_keys.mp member)
  simp [Std.ExtTreeMap.contains_iff_mem.mpr kept]

theorem keeps_updateGlue (same : SameReadings house) (survives : Survives house) (deviceId : String)
    (config : AttrMap) :
    let condition := ∀ device ∈ house.bridge.store.getDevice deviceId,
      KeepsOldTimes device.lastSeen heard device
        (configured (device.deviceType.getD "") config device.attributes)
    let written := house.wrote heard (updateGlue now house.bridge.store deviceId config)
    (Survives written ↔ condition) ∧ (condition → SameReadings written) := by
  refine @keeps_edit house heard same survives deviceId (reconfigured config) _ ?_ ?_ fun _ => rfl
  · intro absent
    rw [updateGlue, absent]
  · intro device found
    rw [updateGlue, found]
    refine .of_found found rfl rfl ?_
    rw [List.filterMap_append, currentOf_announcement, List.nil_append]
    split
    · next unmoved =>
      exact .inr ⟨rfl, same_of_extends (fun key => mem_configured) (List.isEmpty_iff.mp unmoved)⟩
    · exact .inl rfl

theorem withCanonicalName_seen (devices : List DeviceState) (device : DeviceState) :
    (withCanonicalName devices device).lastSeen = device.lastSeen := by
  rw [withCanonicalName]
  split <;> rfl

theorem wrote_writeModeState (now : DateTime) (store : DeviceStore) (mode : ModeConfig) (on : Bool)
    (times : List (String × Json)) (change : Option DeviceChange) :
    Wrote store (modeRecord now store mode)
      (withCanonicalName store.listDevices (modeState now mode on times
        (change.getD (homecoreChange now "mode_manager")) (modeRecord now store mode)))
      (writeModeState now store mode on times change) := by
  have isMode : (modeRecord now store mode).deviceId = mode.id := by
    rw [modeRecord]
    cases found : store.getDevice mode.id with
    | none => rfl
    | some device => exact store.keyed mode.id device found
  refine ⟨?_, ?_, ?_, rfl, .inl ?_⟩
  · intro device found
    rw [isMode] at found
    rw [modeRecord, Option.mem_def.mp found]
    exact ⟨rfl, rfl, rfl⟩
  · intro absent
    rw [isMode] at absent
    rw [modeRecord, absent]
    rfl
  · rw [(withCanonicalName_kept _ _).1]
    rfl
  · simp only [writeModeState, List.filterMap_append, currentOf_announcement, List.nil_append]
    split <;> rfl

theorem keeps_writeModeState (same : SameReadings house) (survives : Survives house) (mode : ModeConfig)
    (on : Bool) (times : List (String × Json)) (change : Option DeviceChange) :
    let condition := KeepsOldTimes now heard (modeRecord now house.bridge.store mode)
      (modeAttributes mode on times (modeRecord now house.bridge.store mode).attributes)
    let written := house.wrote heard (writeModeState now house.bridge.store mode on times change)
    (Survives written ↔ condition) ∧ (condition → SameReadings written) := by
  refine (wrote_writeModeState now house.bridge.store mode on times change).keeps same survives ?_
  rw [timesKept_old, withCanonicalName_seen, (withCanonicalName_kept _ _).2.1]
  · rfl
  · rw [(withCanonicalName_kept _ _).2.2]
    rfl

theorem wrote_handleAvailability {deviceId : String} (available : Bool)
    (known : (store.getDevice deviceId).or (if store.isForgotten deviceId then none
      else some (StateBridge.newDevice now deviceId)) = some device) :
    Wrote store device (withCanonicalName store.listDevices (seenAs now available device))
      (handleAvailability now store deviceId available) := by
  obtain ⟨sameId, sameAttributes, _⟩ :=
    withCanonicalName_kept store.listDevices (seenAs now available device)
  simp only [handleAvailability, known]
  cases found : store.getDevice deviceId with
  | some record =>
    rw [found, Option.some_or, Option.some_inj] at known
    subst known
    refine .of_found found sameId rfl (.inr ⟨?_, sameAttributes.symm⟩)
    rw [List.filterMap_append, currentOf_announcement, List.nil_append]
    split <;> rfl
  | none =>
    rw [found, Option.none_or] at known
    split at known
    · cases known
    · cases known
      refine ⟨?_, fun _ => rfl, sameId, rfl, .inr ⟨?_, sameAttributes.symm⟩⟩
      · intro record isRecord
        change record ∈ store.getDevice deviceId at isRecord
        rw [found] at isRecord
        cases isRecord
      · rw [List.filterMap_append, currentOf_announcement, List.nil_append]
        split <;> rfl

theorem keeps_handleAvailability (same : SameReadings house) (survives : Survives house) (deviceId : String)
    (available : Bool) :
    let condition := ∀ device ∈ house.bridge.store.getDevice deviceId,
      KeepsOldTimes now heard device device.attributes
    let written := house.wrote heard (handleAvailability now house.bridge.store deviceId available)
    (Survives written ↔ condition) ∧ (condition → SameReadings written) := by
  intro condition written
  cases known : (house.bridge.store.getDevice deviceId).or (if house.bridge.store.isForgotten deviceId then none
      else some (StateBridge.newDevice now deviceId)) with
  | none =>
    have unchanged : written = house := by
      simp only [written, handleAvailability, known]
      rfl
    have absent := (Option.or_eq_none_iff.mp known).1
    rw [unchanged]
    refine ⟨iff_of_true survives ?_, fun _ => same⟩
    intro device isDevice
    rw [absent] at isDevice
    cases isDevice
  | some device =>
    have kept := withCanonicalName_kept house.bridge.store.listDevices (seenAs now available device)
    have sameAttributes : _ = device.attributes := kept.2.1
    have sameStamps : _ = device.attributesChangedAt := kept.2.2
    have wrote := wrote_handleAvailability available known
    refine wrote.keeps same survives ?_
    rw [timesKept_old sameStamps, withCanonicalName_seen, sameAttributes]
    simp only [condition]
    cases found : house.bridge.store.getDevice deviceId with
    | some record =>
      rw [found, Option.some_or, Option.some_inj] at known
      subst known
      simp only [Option.mem_def, Option.some.injEq, forall_eq']
      rfl
    | none =>
      refine iff_of_true ?_ (fun device isDevice => by cases isDevice)
      rw [found, Option.none_or] at known
      split at known
      · cases known
      · cases known
        intro key
        simp [StateBridge.newDevice, DeviceState.new]

/-! ## Reports -/

section Report
variable (readers : ChangeReaders) {failing : Option StoreCall} {deviceId : String} {incoming : Json}
  {isPartial : Bool} {payload : AttrMap}

theorem currentOf_reportEvents (kind : DeviceWrite) (before after : DeviceState) (change : DeviceChange) :
    (reportEvents now kind before after change).filterMap currentOf =
      if before.attributes = after.attributes then [] else [(after.deviceId, after.attributes)] := by
  simp only [reportEvents, List.filterMap_append, currentOf_announcement, List.isEmpty_iff, changedKeys_eq_nil]
  by_cases same : before.attributes = after.attributes
  · simp only [same, if_true]
    split <;> split <;> rfl
  · simp only [same, if_false]
    split <;> split <;> rfl

/-- The record and the events of a report that is handled. -/
theorem handleState_writes (bridge : StateBridge) (isObject : incoming.asObject = some payload)
    (handled : Handled bridge.store failing deviceId) : ∃ kind change, ∃ after : DeviceState,
      (bridge.handleState readers now failing deviceId incoming isPartial).1.store =
          bridge.store.upsert after ∧
        (bridge.handleState readers now failing deviceId incoming isPartial).2 =
          .ok (reportEvents now kind (recordBefore now deviceId bridge.store) after change) ∧
        after = withCanonicalName bridge.store.listDevices (reportedDevice now
          (recordBefore now deviceId bridge.store) payload isPartial change) := by
  obtain ⟨found, persisted⟩ := (handled_iff now failing deviceId bridge.store).mp handled
  simp only [StateBridge.handleState, isObject, found, persisted]
  exact ⟨_, _, _, rfl, rfl, rfl⟩

theorem recorded_stampChanged (before after : AttrMap) (stamps : Std.ExtTreeMap String DateTime) {key : String}
    (member : key ∈ after) : (stampChanged now (changedKeys before after) after stamps)[key]?.getD now =
      if before[key]? = after[key]? then stamps[key]?.getD now else now := by
  by_cases quiet : changedKeys before after = []
  · rw [quiet, changedKeys_eq_nil.mp quiet, if_pos rfl]
    rfl
  · rw [getElem?_stampChanged now quiet, if_pos member]
    by_cases moved : key ∈ changedKeys before after
    · rw [if_pos moved, if_neg (mem_changedKeys.mp moved), Option.getD_some]
    · rw [if_neg moved, if_pos (not_not.mp (mt mem_changedKeys.mpr moved))]

theorem wrote_reported (kind : DeviceWrite) (change : DeviceChange) :
    Wrote store (recordBefore now deviceId store)
      (withCanonicalName store.listDevices
        (reportedDevice now (recordBefore now deviceId store) payload isPartial change))
      (store.upsert (withCanonicalName store.listDevices
          (reportedDevice now (recordBefore now deviceId store) payload isPartial change)),
        reportEvents now kind (recordBefore now deviceId store) (withCanonicalName store.listDevices
          (reportedDevice now (recordBefore now deviceId store) payload isPartial change)) change) := by
  have sameId := recordBefore_deviceId now deviceId store
  refine ⟨?_, ?_, (withCanonicalName_kept _ _).1, rfl, ?_⟩
  · intro device found
    rw [sameId] at found
    rw [recordBefore, Option.mem_def.mp found]
    exact ⟨rfl, rfl, rfl⟩
  · intro absent
    rw [sameId] at absent
    rw [recordBefore, absent]
    rfl
  · rw [currentOf_reportEvents]
    split
    · next unmoved => exact .inr ⟨rfl, unmoved⟩
    · exact .inl rfl

/-- A report stamps what moved. -/
theorem timesKept_reported (change : DeviceChange) (devices : List DeviceState) :
    TimesKept device (withCanonicalName devices (reportedDevice now device payload isPartial change)) heard ↔
      KeepsTimes device (reportedAttributes device.attributes payload isPartial) (fun _ => now) now heard := by
  obtain ⟨_, attributes, stamps⟩ :=
    withCanonicalName_kept devices (reportedDevice now device payload isPartial change)
  have seen := withCanonicalName_seen devices (reportedDevice now device payload isPartial change)
  refine forall_congr' fun key => ?_
  rw [attributes, onRecord, stamps, seen]
  simp only [reportedDevice]
  cases next : (reportedAttributes device.attributes payload isPartial)[key]? with
  | none => cases device.attributes[key]? <;> exact Iff.rfl
  | some new =>
    have member : key ∈ reportedAttributes device.attributes payload isPartial := by
      rw [Std.ExtTreeMap.mem_iff_isSome_getElem?, next]
      rfl
    rw [recorded_stampChanged _ _ _ member, next]
    cases was : device.attributes[key]? with
    | none => simp
    | some old =>
      by_cases unmoved : old = new
      · simp only [unmoved, if_true, onRecord, Std.ExtTreeMap.mem_iff_isSome_getElem?]
        cases device.attributesChangedAt[key]? <;> simp
      · simp [unmoved]

theorem keeps_report (same : SameReadings house) (survives : Survives house) :
    let condition := ∀ payload ∈ incoming.asObject, Handled house.bridge.store failing deviceId →
      let device := recordBefore now deviceId house.bridge.store
      KeepsTimes device (reportedAttributes device.attributes payload isPartial) (fun _ => now) now heard
    let written := house.report readers now heard failing deviceId incoming isPartial
    (Survives written ↔ condition) ∧ (condition → SameReadings written) := by
  intro condition written
  by_cases ignored : incoming.asObject = none ∨ ¬ Handled house.bridge.store failing deviceId
  · have vacuous : condition := by
      intro payload isObject handled
      rcases ignored with unreadable | unhandled
      · rw [unreadable] at isObject
        cases isObject
      · exact absurd handled unhandled
    obtain ⟨storeEq, eventsEq⟩ :=
      handleState_ignored readers now failing house.bridge deviceId incoming isPartial ignored
    have sameStore : written.bridge.store = house.bridge.store := by
      simp only [written, TimedHouse.report]
      split
      all_goals
        next result =>
        rw [result] at storeEq
        exact storeEq
    have sameCache : written.cache = house.cache := by
      simp only [written, TimedHouse.report]
      split
      · next bridge events result =>
        rw [eventsEq events (by rw [result])]
        rfl
      · rfl
    obtain ⟨sameSurvives, alike⟩ := survives_congr sameStore sameCache
    exact ⟨iff_of_true (sameSurvives.mpr survives) vacuous, fun _ => alike.mpr same⟩
  · obtain ⟨isObject, handled⟩ := not_or.mp ignored
    obtain ⟨payload, isObject⟩ := Option.ne_none_iff_exists'.mp isObject
    have handled := not_not.mp handled
    have only : condition ↔ KeepsTimes (recordBefore now deviceId house.bridge.store)
        (reportedAttributes (recordBefore now deviceId house.bridge.store).attributes payload isPartial)
        (fun _ => now) now heard := by
      simp only [condition, isObject, Option.mem_def, Option.some.injEq, forall_eq', handled, true_implies]
    obtain ⟨kind, change, after, storeEq, eventsEq, rfl⟩ :=
      @handleState_writes now readers failing deviceId incoming isPartial payload house.bridge isObject handled
    have wrote := @wrote_reported house.bridge.store now deviceId isPartial payload kind change
    generalize recordBefore now deviceId house.bridge.store = before at *
    generalize isAfter : withCanonicalName house.bridge.store.listDevices
      (reportedDevice now before payload isPartial change) = after at *
    have sameStore : written.bridge.store = house.bridge.store.upsert after := by
      simp only [written, TimedHouse.report]
      split
      all_goals
        next result =>
        rw [result] at storeEq
        exact storeEq
    have sameCache : written.cache =
        (reportEvents now kind before after change).foldl (updateCache heard) house.cache := by
      simp only [written, TimedHouse.report]
      split
      · next result =>
        rw [result] at eventsEq
        rw [Except.ok.inj eventsEq]
      · next result =>
        rw [result] at eventsEq
        cases eventsEq
    obtain ⟨sameSurvives, alike⟩ := @survives_congr written
      (house.wrote heard (house.bridge.store.upsert after, reportEvents now kind before after change))
      sameStore sameCache
    rw [only, sameSurvives, alike]
    refine wrote.keeps same survives ?_
    rw [← isAfter]
    exact timesKept_reported change house.bridge.store.listDevices

end Report

end Writers

/-! ## Runs -/

theorem survives_restart (bridge : StateBridge) :
    Survives (TimedHouse.start bridge) ∧ SameReadings (TimedHouse.start bridge) := by
  refine ⟨(survives_iff_recorded _).mpr fun deviceId attr => ?_, fun deviceId attr => ?_⟩
  · rw [TimedHouse.start, changedAt_seed]
  · exact reading_seed bridge.store deviceId attr

theorem keeps_step (readers : ChangeReaders) (rfc3339 : DateTime → String) {house : TimedHouse}
    (same : SameReadings house) (survives : Survives house) (input : ChangeInput) :
    (Survives (house.step readers rfc3339 input) ↔ RecordedAsHeard rfc3339 house input) ∧
      (RecordedAsHeard rfc3339 house input → SameReadings (house.step readers rfc3339 input)) := by
  have always_tells : ∀ (now : DateTime) (name : String) (change : DeviceChange) (before after : DeviceState)
      (more : List Event), more.filterMap currentOf = [] →
      (stateChanged now name before after change :: more).filterMap currentOf =
        [(after.deviceId, after.attributes)] := by
    intro now name change before after more silent
    rw [List.filterMap_cons, silent]
    rfl
  cases input with
  | command now deviceId payload =>
    have sameStore : (house.step readers rfc3339 (.command now deviceId payload)).bridge.store =
        house.bridge.store := by
      simp only [TimedHouse.step, StateBridge.recordPendingCommandChange]
      split <;> rfl
    obtain ⟨sameSurvives, alike⟩ := survives_congr sameStore rfl
    exact ⟨iff_of_true (sameSurvives.mpr survives) trivial, fun _ => alike.mpr same⟩
  | report now heard failing deviceId incoming isPartial => exact keeps_report readers same survives
  | availability now deviceId available => exact keeps_handleAvailability same survives deviceId available
  | helper now heard deviceId change mutate =>
    exact keeps_rewriteRecord same survives (tells_publishStateChange change)
  | settings now heard deviceId config => exact keeps_updateGlue same survives deviceId config
  | timer now heard deviceId newState extra change =>
    exact keeps_rewriteRecord same survives fun before after => .inl (always_tells _ _ _ before after _ rfl)
  | timerFires now heard deviceId =>
    exact keeps_rewriteRecord same survives fun before after => .inl (always_tells _ _ _ before after _ rfl)
  | timerRepeats now heard deviceId durationSecs =>
    exact keeps_rewriteRecord same survives fun before after => .inl (always_tells _ _ _ before after _ rfl)
  | mode now heard mode on times change => exact keeps_writeModeState same survives mode on times change
  | restart =>
    obtain ⟨restarted, alike⟩ := survives_restart house.bridge
    exact ⟨iff_of_true restarted trivial, fun _ => alike⟩

/-- Over every run of the writers, with restarts in between, a restart of the engine leaves the times of
changes as they are, and what is judged on them, if and only if each write records them as heard. -/
theorem times_survive_iff (readers : ChangeReaders) (rfc3339 : DateTime → String) (bridge : StateBridge)
    (inputs : List ChangeInput) :
    Runs.Always (TimedHouse.step readers rfc3339) Survives (TimedHouse.start bridge) inputs ↔
      Runs.EachStep (TimedHouse.step readers rfc3339) (RecordedAsHeard rfc3339)
        (TimedHouse.start bridge) inputs := by
  obtain ⟨survives, same⟩ := survives_restart bridge
  refine Runs.always_iff_under SameReadings ?_ ?_ same survives inputs
  · intro house input same survives recorded
    exact (keeps_step readers rfc3339 same survives input).2 recorded
  · intro house input same survives
    exact (keeps_step readers rfc3339 same survives input).1

/-- A helper switch, off. -/
def switchBridge : StateBridge :=
  let switch := { DeviceState.new "switch_hall" "Hall" "core.glue" 0 with
    canonicalName := some "hall", available := true
    attributes := Std.ExtTreeMap.ofList [("on", Json.bool false)] }
  ⟨DeviceStore.upsert ⟨∅, [], DeviceStore.none_keyed⟩ switch, ∅⟩

/-- The switch is turned on, and a minute later once more: it has been on for a minute, but after a
restart for no time at all. -/
theorem restart_forgets_minute :
    let step := TimedHouse.step ⟨fun _ _ => none, fun _ => none⟩ fun _ => ""
    let turnOn (now : DateTime) : ChangeInput := .helper now now "switch_hall"
      (homecoreChange now "switch") fun attributes => attributes.insert "on" (.bool true)
    let inputs := [turnOn (10 * second), turnOn (70 * second)]
    let house := inputs.foldl step (TimedHouse.start switchBridge)
    (timeElapsedHolds (changedAt house.cache "switch_hall" "on") (70 * second) 60 = true ∧
      timeElapsedHolds (changedAt (TimedHouse.start house.bridge).cache "switch_hall" "on")
        (71 * second) 60 = false) ∧
    ¬ Runs.Always step Survives (TimedHouse.start switchBridge) inputs := by
  intro step turnOn inputs house
  have evaluated : timeElapsedHolds (changedAt house.cache "switch_hall" "on") (70 * second) 60 = true ∧
      timeElapsedHolds (changedAt (TimedHouse.start house.bridge).cache "switch_hall" "on")
        (71 * second) 60 = false := by
    decide
  refine ⟨evaluated, fun always => ?_⟩
  have after := always.last.elapsed "switch_hall" "on" (70 * second) 60 evaluated.1
  rw [show 70 * second + second = 71 * second by decide] at after
  exact Bool.false_ne_true (evaluated.2.symm.trans after)

end HomeCore.Engine
