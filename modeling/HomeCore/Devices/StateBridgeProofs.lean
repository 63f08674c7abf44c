import HomeCore.Devices.StateBridge
import HomeCore.Maps
import HomeCore.Outcome

/-! What one state report does: the map it stores, the names it calls changed,
and the record it writes. -/
namespace HomeCore

theorem getElem?_applyPartialMergePatch (target patch : AttrMap) (key : String) :
    (applyPartialMergePatch target patch)[key]? =
      (patch[key]?.map fun value => if value = .null then none else some value).getD target[key]? := by
  unfold applyPartialMergePatch
  refine Maps.getElem?_foldl ?_ patch target key
  intro target k value key
  by_cases isNull : value = .null
  · simp [isNull, Std.ExtTreeMap.getElem?_erase]
  · simp [isNull, Std.ExtTreeMap.getElem?_insert]

theorem getElem?_reportedAttributes (stored payload : AttrMap) (isPartial : Bool) (key : String) :
    (reportedAttributes stored payload isPartial)[key]? =
      if key ∈ provenanceKeys then none
      else (if isPartial then applyPartialMergePatch stored (stripProvenance payload)
        else stripProvenance payload)[key]? := by
  simp only [reportedAttributes, provenanceKeys, List.foldl_cons, List.foldl_nil,
    Std.ExtTreeMap.getElem?_erase, Std.compare_eq_iff_eq, List.mem_cons, List.not_mem_nil, or_false]
  grind

theorem stripProvenance_of_mem {payload : AttrMap} {key : String} (member : key ∈ provenanceKeys) :
    (stripProvenance payload)[key]? = none := by
  simp only [provenanceKeys, List.mem_cons, List.not_mem_nil, or_false] at member
  unfold stripProvenance
  split
  all_goals
    simp only [Std.ExtTreeMap.getElem?_erase, Std.compare_eq_iff_eq]
    grind

theorem mem_reportedAttributes {stored payload : AttrMap} {isPartial : Bool} {key : String}
    (member : key ∈ stored) :
    key ∈ reportedAttributes stored payload isPartial ↔
      key ∉ provenanceKeys ∧
        if isPartial then (stripProvenance payload)[key]? ≠ some .null
        else key ∈ stripProvenance payload := by
  rw [Std.ExtTreeMap.mem_iff_isSome_getElem?, getElem?_reportedAttributes]
  rw [Std.ExtTreeMap.mem_iff_isSome_getElem?] at member
  by_cases provenance : key ∈ provenanceKeys
  · simp [provenance]
  · cases isPartial with
    | false => simp [provenance]
    | true =>
      simp only [provenance, if_false, if_true, getElem?_applyPartialMergePatch]
      cases found : (stripProvenance payload)[key]? with
      | none => simpa using member
      | some value => by_cases isNull : value = .null <;> simp [isNull]

theorem reportedAttributes_ne_empty {payload : AttrMap} {isPartial : Bool} :
    reportedAttributes ∅ payload isPartial ≠ ∅ ↔
      ∃ (key : String) (value : Json), (stripProvenance payload)[key]? = some value ∧
        (isPartial = true → value ≠ .null) := by
  have lookup : ∀ key : String, (reportedAttributes ∅ payload isPartial)[key]? =
      (stripProvenance payload)[key]?.filter fun value => !isPartial || value != Json.null := by
    intro key
    rw [getElem?_reportedAttributes]
    by_cases provenance : key ∈ provenanceKeys
    · simp [provenance, stripProvenance_of_mem provenance]
    · cases isPartial with
      | false =>
        simp only [provenance, if_false, Bool.false_eq_true]
        cases (stripProvenance payload)[key]? <;> simp [Option.filter]
      | true =>
        simp only [provenance, if_false, if_true, getElem?_applyPartialMergePatch]
        cases (stripProvenance payload)[key]? with
        | none => simp
        | some value => by_cases isNull : value = .null <;> simp [isNull, Option.filter]
  have empty : reportedAttributes ∅ payload isPartial = ∅ ↔
      ∀ key : String, (reportedAttributes ∅ payload isPartial)[key]? = none := by
    constructor
    · intro same key
      simp [same]
    · intro none
      exact Std.ExtTreeMap.ext_getElem? fun key => by simp [none key]
  rw [ne_eq, empty]
  simp only [lookup, Option.filter_eq_none_iff, not_forall, exists_prop]
  cases isPartial with
  | false => simp
  | true => simp

theorem changedKeys_eq_nil {previous current : AttrMap} :
    changedKeys previous current = [] ↔ previous = current := by
  simp only [changedKeys, List.append_eq_nil_iff, List.filter_eq_nil_iff,
    Std.ExtTreeMap.mem_keys, bne_iff_ne, ne_eq, not_not]
  constructor
  · rintro ⟨updated, removed⟩
    apply Std.ExtTreeMap.ext_getElem?
    intro key
    by_cases isCurrent : key ∈ current
    · exact updated key isCurrent
    · by_cases wasPrevious : key ∈ previous
      · have := removed key wasPrevious
        simp_all
      · simp [wasPrevious, isCurrent]
  · rintro rfl
    simp

theorem DeviceStore.mem_listDevices {store : DeviceStore} {device : DeviceState} :
    device ∈ store.listDevices ↔ store.getDevice device.deviceId = some device := by
  simp only [DeviceStore.listDevices, DeviceStore.getDevice, List.mem_map]
  constructor
  · rintro ⟨entry, member, rfl⟩
    have found := Std.ExtTreeMap.mem_toList_iff_getElem?_eq_some.mp member
    rw [store.keyed _ _ found]
    exact found
  · intro found
    exact ⟨(device.deviceId, device), Std.ExtTreeMap.mem_toList_iff_getElem?_eq_some.mpr found, rfl⟩

theorem DeviceStore.find?_listDevices (store : DeviceStore) (id : String) :
    store.listDevices.find? (·.deviceId == id) = store.getDevice id := by
  cases found : store.listDevices.find? (·.deviceId == id) with
  | some device =>
    have same : device.deviceId = id := by simpa using List.find?_some found
    have stored := DeviceStore.mem_listDevices.mp (List.mem_of_find?_eq_some found)
    rw [← stored, same]
  | none =>
    cases stored : store.getDevice id with
    | none => rfl
    | some device =>
      have same := store.keyed id device stored
      have listed : device ∈ store.listDevices := DeviceStore.mem_listDevices.mpr (same ▸ stored)
      exact absurd (beq_iff_eq.mpr same) (List.find?_eq_none.mp found device listed)

theorem getDevice_upsert (store : DeviceStore) (device : DeviceState) (deviceId : String) :
    (store.upsert device).getDevice deviceId =
      if device.deviceId = deviceId then some device else store.getDevice deviceId := by
  simp only [DeviceStore.getDevice, DeviceStore.upsert, Std.ExtTreeMap.getElem?_insert,
    Std.compare_eq_iff_eq]

/-! ## What one report does -/

section Report
variable (readers : ChangeReaders) (now : DateTime) (failing : Option StoreCall)
  (bridge : StateBridge) (deviceId : String) (incoming : Json) (isPartial : Bool)

theorem attempt_ok {call : StoreCall} {done : Unit} :
    attempt failing call = .ok done ↔ failing ≠ some call := by
  unfold attempt
  split <;> simp_all

theorem newDevice_canonicalName : (StateBridge.newDevice now deviceId).canonicalName = none := rfl

/-- The record a handled report starts from. -/
def recordBefore (store : DeviceStore) : DeviceState :=
  (store.getDevice deviceId).getD (StateBridge.newDevice now deviceId)

theorem handled_iff (store : DeviceStore) :
    Handled store failing deviceId ↔
      StateBridge.subject store now failing deviceId = .ok (some (recordBefore now deviceId store)) ∧
      StateBridge.persist failing (recordBefore now deviceId store) = .ok () := by
  obtain ⟨known, stored⟩ : ∃ known, store.getDevice deviceId = known := ⟨_, rfl⟩
  simp only [Handled, StateBridge.subject, StateBridge.persist, recordBefore, stored]
  cases known with
  | some device =>
    cases canonical : device.canonicalName <;>
      simp only [canonical, Outcome.bind_ok, attempt_ok, Outcome.pure_ok, Option.getD_some,
        Option.isNone_none, Option.isNone_some, if_true, Bool.false_eq_true, if_false] <;>
      simp
    all_goals tauto
  | none =>
    cases isForgotten : store.isForgotten deviceId <;>
      simp only [Outcome.bind_ok, attempt_ok, Outcome.pure_ok, Option.getD_none,
        newDevice_canonicalName, Option.isNone_none, if_true, Bool.false_eq_true, if_false] <;>
      simp
    all_goals tauto

theorem subject_eq {store : DeviceStore} {device : DeviceState}
    (found : StateBridge.subject store now failing deviceId = .ok (some device)) :
    device = recordBefore now deviceId store := by
  simp only [StateBridge.subject, Outcome.bind_ok] at found
  obtain ⟨_, _, found⟩ := found
  unfold recordBefore
  cases stored : store.getDevice deviceId with
  | some known => simpa [stored, pure, Except.pure, eq_comm] using found
  | none =>
    simp only [stored, Outcome.bind_ok] at found
    obtain ⟨_, _, found⟩ := found
    split at found <;> simp_all [pure, Except.pure]

/-- A report that is not handled writes nothing and publishes nothing. -/
theorem handleState_ignored
    (ignored : incoming.asObject = none ∨ ¬ Handled bridge.store failing deviceId) :
    (bridge.handleState readers now failing deviceId incoming isPartial).1.store = bridge.store ∧
      ∀ events, (bridge.handleState readers now failing deviceId incoming isPartial).2 = .ok events →
        events = [] := by
  unfold StateBridge.handleState
  cases isObject : incoming.asObject with
  | none => simp
  | some payload =>
    have unhandled := ignored.resolve_left (by simp [isObject])
    dsimp only
    cases found : StateBridge.subject bridge.store now failing deviceId with
    | error call => simp
    | ok known => cases known with
      | none => simp
      | some device =>
        obtain rfl := subject_eq now failing deviceId found
        dsimp only
        cases persisted : StateBridge.persist failing (recordBefore now deviceId bridge.store) with
        | error call => simp
        | ok _ =>
          have handled := (handled_iff now failing deviceId bridge.store).mpr ⟨found, persisted⟩
          exact absurd handled unhandled

theorem recordBefore_deviceId (store : DeviceStore) :
    (recordBefore now deviceId store).deviceId = deviceId := by
  unfold recordBefore
  cases stored : store.getDevice deviceId with
  | none => rfl
  | some device => exact store.keyed deviceId device stored

theorem recordBefore_attributes (store : DeviceStore) :
    (recordBefore now deviceId store).attributes =
      ((store.getDevice deviceId).map (·.attributes)).getD ∅ := by
  unfold recordBefore
  cases store.getDevice deviceId <;> rfl

/-- Settling the canonical name touches nothing else that a report moves. -/
theorem withCanonicalName_kept (devices : List DeviceState) (device : DeviceState) :
    (withCanonicalName devices device).deviceId = device.deviceId ∧
      (withCanonicalName devices device).attributes = device.attributes ∧
      (withCanonicalName devices device).attributesChangedAt = device.attributesChangedAt := by
  unfold withCanonicalName
  split <;> exact ⟨rfl, rfl, rfl⟩

theorem handleState_store {payload : AttrMap} (isObject : incoming.asObject = some payload)
    (handled : Handled bridge.store failing deviceId) :
    (bridge.handleState readers now failing deviceId incoming isPartial).1.store =
      bridge.store.upsert (withCanonicalName bridge.store.listDevices
        (reportedDevice now (recordBefore now deviceId bridge.store) payload isPartial
          (resolveStateChange readers now bridge.pendingCommandChanges[deviceId]? incoming))) := by
  obtain ⟨found, persisted⟩ := (handled_iff now failing deviceId bridge.store).mp handled
  simp only [StateBridge.handleState, isObject, found, persisted]

/-- A handled report writes the reported attributes under the device's id, with
the times of those that moved, and publishes its events. -/
theorem handleState_handled {payload : AttrMap} (isObject : incoming.asObject = some payload)
    (handled : Handled bridge.store failing deviceId) :
    ∃ after kind change, after.deviceId = deviceId ∧
      after.attributes = reportedAttributes (recordBefore now deviceId bridge.store).attributes payload
        isPartial ∧
      after.attributesChangedAt =
        stampChanged now
          (changedKeys (recordBefore now deviceId bridge.store).attributes after.attributes)
          after.attributes (recordBefore now deviceId bridge.store).attributesChangedAt ∧
      (bridge.handleState readers now failing deviceId incoming isPartial).1.store =
        bridge.store.upsert after ∧
      (bridge.handleState readers now failing deviceId incoming isPartial).2 =
        .ok (reportEvents now kind (recordBefore now deviceId bridge.store) after change) := by
  obtain ⟨found, persisted⟩ := (handled_iff now failing deviceId bridge.store).mp handled
  let change := resolveStateChange readers now bridge.pendingCommandChanges[deviceId]? incoming
  let reported :=
    reportedDevice now (recordBefore now deviceId bridge.store) payload isPartial change
  let after := withCanonicalName bridge.store.listDevices reported
  obtain ⟨idKept, attributesKept, stampsKept⟩ :=
    withCanonicalName_kept bridge.store.listDevices reported
  refine ⟨after, bridge.store.writeKind after, change, ?_, attributesKept, ?_, ?_, ?_⟩
  · exact idKept.trans (recordBefore_deviceId now deviceId bridge.store)
  · rw [attributesKept]
    exact stampsKept
  · exact handleState_store readers now failing bridge deviceId incoming isPartial isObject handled
  · simp only [StateBridge.handleState, isObject, found, persisted, after, reported, change]

end Report

end HomeCore
