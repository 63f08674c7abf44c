import HomeCore.Devices.Registration

/-! What messages about a removed device still do to the store. Its record stays
away, but a registration places the device in a room and stores the schema of
its type before and after the check, and a schema is stored without one. -/
namespace HomeCore

/-- The house has the reported room, and nothing to learn from its spelling. -/
def Rooms.Settled (store : AreaStore) (reported : String) : Prop :=
  slug reported = "" ∨ ∃ room, roomFor store.listAreas (slug reported) = some room ∧
    (room.namedBy = .guessed → room.slug = slug reported → spelling reported = none)

/-- The registration says of a device what its record says already. -/
structure Registration.Restates (reg : Registration) (pluginId : String) (area : Option String)
    (existing : DeviceState) : Prop where
  pluginId : existing.pluginId = pluginId
  area : ∀ slug ∈ area, existing.area = some slug
  deviceType : ∀ value ∈ reg.deviceType, existing.deviceType = some value
  manufacturer : ∀ value ∈ reg.manufacturer, existing.manufacturer = some value
  model : ∀ value ∈ reg.model, existing.model = some value
  swVersion : ∀ value ∈ reg.swVersion, existing.swVersion = some value
  parentDeviceId : ∀ value ∈ reg.parentDeviceId, existing.parentDeviceId = some value
  name : existing.name = reg.name
  named : existing.canonicalName ≠ none

/-- The report says what the record says already, down to when it was seen. -/
structure ReportRestates (now : DateTime) (payload : AttrMap) (isPartial : Bool)
    (change : DeviceChange) (existing : DeviceState) : Prop where
  attributes : ∀ key, existing.attributes[key]? = reportedValue existing.attributes payload isPartial key
  lastSeen : existing.lastSeen = now
  available : existing.available = true
  lastChange : existing.lastChange = some change
  name : ∀ name ∈ payload["name"]?.bind Json.asStr, existing.name = name
  named : existing.canonicalName ≠ none

namespace BridgeMessage
variable {Schema : Type} (env : BridgeEnv Schema) (now : DateTime) (home : HomeStore Schema)

/-- The device a message is about. -/
def about : BridgeMessage Schema → Option String
  | .registration _ json => (json.get "device_id").bind Json.asStr
  | .unregistration _ json => (json.get "device_id").bind Json.asStr
  | .schema deviceId _ => some deviceId
  | .state deviceId _ _ => some deviceId
  | .availability deviceId _ => some deviceId

/-- A plugin's word about a device, as opposed to its taking the device away. -/
def isReport : BridgeMessage Schema → Bool
  | .unregistration _ _ => false
  | _ => true

/-- The message has nothing to tell the store about a removed device: it names no
room to make or respell and no schema to keep, and says nothing new of a record
that is still there. -/
def NothingNew : BridgeMessage Schema → Prop
  | .registration pluginId json => ∀ reg, readRegistration json = .ok reg →
      (∀ raw ∈ reg.area, Rooms.Settled home.areas raw) ∧
      (∀ existing ∈ home.devices.getDevice reg.deviceId,
        reg.Restates pluginId (reg.area.bind fun raw =>
          (Rooms.roomFor home.areas.listAreas (Rooms.slug raw)).map (·.slug)) existing) ∧
      ∀ schema ∈ reg.typedSchema env.deviceTypes, home.schemas[reg.deviceId]? = some schema
  | .unregistration _ _ => True
  | .schema deviceId parsed => ∀ schema ∈ parsed, home.schemas[deviceId]? = some schema
  | .state deviceId incoming isPartial => ∀ payload ∈ incoming.asObject,
      ∀ existing ∈ home.devices.getDevice deviceId,
        ReportRestates now payload isPartial
          (resolveStateChange env.readers now env.pendingCommandChanges[deviceId]? incoming) existing
  | .availability deviceId available => ∀ existing ∈ home.devices.getDevice deviceId,
      existing.available = available ∧ existing.lastSeen = now ∧ existing.canonicalName ≠ none

end BridgeMessage

/-! ## Writes that change nothing -/

theorem upsert_eq_self {store : DeviceStore} {device : DeviceState} :
    store.upsert device = store ↔ store.getDevice device.deviceId = some device := by
  constructor
  · intro same
    rw [← same, getDevice_upsert, if_pos rfl]
  · intro found
    have devicesEq : (store.upsert device).devices = store.devices := by
      apply Std.ExtTreeMap.ext_getElem?
      intro key
      have lookup := getDevice_upsert store device key
      simp only [DeviceStore.getDevice] at lookup found
      rw [lookup]
      split
      · rename_i same
        rw [← same, found]
      · rfl
    cases store
    simpa [DeviceStore.upsert] using devicesEq

theorem insert_eq_self {α : Type} {entries : Std.ExtTreeMap String α} {key : String} {value : α} :
    entries.insert key value = entries ↔ entries[key]? = some value := by
  constructor
  · intro same
    rw [← same, Std.ExtTreeMap.getElem?_insert_self]
  · intro found
    apply Std.ExtTreeMap.ext_getElem?
    intro other
    rw [Std.ExtTreeMap.getElem?_insert]
    split
    · rename_i same
      rw [← Std.LawfulEqCmp.eq_of_compare same, found]
    · rfl

theorem or_eq_right {value stored : Option String} :
    value.or stored = stored ↔ ∀ said ∈ value, stored = some said := by
  cases value <;> simp [eq_comm]

/-! ## Rooms -/

theorem mem_listAreas {store : AreaStore} {room : Area} :
    room ∈ store.listAreas ↔ store.areas[room.id.text]? = some room := by
  simp only [AreaStore.listAreas, List.mem_map]
  constructor
  · rintro ⟨⟨key, found⟩, member, rfl⟩
    rw [Std.ExtTreeMap.mem_toList_iff_getElem?_eq_some] at member
    rwa [store.keyed key found member]
  · intro found
    exact ⟨(room.id.text, room), Std.ExtTreeMap.mem_toList_iff_getElem?_eq_some.mpr found, rfl⟩

theorem mem_of_upsert_eq_self {store : AreaStore} {room : Area} (same : store.upsert room = store) :
    room ∈ store.listAreas := by
  rw [mem_listAreas, ← same]
  exact Std.ExtTreeMap.getElem?_insert_self

theorem answersTo_slug {room : Area} (isSlug : room.slug ≠ "") : room.answersTo room.slug = true := by
  simp [Area.answersTo, isSlug]

/-- Placing a device leaves the rooms as they are exactly where the reported room
is settled. -/
theorem placeReported_unchanged (legacyId : String → Uuid) (random : Uuid) (store : AreaStore)
    (reported : String) :
    (Rooms.placeReported legacyId random store reported).1 = store ↔ Rooms.Settled store reported := by
  simp only [Rooms.placeReported, Rooms.Settled]
  by_cases blank : Rooms.slug reported = ""
  · simp [blank]
  · simp only [blank, if_false, false_or]
    cases found : Rooms.roomFor store.listAreas (Rooms.slug reported) with
    | none =>
      -- the new room answers to a slug that no room of the table answers to
      simp only [reduceCtorEq, false_and, exists_false, iff_false]
      intro same
      have member := mem_of_upsert_eq_self same
      have unanswered := List.find?_eq_none.mp found _ member
      exact unanswered (answersTo_slug blank)
    | some room =>
      have member := List.mem_of_find?_eq_some found
      by_cases respelled : room.namedBy = .guessed ∧ room.slug = Rooms.slug reported
      · cases spelled : Rooms.spelling reported with
        | none => simp
        | some name =>
          simp only [respelled, beq_self_eq_true, Bool.and_self, Option.filter_some, if_true,
            Option.some.injEq, exists_eq_left', forall_const, reduceCtorEq, iff_false]
          intro same
          have now := mem_listAreas.mp (mem_of_upsert_eq_self same)
          have before := mem_listAreas.mp member
          rw [before] at now
          have namedBy := congrArg Area.namedBy (Option.some.inj now)
          rw [respelled.1] at namedBy
          cases namedBy
      · have kept : (room.namedBy == RoomNamedBy.guessed && room.slug == Rooms.slug reported) = false := by
          rw [Bool.eq_false_iff]
          simpa using respelled
        have unfiltered : ((Rooms.spelling reported).filter fun _ => false) = none := by
          cases Rooms.spelling reported <;> rfl
        simp only [kept, unfiltered, Option.some.injEq, exists_eq_left', true_iff]
        intro guessed sameSlug
        exact absurd ⟨guessed, sameSlug⟩ respelled

theorem placeReported_slug {store : AreaStore} {reported : String}
    (settled : Rooms.Settled store reported) (legacyId : String → Uuid) (random : Uuid) :
    (Rooms.placeReported legacyId random store reported).2.1 =
      (Rooms.roomFor store.listAreas (Rooms.slug reported)).map (·.slug) := by
  simp only [Rooms.placeReported]
  rcases settled with blank | ⟨room, found, settledName⟩
  · have unanswered : Rooms.roomFor store.listAreas "" = none :=
      List.find?_eq_none.mpr fun room _ => by simp [Area.answersTo]
    simp [blank, unanswered]
  · by_cases blank : Rooms.slug reported = ""
    · rw [blank] at found
      obtain ⟨answers⟩ := List.find?_some found
    · simp only [blank, if_false, found, Option.map_some]
      split <;> rfl

/-! ## Records -/

theorem withCanonicalName_eq_self {devices : List DeviceState} {device existing : DeviceState}
    (sameName : device.canonicalName = existing.canonicalName) :
    withCanonicalName devices device = existing ↔
      device = existing ∧ existing.canonicalName ≠ none := by
  unfold withCanonicalName
  cases named : existing.canonicalName with
  | none =>
    rw [named] at sameName
    simp only [sameName, Option.isNone_none, if_true, ne_eq, not_true, and_false, iff_false]
    intro same
    rw [← same] at named
    cases named
  | some name =>
    rw [named] at sameName
    simp [sameName]

theorem update_eq_self {reg : Registration} {pluginId : String} {area : Option String}
    {existing : DeviceState} {devices : List DeviceState} :
    withCanonicalName devices (reg.update pluginId area existing) = existing ↔
      reg.Restates pluginId area existing := by
  have sameName : (reg.update pluginId area existing).canonicalName = existing.canonicalName := rfl
  rw [withCanonicalName_eq_self sameName]
  constructor
  · rintro ⟨same, named⟩
    have field : ∀ {α : Type} (f : DeviceState → α), f (reg.update pluginId area existing) = f existing :=
      fun f => congrArg f same
    exact ⟨(field DeviceState.pluginId).symm, or_eq_right.mp (field DeviceState.area),
      or_eq_right.mp (field DeviceState.deviceType), or_eq_right.mp (field DeviceState.manufacturer),
      or_eq_right.mp (field DeviceState.model), or_eq_right.mp (field DeviceState.swVersion),
      or_eq_right.mp (field DeviceState.parentDeviceId), (field DeviceState.name).symm, named⟩
  · intro restated
    refine ⟨?_, restated.named⟩
    simp only [Registration.update, or_eq_right.mpr restated.area, or_eq_right.mpr restated.deviceType,
      or_eq_right.mpr restated.manufacturer, or_eq_right.mpr restated.model,
      or_eq_right.mpr restated.swVersion, or_eq_right.mpr restated.parentDeviceId,
      ← restated.pluginId, ← restated.name]

theorem update_deviceId (reg : Registration) (pluginId : String) (area : Option String)
    (existing : DeviceState) (devices : List DeviceState) :
    (withCanonicalName devices (reg.update pluginId area existing)).deviceId = existing.deviceId :=
  (withCanonicalName_kept devices _).1

theorem getElem?_stripProvenance_name (payload : AttrMap) :
    (stripProvenance payload)["name"]? = payload["name"]? := by
  rw [getElem?_stripProvenance]
  simp [isProvenance, provenanceKeys]

theorem reportedDevice_eq_self {now : DateTime} {existing : DeviceState} {payload : AttrMap}
    {isPartial : Bool} {change : DeviceChange} {devices : List DeviceState} :
    withCanonicalName devices (reportedDevice now existing payload isPartial change) = existing ↔
      ReportRestates now payload isPartial change existing := by
  have sameName : (reportedDevice now existing payload isPartial change).canonicalName =
      existing.canonicalName := rfl
  rw [withCanonicalName_eq_self sameName]
  constructor
  · rintro ⟨same, named⟩
    have field : ∀ {α : Type} (f : DeviceState → α),
        f existing = f (reportedDevice now existing payload isPartial change) :=
      fun f => congrArg f same.symm
    refine ⟨?_, field _, field _, field _, ?_, named⟩
    · intro key
      rw [← getElem?_reported]
      exact congrArg (·[key]?) (field DeviceState.attributes)
    · intro name said
      have nameEq := field DeviceState.name
      simp only [reportedDevice, getElem?_stripProvenance_name] at nameEq
      rw [nameEq, Option.mem_def.mp said, Option.getD_some]
  · intro restated
    have attributesEq : reportedAttributes existing.attributes payload isPartial = existing.attributes := by
      apply Std.ExtTreeMap.ext_getElem?
      intro key
      rw [getElem?_reported, ← restated.attributes]
    have nameEq : (payload["name"]?.bind Json.asStr).getD existing.name = existing.name := by
      cases said : payload["name"]?.bind Json.asStr with
      | none => rfl
      | some name => exact (restated.name name said).symm
    refine ⟨?_, restated.named⟩
    simp only [reportedDevice, attributesEq, changedKeys_eq_nil.mpr rfl, stampChanged, List.isEmpty_nil,
      if_true, getElem?_stripProvenance_name, nameEq, ← restated.lastSeen, ← restated.available,
      ← restated.lastChange]

/-- A record written back under its own id. -/
theorem upsert_existing {store : DeviceStore} {deviceId : String} {existing device : DeviceState}
    (found : store.getDevice deviceId = some existing) (sameId : device.deviceId = existing.deviceId) :
    store.upsert device = store ↔ device = existing := by
  rw [upsert_eq_self, sameId, store.keyed deviceId existing found, found, Option.some_inj, eq_comm]

section Messages
variable {Schema : Type} (env : BridgeEnv Schema) (now : DateTime) (random : Uuid)
  (home : HomeStore Schema)

theorem readRegistration_deviceId {json : Json} {reg : Registration}
    (isRead : readRegistration json = .ok reg) :
    (json.get "device_id").bind Json.asStr = some reg.deviceId := by
  unfold readRegistration at isRead
  cases deviceId : (json.get "device_id").bind Json.asStr with
  | none => simp [deviceId, bind, Except.bind] at isRead
  | some id =>
    cases name : (json.get "name").bind Json.asStr with
    | none => simp [deviceId, name, bind, Except.bind] at isRead
    | some text =>
      simp only [deviceId, name, bind, Except.bind, Option.elim_some, pure, Except.pure,
        Except.ok.injEq] at isRead
      rw [← isRead]

/-- The store after a registration that can be read. -/
theorem registration_store {json : Json} {reg : Registration} (pluginId : String)
    (isRead : readRegistration json = .ok reg) :
    home.handle env now random (.registration pluginId json) =
      { devices := (reg.record pluginId (reg.place env.legacyId random home.areas).2.1 now
          home.devices).elim home.devices home.devices.upsert
        areas := (reg.place env.legacyId random home.areas).1
        schemas := (reg.typedSchema env.deviceTypes).elim home.schemas
          (home.schemas.insert reg.deviceId)
        history := home.history } := by
  simp only [HomeStore.handle, HomeStore.handleDeviceRegistration, isRead]
  cases reg.record pluginId (reg.place env.legacyId random home.areas).2.1 now home.devices <;>
    cases reg.typedSchema env.deviceTypes <;> rfl

/-- The rooms stay as they are where the reported one is settled. -/
theorem place_unchanged {reg : Registration} {areas : AreaStore} (legacyId : String → Uuid)
    (random : Uuid) :
    (reg.place legacyId random areas).1 = areas ↔ ∀ raw ∈ reg.area, Rooms.Settled areas raw := by
  cases reported : reg.area with
  | none => simp [Registration.place, reported]
  | some raw => simp [Registration.place, reported, placeReported_unchanged]

theorem place_settled {reg : Registration} {areas : AreaStore}
    (settled : ∀ raw ∈ reg.area, Rooms.Settled areas raw) (legacyId : String → Uuid) (random : Uuid) :
    (reg.place legacyId random areas).2.1 = reg.area.bind fun raw =>
      (Rooms.roomFor areas.listAreas (Rooms.slug raw)).map (·.slug) := by
  cases reported : reg.area with
  | none => simp [Registration.place, reported]
  | some raw =>
    simp only [Registration.place, reported, Option.bind_some]
    exact placeReported_slug (settled raw reported) legacyId random

theorem record_unchanged {reg : Registration} {store : DeviceStore} (now : DateTime)
    (pluginId : String) (area : Option String) (forgotten : store.isForgotten reg.deviceId = true) :
    (reg.record pluginId area now store).elim store store.upsert = store ↔
      ∀ existing ∈ store.getDevice reg.deviceId, reg.Restates pluginId area existing := by
  cases found : store.getDevice reg.deviceId with
  | none => simp [Registration.record, found, forgotten]
  | some existing =>
    simp only [Registration.record, found, Option.elim_some, Option.mem_some_iff, forall_eq']
    rw [upsert_existing found (update_deviceId reg pluginId _ existing _), update_eq_self]

theorem registration_unchanged (pluginId : String) {json : Json} {deviceId : String}
    (isAbout : (json.get "device_id").bind Json.asStr = some deviceId)
    (forgotten : home.devices.isForgotten deviceId = true) :
    home.handle env now random (.registration pluginId json) = home ↔
      BridgeMessage.NothingNew env now home (.registration pluginId json) := by
  cases isRead : readRegistration json with
  | error missing =>
    simp [BridgeMessage.NothingNew, HomeStore.handle, HomeStore.handleDeviceRegistration, isRead]
  | ok reg =>
    have idEq := (readRegistration_deviceId isRead).symm.trans isAbout
    obtain rfl := Option.some.inj idEq
    simp only [BridgeMessage.NothingNew, isRead, Except.ok.injEq, forall_eq']
    rw [registration_store env now random home pluginId isRead]
    have schemasSame : (reg.typedSchema env.deviceTypes).elim home.schemas
        (home.schemas.insert reg.deviceId) = home.schemas ↔
          ∀ schema ∈ reg.typedSchema env.deviceTypes, home.schemas[reg.deviceId]? = some schema := by
      cases reg.typedSchema env.deviceTypes with
      | none => simp
      | some schema => simp [insert_eq_self]
    have devicesSame : (∀ raw ∈ reg.area, Rooms.Settled home.areas raw) →
        ((reg.record pluginId (reg.place env.legacyId random home.areas).2.1 now
          home.devices).elim home.devices home.devices.upsert = home.devices ↔
        ∀ existing ∈ home.devices.getDevice reg.deviceId,
          reg.Restates pluginId (reg.area.bind fun raw =>
            (Rooms.roomFor home.areas.listAreas (Rooms.slug raw)).map (·.slug)) existing) := by
      intro settled
      rw [place_settled settled]
      exact record_unchanged now pluginId _ forgotten
    obtain ⟨devices, areas, schemas, history⟩ := home
    simp only [HomeStore.mk.injEq, and_true]
    rw [place_unchanged, schemasSame]
    tauto

theorem schema_unchanged (deviceId : String) (parsed : Option Schema) :
    home.handle env now random (.schema deviceId parsed) = home ↔
      BridgeMessage.NothingNew env now home (.schema deviceId parsed) := by
  cases parsed with
  | none => simp [HomeStore.handle, HomeStore.handleDeviceSchema, BridgeMessage.NothingNew]
  | some schema =>
    obtain ⟨devices, areas, schemas, history⟩ := home
    simp [HomeStore.handle, HomeStore.handleDeviceSchema, HomeStore.putSchema,
      BridgeMessage.NothingNew, insert_eq_self]

theorem availability_unchanged {deviceId : String} (available : Bool)
    (forgotten : home.devices.isForgotten deviceId = true) :
    home.handle env now random (.availability deviceId available) = home ↔
      BridgeMessage.NothingNew env now home (.availability deviceId available) := by
  simp only [HomeStore.handle, HomeStore.handleAvailability, BridgeMessage.NothingNew, forgotten]
  cases found : home.devices.getDevice deviceId with
  | none => simp
  | some existing =>
    let told : DeviceState := { existing with available := available, lastSeen := now }
    have sameId : (withCanonicalName home.devices.listDevices told).deviceId = existing.deviceId :=
      (withCanonicalName_kept home.devices.listDevices told).1
    have toldName : told.canonicalName = existing.canonicalName := rfl
    have toldSame : told = existing ↔ existing.available = available ∧ existing.lastSeen = now := by
      constructor
      · intro same
        exact ⟨congrArg DeviceState.available same.symm, congrArg DeviceState.lastSeen same.symm⟩
      · rintro ⟨rfl, rfl⟩
        rfl
    have written := upsert_existing found sameId
    rw [withCanonicalName_eq_self toldName, toldSame, and_assoc] at written
    obtain ⟨devices, areas, schemas, history⟩ := home
    simpa [told] using written

theorem historyEntries_same (deviceId : String) (attributes : AttrMap) :
    HomeStore.historyEntries now deviceId attributes attributes = [] := by
  simp only [HomeStore.historyEntries, List.map_eq_nil_iff, List.filter_eq_nil_iff]
  intro entry member
  rw [Std.ExtTreeMap.mem_toList_iff_getElem?_eq_some] at member
  simp [member]

/-- History follows the record, so only the record has to be looked at. -/
theorem state_unchanged_iff_record {deviceId : String} (incoming : Json) (isPartial : Bool) :
    home.handle env now random (.state deviceId incoming isPartial) = home ↔
      ((⟨home.devices, env.pendingCommandChanges⟩ : StateBridge).handleState env.readers now none
        deviceId incoming isPartial).1.store = home.devices := by
  let bridge : StateBridge := ⟨home.devices, env.pendingCommandChanges⟩
  let after := (bridge.handleState env.readers now none deviceId incoming isPartial).1
  constructor
  · intro same
    exact congrArg HomeStore.devices same
  · intro same
    have storedSame : after.stored deviceId = bridge.stored deviceId := by
      simp only [StateBridge.stored, after, bridge, same]
    obtain ⟨devices, areas, schemas, history⟩ := home
    simp only [HomeStore.handle, HomeStore.handleState, HomeStore.mk.injEq, true_and]
    refine ⟨same, ?_⟩
    change history ++ HomeStore.historyEntries now deviceId (bridge.stored deviceId)
      (after.stored deviceId) = history
    rw [storedSame, historyEntries_same, List.append_nil]

theorem state_unchanged {deviceId : String} (incoming : Json) (isPartial : Bool)
    (forgotten : home.devices.isForgotten deviceId = true) :
    home.handle env now random (.state deviceId incoming isPartial) = home ↔
      BridgeMessage.NothingNew env now home (.state deviceId incoming isPartial) := by
  let bridge : StateBridge := ⟨home.devices, env.pendingCommandChanges⟩
  rw [state_unchanged_iff_record]
  simp only [BridgeMessage.NothingNew]
  cases isObject : incoming.asObject with
  | none =>
    have ignored := handleState_ignored env.readers now none bridge deviceId incoming isPartial
      (.inl isObject)
    simpa using ignored.1
  | some payload =>
    cases found : home.devices.getDevice deviceId with
    | none =>
      have unhandled : ¬ Handled bridge.store none deviceId := by
        simp [Handled, bridge, found, forgotten]
      have ignored := handleState_ignored env.readers now none bridge deviceId incoming isPartial
        (.inr unhandled)
      simpa using ignored.1
    | some existing =>
      have handled : Handled bridge.store none deviceId := by
        simp [Handled, bridge, found]
      have written := handleState_store env.readers now none bridge deviceId incoming isPartial
        isObject handled
      have starts : recordBefore now deviceId bridge.store = existing := by
        simp [recordBefore, bridge, found]
      rw [starts] at written
      have sameId := (withCanonicalName_kept bridge.store.listDevices (reportedDevice now existing payload
        isPartial (resolveStateChange env.readers now env.pendingCommandChanges[deviceId]? incoming))).1
      have unchanged := upsert_existing found sameId
      rw [reportedDevice_eq_self] at unchanged
      simp only [Option.mem_some_iff, forall_eq']
      rw [← unchanged]
      exact iff_of_eq (congrArg (· = home.devices) written)

/-- A message about a removed device leaves the whole store as it was if and only
if it has nothing new to tell it. -/
theorem forgotten_unchanged_iff (message : BridgeMessage Schema) (deviceId : String)
    (isReport : message.isReport = true) (isAbout : message.about = some deviceId)
    (forgotten : home.devices.isForgotten deviceId = true) :
    home.handle env now random message = home ↔ message.NothingNew env now home := by
  cases message with
  | registration pluginId json =>
    exact registration_unchanged env now random home pluginId isAbout forgotten
  | unregistration pluginId json => cases isReport
  | schema id parsed => exact schema_unchanged env now random home id parsed
  | state id incoming isPartial =>
    cases isAbout
    exact state_unchanged env now random home incoming isPartial forgotten
  | availability id available =>
    cases isAbout
    exact availability_unchanged env now random home available forgotten

end Messages

/-- A house with one bulb, which someone removed. -/
def removedBulb : HomeStore String where
  devices := ⟨∅, ["hue_bulb"], DeviceStore.none_keyed⟩
  areas := ⟨∅, AreaStore.none_keyed⟩
  schemas := ∅
  history := []

def lightTypes : BridgeEnv String where
  readers := ⟨fun _ _ => none, fun _ => none⟩
  legacyId := fun _ => ⟨5⟩
  deviceTypes := some fun deviceType => if deviceType = "light" then some "on/off" else none
  pendingCommandChanges := ∅

/-- Its plugin registers it again: the house has a room it did not have, and the
schema of a device it does not have. -/
theorem removed_bulb_makes_room :
    let registration := BridgeMessage.registration "hue" (.obj [("device_id", .str "hue_bulb"),
      ("name", .str "Bulb"), ("area", .str "Guest Room"), ("device_type", .str "light")])
    let home := removedBulb.handle lightTypes 0 ⟨1⟩ registration
    (registration.about = some "hue_bulb" ∧ removedBulb.devices.isForgotten "hue_bulb" = true) ∧
    (home.areas.listAreas.map (·.name) = ["Guest Room"] ∧ home.schemas["hue_bulb"]? = some "on/off") ∧
    home ≠ removedBulb := by
  intro registration home
  have kept : home.areas.listAreas.map (·.name) = ["Guest Room"] ∧
      home.schemas["hue_bulb"]? = some "on/off" := by
    decide
  refine ⟨by decide, kept, ?_⟩
  intro same
  rw [same] at kept
  exact absurd kept.2 (by decide)

/-- Without a room and a type, the registration is ignored. -/
theorem removed_bulb_ignored :
    removedBulb.handle lightTypes 0 ⟨1⟩ (.registration "hue"
      (.obj [("device_id", .str "hue_bulb"), ("name", .str "Bulb")])) = removedBulb := by
  refine (forgotten_unchanged_iff lightTypes 0 ⟨1⟩ removedBulb _ "hue_bulb" rfl ?_ rfl).mpr ?_
  · decide
  · intro reg isRead
    have bare : (readRegistration (.obj [("device_id", .str "hue_bulb"), ("name", .str "Bulb")])).toOption.all
        (fun reg => reg.area.isNone && reg.deviceType.isNone) = true := by
      decide
    rw [isRead] at bare
    simp only [Except.toOption, Option.all_some, Bool.and_eq_true, Option.isNone_iff_eq_none] at bare
    refine ⟨?_, ?_, ?_⟩
    · simp [bare.1]
    · simp [removedBulb, DeviceStore.getDevice]
    · simp [Registration.typedSchema, bare.2]

end HomeCore
