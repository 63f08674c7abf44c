import HomeCore.Devices.Names
import HomeCore.Devices.RoomOperationsProofs

/-! The canonical names in the store stay in order, over any run of what gives them:
each belongs to one device, and is in form as long as there is something to make a
name of each time one is made. -/
namespace HomeCore

/-! ## Names in order -/

structure NamesInOrder (store : DeviceStore) : Prop where
  formed : ∀ device ∈ store.listDevices, ∀ name, device.canonicalName = some name → InForm name
  distinct : ∀ a ∈ store.listDevices, ∀ b ∈ store.listDevices, ∀ name,
    a.canonicalName = some name → b.canonicalName = some name → a.deviceId = b.deviceId

/-- No two devices have one name. -/
def CanonicalNamesApart (store : DeviceStore) : Prop :=
  ∀ a ∈ store.listDevices, ∀ b ∈ store.listDevices, ∀ name,
    a.canonicalName = some name → b.canonicalName = some name → a.deviceId = b.deviceId

/-- What a step keeps: the names are apart, and in form if each of them could be made. -/
structure NamesKept (can : Prop) (store : DeviceStore) : Prop where
  formed : can → ∀ device ∈ store.listDevices, ∀ name,
    device.canonicalName = some name → InForm name
  distinct : CanonicalNamesApart store

theorem CanonicalNamesApart.kept {store : DeviceStore} (apart : CanonicalNamesApart store) : NamesKept False store :=
  ⟨False.elim, apart⟩

theorem NamesInOrder.kept {store : DeviceStore} (inOrder : NamesInOrder store) :
    NamesKept True store :=
  ⟨fun _ => inOrder.formed, inOrder.distinct⟩

theorem NamesKept.inOrder {store : DeviceStore} (kept : NamesKept True store) : NamesInOrder store :=
  ⟨kept.formed trivial, kept.distinct⟩

/-- The name, if there is one, may be written to the store. -/
def Writable (can : Prop) (devices : List DeviceState) (device : DeviceState) : Prop :=
  ∀ name, device.canonicalName = some name →
    (can → InForm name) ∧ nameAvailable device devices name = true

section Writes
variable {can : Prop} {store : DeviceStore} {device : DeviceState} {devices : List DeviceState}

theorem DeviceStore.mem_upsert {other : DeviceState} :
    other ∈ (store.upsert device).listDevices ↔
      other = device ∨ other ∈ store.listDevices ∧ other.deviceId ≠ device.deviceId := by
  rw [DeviceStore.mem_listDevices, DeviceStore.mem_listDevices, getDevice_upsert]
  by_cases same : device.deviceId = other.deviceId
  · rw [if_pos same, Option.some_inj]
    constructor
    · exact fun isDevice => .inl isDevice.symm
    · rintro (isDevice | ⟨_, different⟩)
      · exact isDevice.symm
      · exact absurd same.symm different
  · rw [if_neg same]
    constructor
    · exact fun stored => .inr ⟨stored, fun equal => same equal.symm⟩
    · rintro (rfl | ⟨stored, _⟩)
      · exact absurd rfl same
      · exact stored

theorem NamesKept.upsert (inOrder : NamesKept can store)
    (writable : Writable can store.listDevices device) : NamesKept can (store.upsert device) where
  formed := by
    intro possible other listed name holds
    rcases DeviceStore.mem_upsert.mp listed with rfl | ⟨stored, _⟩
    · exact (writable name holds).1 possible
    · exact inOrder.formed possible other stored name holds
  distinct := by
    have alone (other : DeviceState) (stored : other ∈ store.listDevices) (name : String)
        (held : device.canonicalName = some name) (holds : other.canonicalName = some name) :
        other.deviceId = device.deviceId :=
      nameAvailable_iff.mp (writable name held).2 other stored holds
    intro a aListed b bListed name aHolds bHolds
    rcases DeviceStore.mem_upsert.mp aListed with rfl | ⟨aStored, _⟩ <;>
      rcases DeviceStore.mem_upsert.mp bListed with rfl | ⟨bStored, _⟩
    · rfl
    · exact (alone b bStored name aHolds bHolds).symm
    · exact alone a aStored name bHolds aHolds
    · exact inOrder.distinct a aStored b bStored name aHolds bHolds

theorem NamesKept.delete (inOrder : NamesKept can store) (deviceId : String) :
    NamesKept can (store.delete deviceId) := by
  have kept {other : DeviceState} (listed : other ∈ (store.delete deviceId).listDevices) :
      other ∈ store.listDevices := by
    rw [DeviceStore.mem_listDevices, DeviceStore.getDevice, DeviceStore.delete,
      Std.ExtTreeMap.getElem?_erase] at listed
    rw [DeviceStore.mem_listDevices, DeviceStore.getDevice]
    split at listed
    · cases listed
    · exact listed
  constructor
  · exact fun possible other listed => inOrder.formed possible other (kept listed)
  · exact fun a aListed b bListed => inOrder.distinct a (kept aListed) b (kept bListed)

/-- The name of the record in the store may be written again. -/
theorem NamesKept.writable_of_kept (inOrder : NamesKept can store) {existing : DeviceState}
    (stored : store.getDevice device.deviceId = some existing)
    (same : device.canonicalName = existing.canonicalName) : Writable can store.listDevices device := by
  intro name holds
  have keyed := store.keyed _ _ stored
  have listed : existing ∈ store.listDevices := by
    rw [DeviceStore.mem_listDevices, keyed, stored]
  rw [same] at holds
  refine ⟨fun can => inOrder.formed can existing listed name holds, nameAvailable_iff.mpr ?_⟩
  intro other otherListed otherHolds
  rw [← keyed]
  exact inOrder.distinct other otherListed existing listed name otherHolds holds

theorem writable_made (nameable : can → Nameable devices device) :
    Writable can devices { device with
      canonicalName := some (ensureUniqueCanonicalName device devices) } := by
  intro name holds
  cases holds
  exact ⟨fun can => ensureUniqueCanonicalName_inForm (nameable can),
    ensureUniqueCanonicalName_available device devices⟩

/-- A device without a name comes to have one; one with a name keeps it. -/
theorem writable_withCanonicalName
    (named : device.canonicalName.isSome = true → Writable can devices device)
    (nameable : can → device.canonicalName = none → Nameable devices device) :
    Writable can devices (withCanonicalName devices device) := by
  rw [withCanonicalName]
  cases canonical : device.canonicalName with
  | none => exact writable_made fun can => nameable can canonical
  | some name =>
    rw [canonical] at named
    exact named rfl

end Writes

/-! ## The names that are missing -/

/-- Each device without a name can be given one, beside those that the devices
before it have by then. -/
def BackfillNameable (named : List DeviceState) : List DeviceState → Prop
  | [] => True
  | device :: rest =>
    if device.canonicalName.isSome then BackfillNameable (named ++ [device]) rest
    else Nameable (named ++ device :: rest) device ∧
      BackfillNameable (named ++ [withCanonicalName (named ++ device :: rest) device]) rest

theorem nameAvailable_congr {a b : List DeviceState} (same : ∀ other, other ∈ a ↔ other ∈ b)
    {device : DeviceState} {candidate : String} :
    nameAvailable device a candidate = nameAvailable device b candidate := by
  rw [Bool.eq_iff_iff, nameAvailable_iff, nameAvailable_iff]
  exact forall_congr' fun other => imp_congr_left (same other)

theorem Writable.congr {can : Prop} {a b : List DeviceState} (same : ∀ other, other ∈ a ↔ other ∈ b)
    {device : DeviceState} (writable : Writable can a device) :
    Writable can b device := by
  intro name holds
  rw [← nameAvailable_congr same]
  exact writable name holds

/-- The devices that were named, and those still to come, are what the store holds. -/
theorem backfillFrom_inOrder {can : Prop} {rest : List DeviceState} :
    ∀ {named : List DeviceState} {store : DeviceStore},
      (∀ other, other ∈ store.listDevices ↔ other ∈ named ++ rest) →
      ((named ++ rest).map (·.deviceId)).Nodup → NamesKept can store →
      (can → BackfillNameable named rest) →
      NamesKept can (backfillFrom store named rest).1 := by
  induction rest with
  | nil => exact fun _ _ inOrder _ => inOrder
  | cons device rest ih =>
    intro named store members apart inOrder nameable
    rw [BackfillNameable] at nameable
    rw [backfillFrom]
    cases canonical : device.canonicalName with
    | some name =>
      rw [canonical, Option.isSome_some, if_pos rfl] at nameable
      rw [Option.isSome_some, if_pos rfl]
      refine ih ?_ ?_ inOrder nameable
      · simpa using members
      · simpa using apart
    | none =>
      rw [canonical, Option.isSome_none, if_neg Bool.false_ne_true] at nameable
      rw [Option.isSome_none, if_neg Bool.false_ne_true]
      generalize made : withCanonicalName (named ++ device :: rest) device = settled at nameable
      have sameId : settled.deviceId = device.deviceId := by
        rw [← made]
        exact (withCanonicalName_kept _ device).1
      have writable : Writable can store.listDevices settled := by
        refine Writable.congr (fun other => (members other).symm) ?_
        rw [← made]
        refine writable_withCanonicalName (fun held => ?_) fun possible _ => (nameable possible).1
        rw [canonical] at held
        cases held
      refine ih ?_ ?_ (inOrder.upsert writable) fun possible => (nameable possible).2
      · intro other
        have others : other ∈ named ∨ other ∈ rest → other.deviceId ≠ settled.deviceId := by
          intro listed same
          rw [List.map_append, List.map_cons, List.nodup_middle, List.nodup_cons] at apart
          refine apart.1 (List.mem_append.mpr ?_)
          rw [← sameId, ← same]
          exact listed.imp (List.mem_map_of_mem) (List.mem_map_of_mem)
        have own : other = device → other.deviceId = settled.deviceId := by
          rintro rfl
          exact sameId.symm
        rw [DeviceStore.mem_upsert, members]
        simp only [List.mem_append, List.mem_cons, List.not_mem_nil, or_false]
        tauto
      · simpa [sameId] using apart

/-! ## The records that are written -/

section Records
variable {Schema : Type} {can : Prop} (env : NamingEnv Schema) (home : HomeStore Schema)

/-- A device that was removed and is not there again. -/
def HomeStore.isGone (deviceId : String) : Bool :=
  (home.devices.getDevice deviceId).isNone && home.devices.isForgotten deviceId

/-- The record that a message writes, before its canonical name is settled. -/
def HomeStore.reported (now : DateTime) (random : Uuid) : BridgeMessage Schema → Option DeviceState
  | .registration pluginId json => match readRegistration json with
    | .error _ => none
    | .ok reg =>
      let area := (reg.place env.legacyId random home.areas).2.1
      if home.isGone reg.deviceId then none
      else some ((home.devices.getDevice reg.deviceId).elim (reg.create pluginId area now)
        (reg.update pluginId area))
  | .state deviceId incoming isPartial =>
    if home.isGone deviceId then none
    else incoming.asObject.map fun payload =>
      reportedDevice now (recordBefore now deviceId home.devices) payload isPartial
        (resolveStateChange env.readers now env.pendingCommandChanges[deviceId]? incoming)
  | .availability deviceId available =>
    if home.isGone deviceId then none
    else some { recordBefore now deviceId home.devices with available := available, lastSeen := now }
  | _ => none

theorem handle_devices (now : DateTime) (random : Uuid) (message : BridgeMessage Schema) :
    (∃ deviceId, (home.handle env.toBridgeEnv now random message).devices =
        home.devices.delete deviceId) ∨
      (home.handle env.toBridgeEnv now random message).devices =
        (home.reported env now random message).elim home.devices fun device =>
          home.devices.upsert (withCanonicalName home.devices.listDevices device) := by
  cases message with
  | registration pluginId json =>
    right
    cases isRead : readRegistration json with
    | error missing =>
      simp only [HomeStore.handle, HomeStore.handleDeviceRegistration, HomeStore.reported, isRead,
        Option.elim_none]
    | ok reg =>
      rw [registration_store env.toBridgeEnv now random home pluginId isRead]
      obtain ⟨known, stored⟩ : ∃ known, home.devices.getDevice reg.deviceId = known := ⟨_, rfl⟩
      simp only [HomeStore.reported, HomeStore.isGone, isRead, Registration.record, stored]
      cases known with
      | some existing => rfl
      | none => cases forgotten : home.devices.isForgotten reg.deviceId <;> rfl
  | unregistration pluginId json =>
    simp only [HomeStore.handle, HomeStore.handleDeviceUnregistration]
    split
    · exact .inr rfl
    · split
      · exact .inr rfl
      · exact .inl ⟨_, rfl⟩
  | schema deviceId parsed => cases parsed <;> exact .inr rfl
  | state deviceId incoming isPartial =>
    right
    let bridge : StateBridge := ⟨home.devices, env.pendingCommandChanges⟩
    simp only [HomeStore.handle, HomeStore.handleState, HomeStore.reported]
    cases isObject : incoming.asObject with
    | none =>
      have ignored := handleState_ignored env.readers now none bridge deviceId incoming isPartial
        (.inl isObject)
      rw [Option.map_none, ite_self]
      exact ignored.1
    | some payload =>
      split
      · rename_i gone
        obtain ⟨unknown, forgotten⟩ := Bool.and_eq_true_iff.mp gone
        have unhandled : ¬ Handled bridge.store none deviceId := by
          simp [Handled, bridge, Option.isNone_iff_eq_none.mp unknown, forgotten]
        have ignored := handleState_ignored env.readers now none bridge deviceId incoming isPartial
          (.inr unhandled)
        exact ignored.1
      · rename_i there
        have handled : Handled bridge.store none deviceId := by
          refine ⟨by rintro ⟨⟩, by rintro ⟨⟩, ?_⟩
          split
          · exact fun _ => by rintro ⟨⟩
          · rename_i unknown
            have unknown : home.devices.getDevice deviceId = none := unknown
            have remembered : home.devices.isForgotten deviceId = false := by
              simpa [HomeStore.isGone, unknown] using there
            exact ⟨by rintro ⟨⟩, by rintro ⟨⟩, remembered⟩
        exact handleState_store env.readers now none bridge deviceId incoming isPartial isObject handled
  | availability deviceId available =>
    right
    obtain ⟨known, stored⟩ : ∃ known, home.devices.getDevice deviceId = known := ⟨_, rfl⟩
    simp only [HomeStore.handle, HomeStore.handleAvailability, HomeStore.reported, HomeStore.isGone,
      recordBefore, stored]
    cases known with
    | some existing => rfl
    | none => cases forgotten : home.devices.isForgotten deviceId <;> rfl

/-- A record has no name yet, or the one it has in the store. -/
def KeepsName (store : DeviceStore) (device : DeviceState) : Prop :=
  device.canonicalName = none ∨ ∃ existing,
    store.getDevice device.deviceId = some existing ∧ device.canonicalName = existing.canonicalName

theorem NamesKept.writable {store : DeviceStore} {device : DeviceState} (inOrder : NamesKept can store)
    (keeps : KeepsName store device)
    (nameable : can → device.canonicalName = none → Nameable store.listDevices device) :
    Writable can store.listDevices (withCanonicalName store.listDevices device) := by
  refine writable_withCanonicalName (fun named => ?_) nameable
  rcases keeps with unnamed | ⟨existing, stored, same⟩
  · rw [unnamed] at named
    cases named
  · exact inOrder.writable_of_kept stored same

theorem recordBefore_keepsName (store : DeviceStore) (now : DateTime) (deviceId : String) :
    KeepsName store (recordBefore now deviceId store) := by
  rw [KeepsName, recordBefore_deviceId, recordBefore]
  cases stored : store.getDevice deviceId with
  | none => exact .inl rfl
  | some existing => exact .inr ⟨existing, rfl, rfl⟩

theorem reported_keepsName {now : DateTime} {random : Uuid} {message : BridgeMessage Schema}
    {device : DeviceState} (writes : home.reported env now random message = some device) :
    KeepsName home.devices device := by
  cases message with
  | registration pluginId json =>
    simp only [HomeStore.reported] at writes
    split at writes
    · cases writes
    · rename_i reg _
      split at writes
      · cases writes
      · cases stored : home.devices.getDevice reg.deviceId with
        | none =>
          rw [stored] at writes
          cases writes
          exact .inl rfl
        | some existing =>
          rw [stored] at writes
          cases writes
          have keyed := home.devices.keyed _ _ stored
          exact .inr ⟨existing, keyed ▸ stored, rfl⟩
  | state deviceId incoming isPartial =>
    simp only [HomeStore.reported] at writes
    split at writes
    · cases writes
    · obtain ⟨payload, _, rfl⟩ := Option.map_eq_some_iff.mp writes
      exact recordBefore_keepsName home.devices now deviceId
  | availability deviceId available =>
    simp only [HomeStore.reported] at writes
    split at writes
    · cases writes
    · cases writes
      exact recordBefore_keepsName home.devices now deviceId
  | unregistration | schema => cases writes

/-! ## Editing -/

/-- The label, the room and the name that a canonical name is made of. -/
def SameNaming (a b : DeviceState) : Prop :=
  a.deviceId = b.deviceId ∧ a.name = b.name ∧ a.area = b.area ∧ a.canonicalName = b.canonicalName

theorem SameNaming.nameable {a b : DeviceState} {devices : List DeviceState} (same : SameNaming a b)
    (nameable : Nameable devices a) : Nameable devices b := by
  obtain ⟨sameId, sameLabel, sameRoom, _⟩ := same
  simp only [Nameable, hasBase, canonicalNameBase, nameAvailable, sameId, sameLabel, sameRoom] at nameable
  exact nameable

theorem SameNaming.trans {a b c : DeviceState} (first : SameNaming a b) (second : SameNaming b c) :
    SameNaming a c := by
  obtain ⟨sameId, sameLabel, sameRoom, sameName⟩ := first
  rw [SameNaming, sameId, sameLabel, sameRoom, sameName]
  exact second

/-- Nothing, null or a text. -/
def isText (key : String) (body : Json) : Bool :=
  (body.get key).all fun value => value == .null || value.asStr.isSome

/-- The edit asks for a name of the server's choice. -/
def asksForName (body : Json) (device : DeviceState) : Bool :=
  match body.get "canonical_name" with
  | none => device.canonicalName.isNone
  | some value => value == .null

theorem setText_ok {key : String} {body : Json} {device edited : DeviceState}
    {write : Option String → DeviceState} (set : setText key body device write = .ok edited) :
    isText key body = true ∧ (edited = device ∨ ∃ text, edited = write text) := by
  rw [setText] at set
  rw [isText]
  split at set
  · cases set
    simp_all
  · cases set
    rename_i null
    rw [null]
    exact ⟨rfl, .inr ⟨_, rfl⟩⟩
  · cases set
    rename_i typed
    rw [typed]
    exact ⟨rfl, .inr ⟨_, rfl⟩⟩
  · cases set

theorem setFields_ok {body : Json} {device edited : DeviceState}
    (set : (setName body device).bind (setStatusIcon body) = .ok edited) :
    isText "name" body = true ∧ isText "status_icon" body = true ∧ SameNaming device edited := by
  cases named : setName body device with
  | error text =>
    rw [named] at set
    cases set
  | ok labelled =>
    rw [named] at set
    have set : setStatusIcon body labelled = .ok edited := set
    obtain ⟨label, wrote⟩ := setText_ok named
    obtain ⟨icon, drew⟩ := setText_ok set
    refine ⟨label, icon, ?_⟩
    rcases drew with rfl | ⟨text, rfl⟩ <;> rcases wrote with rfl | ⟨name, rfl⟩
    all_goals exact ⟨rfl, rfl, rfl, rfl⟩

theorem setButtonNames_same (body : Json) (device : DeviceState) :
    SameNaming device (setButtonNames body (setUiHint body device)) := by
  have hinted : SameNaming device (setUiHint body device) := by
    rw [setUiHint]
    split <;> exact ⟨rfl, rfl, rfl, rfl⟩
  refine hinted.trans ?_
  rw [setButtonNames]
  split <;> exact ⟨rfl, rfl, rfl, rfl⟩

theorem placeTyped_devices (legacyId : String → Uuid) (random : Uuid) (typed : String) :
    (placeTyped legacyId random home typed).1.devices = home.devices := by
  simp only [placeTyped]
  split <;> rfl

theorem setArea_ok {legacyId : String → Uuid} {random : Uuid} {body : Json}
    {placed : HomeStore Schema} {device : DeviceState} {answer : Except RoomError DeviceState}
    (set : setArea legacyId random body home device = (placed, answer)) :
    placed.devices = home.devices ∧ ∀ edited, answer = .ok edited → SameNaming device edited := by
  simp only [setArea] at set
  split at set
  · cases set
    refine ⟨rfl, ?_⟩
    rintro _ ⟨⟩
    exact ⟨rfl, rfl, rfl, rfl⟩
  · cases set
    refine ⟨placeTyped_devices home legacyId random _, fun edited settled => ?_⟩
    rw [Outcome.map_ok] at settled
    obtain ⟨requested, _, rfl⟩ := settled
    exact ⟨rfl, rfl, rfl, rfl⟩
  · cases set
    refine ⟨rfl, ?_⟩
    rintro _ ⟨⟩
    exact ⟨rfl, rfl, rfl, rfl⟩

theorem setCanonicalName_ok {devices : List DeviceState} {body : Json} {device edited : DeviceState}
    (set : setCanonicalName devices body device = .ok edited) (named : Writable can devices device)
    (nameable : can → asksForName body device = true → Nameable devices device) :
    Writable can devices edited := by
  have settled {device : DeviceState} {requested : Option String}
      (settle : (validateOrGenerateCanonicalName device devices requested).map (fun name =>
        { device with canonicalName := some name }) = .ok edited)
      (possible : can → requested = none → Nameable devices device) : Writable can devices edited := by
    obtain ⟨name, isValid, rfl⟩ := Outcome.map_ok.mp settle
    rintro _ ⟨⟩
    exact validateOrGenerateCanonicalName_ok isValid possible
  simp only [setCanonicalName] at set
  rw [asksForName] at nameable
  split at set
  · rename_i absent
    rw [absent] at nameable
    split at set
    · rename_i unnamed
      exact settled set fun possible _ => nameable possible unnamed
    · cases set
      exact named
  · rename_i null
    rw [null] at nameable
    exact settled set fun possible _ => nameable possible rfl
  · exact settled set (by rintro _ ⟨⟩)
  · cases set

theorem update_inOrder {legacyId : String → Uuid} {random : Uuid} {deviceId : String} {body : Json}
    (inOrder : NamesKept can home.devices)
    (nameable : can → ∀ device, home.devices.getDevice deviceId = some device →
      isText "name" body = true → isText "status_icon" body = true → asksForName body device = true →
      Nameable home.devices.listDevices device) :
    NamesKept can (updateDevice legacyId random home deviceId body).1.devices := by
  simp only [updateDevice]
  split
  · exact inOrder
  · rename_i device stored
    split
    · exact inOrder
    · rename_i fielded fields
      obtain ⟨label, icon, sameFields⟩ := setFields_ok fields
      split
      · rename_i placed error area
        rw [(setArea_ok home area).1]
        exact inOrder
      · rename_i placed moved area
        obtain ⟨untouched, sameRoom⟩ := setArea_ok home area
        split
        · rw [untouched]
          exact inOrder
        · rename_i edited set
          rw [untouched]
          have same := (sameFields.trans (sameRoom moved rfl)).trans (setButtonNames_same body moved)
          have keyed := home.devices.keyed _ _ stored
          refine inOrder.upsert (setCanonicalName_ok set ?_ fun possible asks => ?_)
          · exact inOrder.writable_of_kept (same.1 ▸ keyed ▸ stored) same.2.2.2.symm
          · rw [asksForName, ← same.2.2.2] at asks
            exact same.nameable (nameable possible device stored label icon asks)

/-! ## Any run -/

theorem upsertDeviceWithSchema_devices (forDevice : String → Option String → Option Schema)
    (device : DeviceState) :
    (Glue.upsertDeviceWithSchema forDevice home device).devices =
      home.devices.upsert (withCanonicalName home.devices.listDevices device) := by
  simp only [Glue.upsertDeviceWithSchema, Glue.ensureDeviceSchema]
  split
  · rfl
  · split <;> rfl

/-- A new helper is given the first name of its life. -/
theorem helper_inOrder {forDevice : String → Option String → Option Schema}
    (inOrder : NamesKept can home.devices) {now : DateTime} {deviceId name deviceType : String}
    {attributes : AttrMap} (nameable : can → Nameable home.devices.listDevices
      (Glue.newDevice now deviceId name deviceType ∅)) :
    NamesKept can (Glue.upsertDeviceWithSchema forDevice home
      (Glue.newDevice now deviceId name deviceType attributes)).devices := by
  have same : SameNaming (Glue.newDevice now deviceId name deviceType ∅)
      (Glue.newDevice now deviceId name deviceType attributes) := ⟨rfl, rfl, rfl, rfl⟩
  rw [upsertDeviceWithSchema_devices]
  exact inOrder.upsert (inOrder.writable (.inl rfl) fun possible _ => same.nameable (nameable possible))

/-- Each name that an input has made can be made, from the store that the input finds. -/
def NamesPossible : NamingInput Schema → Prop
  | .message now random message => ∀ device ∈ home.reported env now random message,
      device.canonicalName = none → Nameable home.devices.listDevices device
  | .createGlue now body => ∀ kind ∈ Glue.types.find? (·.1 == body.glueType),
      let deviceId := Glue.prefixed kind.2.1 body.id
      home.devices.getDevice deviceId = none →
        Nameable home.devices.listDevices (Glue.newDevice now deviceId body.name kind.2.2 ∅)
  | .seedEntry now entry => ∀ kind ∈ Glue.types.find? (·.1 == entry.glueType),
      let deviceId := Glue.prefixed kind.2.1 entry.id
      home.devices.getDevice deviceId = none ∨ entry.overrideFromConfig = true →
        Nameable home.devices.listDevices (Glue.newDevice now deviceId entry.name entry.glueType ∅)
  | .backfill => BackfillNameable [] home.devices.listDevices
  | .update _ deviceId body => ∀ device ∈ home.devices.getDevice deviceId,
      isText "name" body = true → isText "status_icon" body = true →
        asksForName body device = true → Nameable home.devices.listDevices device

theorem nameStep_inOrder (inOrder : NamesKept can home.devices) (input : NamingInput Schema)
    (possible : can → NamesPossible env home input) : NamesKept can (home.nameStep env input).devices := by
  cases input with
  | message now random message =>
    simp only [HomeStore.nameStep]
    rcases handle_devices env home now random message with ⟨deviceId, removed⟩ | written
    · rw [removed]
      exact inOrder.delete deviceId
    · rw [written]
      cases writes : home.reported env now random message with
      | none => exact inOrder
      | some device =>
        have keeps := reported_keepsName env home writes
        exact inOrder.upsert (inOrder.writable keeps fun can => possible can device writes)
  | createGlue now body =>
    simp only [HomeStore.nameStep, Glue.createGlue]
    split
    · exact inOrder
    · rename_i glueType idPrefix deviceType isKind
      have ofKind := fun can => possible can _ (Option.mem_def.mpr isKind)
      split
      · exact inOrder
      · rename_i unknown
        rw [Bool.not_eq_true, Option.isSome_eq_false_iff, Option.isNone_iff_eq_none] at unknown
        exact helper_inOrder home inOrder fun can => ofKind can unknown
  | seedEntry now entry =>
    simp only [HomeStore.nameStep, Glue.seedEntry]
    split
    · exact inOrder
    · rename_i glueType idPrefix deviceType isKind
      have ofKind := fun can => possible can _ (Option.mem_def.mpr isKind)
      split
      · rename_i unknown
        exact helper_inOrder home inOrder fun can => ofKind can (.inl unknown)
      · split
        · rename_i overrides
          exact helper_inOrder home inOrder fun can => ofKind can (.inr overrides)
        · exact inOrder
  | backfill =>
    have apart : (home.devices.listDevices.map (·.deviceId)).Nodup :=
      List.pairwise_map.mpr home.devices.listDevices_distinct
    exact backfillFrom_inOrder (fun other => Iff.rfl) apart inOrder possible
  | update random deviceId body => exact update_inOrder home inOrder possible

end Records

end HomeCore
