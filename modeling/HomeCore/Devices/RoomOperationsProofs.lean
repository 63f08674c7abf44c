import HomeCore.Devices.RoomOperations
import HomeCore.Types.UuidText
import HomeCore.Devices.ForgottenProofs

/-! What names of rooms mean over a run: no two rooms share one, and a name stays
with its room, or with the room that one was merged into. The migration lets two
rooms have one name where a room without a slug is listed before the room that
has it. -/
namespace HomeCore

/-! ## Slugs -/

theorem slug_slug (name : String) : Rooms.slug (Rooms.slug name) = Rooms.slug name := by
  simp only [Rooms.slug, normalizeNameSegment, String.toList_ofList, normalizeNameChars_idem]

/-! ## Lookups -/

namespace AreaStore
variable {store : AreaStore} {room : Area} {id : Uuid}

theorem getArea_id (found : store.getArea id = some room) : room.id = id :=
  Uuid.text_injective (store.keyed _ _ found)

theorem mem_iff_getArea : room ∈ store.listAreas ↔ store.getArea room.id = some room :=
  mem_listAreas

theorem mem_of_getArea (found : store.getArea id = some room) : room ∈ store.listAreas := by
  rw [mem_iff_getArea, getArea_id found, found]

theorem find?_listAreas (store : AreaStore) (id : Uuid) :
    store.listAreas.find? (·.id == id) = store.getArea id := by
  cases found : store.listAreas.find? (·.id == id) with
  | some room =>
    have same : room.id = id := by simpa using List.find?_some found
    rw [← mem_iff_getArea.mp (List.mem_of_find?_eq_some found), same]
  | none =>
    cases stored : store.getArea id with
    | none => rfl
    | some room =>
      have absent := List.find?_eq_none.mp found room (mem_of_getArea stored)
      simp [getArea_id stored] at absent

theorem eq_of_id {a b : Area} (aStored : a ∈ store.listAreas) (bStored : b ∈ store.listAreas)
    (same : a.id = b.id) : a = b := by
  rw [mem_iff_getArea] at aStored bStored
  rw [same, bStored] at aStored
  exact (Option.some.inj aStored).symm

theorem getArea_upsert (store : AreaStore) (room : Area) (id : Uuid) :
    (store.upsert room).getArea id = if room.id = id then some room else store.getArea id := by
  simp only [getArea, upsert, Std.ExtTreeMap.getElem?_insert, Std.compare_eq_iff_eq]
  by_cases same : room.id = id
  · simp [same]
  · rw [if_neg same, if_neg fun text => same (Uuid.text_injective text)]

theorem getArea_delete (store : AreaStore) (removed id : Uuid) :
    (store.delete removed).getArea id = if removed = id then none else store.getArea id := by
  simp only [getArea, delete, Std.ExtTreeMap.getElem?_erase, Std.compare_eq_iff_eq]
  by_cases same : removed = id
  · simp [same]
  · rw [if_neg same, if_neg fun text => same (Uuid.text_injective text)]

theorem mem_upsert {other : Area} : other ∈ (store.upsert room).listAreas ↔
    other = room ∨ (other.id ≠ room.id ∧ other ∈ store.listAreas) := by
  rw [mem_iff_getArea, getArea_upsert, mem_iff_getArea]
  by_cases same : room.id = other.id
  · rw [if_pos same]
    constructor
    · intro stored
      exact .inl (Option.some.inj stored).symm
    · rintro (rfl | ⟨apart, _⟩)
      · rfl
      · exact absurd same.symm apart
  · rw [if_neg same]
    constructor
    · exact fun stored => .inr ⟨Ne.symm same, stored⟩
    · rintro (rfl | ⟨_, stored⟩)
      · exact absurd rfl same
      · exact stored

theorem mem_delete {other : Area} : other ∈ (store.delete id).listAreas ↔
    other.id ≠ id ∧ other ∈ store.listAreas := by
  rw [mem_iff_getArea, getArea_delete, mem_iff_getArea]
  by_cases same : id = other.id
  · simp [same]
  · rw [if_neg same]
    exact ⟨fun stored => ⟨Ne.symm same, stored⟩, And.right⟩

end AreaStore

theorem answersTo_iff {room : Area} {name : String} :
    room.answersTo name = true ↔ name ≠ "" ∧ name ∈ room.names := by
  simp only [Area.answersTo, Area.names, Bool.and_eq_true, decide_eq_true_eq, Bool.or_eq_true,
    beq_iff_eq, List.any_eq_true, exists_eq_right, List.mem_cons, eq_comm (a := name)]

theorem roomFor_none {rooms : List Area} {name : String} (isName : name ≠ "") :
    Rooms.roomFor rooms name = none ↔ ∀ room ∈ rooms, name ∉ room.names := by
  simp only [Rooms.roomFor, List.find?_eq_none, answersTo_iff, isName, ne_eq, not_false_eq_true,
    true_and]

/-! ## What an edit does to the devices -/

theorem RoomEdit.apply_deviceId {edit : RoomEdit} {device moved : DeviceState}
    (applied : edit.apply device = some moved) : moved.deviceId = device.deviceId := by
  obtain ⟨placement, _, rfl⟩ := Option.map_eq_some_iff.mp applied
  rfl

theorem getDevice_write (edit : RoomEdit) (store : DeviceStore) (device : DeviceState)
    (deviceId : String) : (edit.write store device).getDevice deviceId =
      if device.deviceId = deviceId then (edit.apply device).or (store.getDevice deviceId)
      else store.getDevice deviceId := by
  unfold RoomEdit.write
  cases applied : edit.apply device with
  | none => simp
  | some moved => simp [getDevice_upsert, RoomEdit.apply_deviceId applied]

theorem getDevice_foldl (edit : RoomEdit) (deviceId : String) (devices : List DeviceState)
    (store : DeviceStore) (distinct : devices.Pairwise fun a b => a.deviceId ≠ b.deviceId) :
    (devices.foldl edit.write store).getDevice deviceId =
      ((devices.find? (·.deviceId == deviceId)).bind edit.apply).or (store.getDevice deviceId) := by
  induction devices generalizing store with
  | nil => rfl
  | cons device rest ih =>
    obtain ⟨apart, distinct⟩ := List.pairwise_cons.mp distinct
    rw [List.foldl_cons, ih _ distinct, getDevice_write]
    by_cases same : device.deviceId = deviceId
    · -- the rest of the list is about other devices
      have absent : rest.find? (·.deviceId == deviceId) = none := by
        refine List.find?_eq_none.mpr fun other member => ?_
        simpa [← same] using (apart other member).symm
      rw [absent, List.find?_cons_of_pos (by simpa using same), if_pos same]
      rfl
    · rw [List.find?_cons_of_neg (by simpa using same), if_neg same]

theorem DeviceStore.listDevices_distinct (store : DeviceStore) :
    store.listDevices.Pairwise fun a b => a.deviceId ≠ b.deviceId := by
  rw [DeviceStore.listDevices, List.pairwise_map]
  refine List.Pairwise.imp_of_mem ?_ store.devices.distinct_keys_toList
  intro a b aStored bStored apart same
  have aKey := store.keyed _ _ (Std.ExtTreeMap.mem_toList_iff_getElem?_eq_some.mp aStored)
  have bKey := store.keyed _ _ (Std.ExtTreeMap.mem_toList_iff_getElem?_eq_some.mp bStored)
  apply apart
  rw [← aKey, ← bKey, same]
  exact Std.ReflCmp.compare_self

theorem getDevice_run (edit : RoomEdit) (store : DeviceStore) (deviceId : String) :
    (edit.run store).getDevice deviceId =
      (store.getDevice deviceId).map fun device => (edit.apply device).getD device := by
  rw [RoomEdit.run, getDevice_foldl _ _ _ _ store.listDevices_distinct, store.find?_listDevices]
  cases store.getDevice deviceId with
  | none => rfl
  | some device => cases applied : edit.apply device <;> simp [applied]

/-- Where a device is after an edit. -/
def RoomEdit.placed (edit : RoomEdit) (deviceId : String) (placement : Placement) : Placement :=
  (edit.place deviceId placement).getD placement

theorem RoomEdit.placement_apply (edit : RoomEdit) (device : DeviceState) :
    ((edit.apply device).getD device).placement = edit.placed device.deviceId device.placement := by
  unfold RoomEdit.apply RoomEdit.placed
  cases edit.place device.deviceId device.placement <;> rfl

theorem effectiveArea_repoint (room : Area) (slug deviceId : String) (placement : Placement) :
    ((RoomEdit.repoint room slug).placed deviceId placement).effectiveArea =
      if Rooms.isAt room placement.effectiveArea then some slug else placement.effectiveArea := by
  obtain ⟨area, areaOverride⟩ := placement
  simp only [RoomEdit.placed, RoomEdit.place, Placement.pointsAt, Placement.effectiveArea]
  cases areaOverride with
  | none =>
    have nowhere : Rooms.isAt room none = false := rfl
    by_cases inArea : Rooms.isAt room area = true <;> simp [nowhere, inArea]
  | some value =>
    by_cases inArea : Rooms.isAt room area = true <;>
      by_cases inOverride : Rooms.isAt room (some value) = true <;> simp [inArea, inOverride]

theorem effectiveArea_deleted {room : Area} {placement : Placement} (deviceId : String)
    (elsewhere : Rooms.isAt room placement.effectiveArea = false) :
    ((RoomEdit.delete room).placed deviceId placement).effectiveArea = placement.effectiveArea := by
  obtain ⟨area, areaOverride⟩ := placement
  simp only [RoomEdit.placed, RoomEdit.place, Placement.pointsAt, Placement.effectiveArea] at elsewhere ⊢
  cases areaOverride with
  | none =>
    have nowhere : Rooms.isAt room none = false := rfl
    rw [Option.none_or] at elsewhere
    simp [nowhere, elsewhere]
  | some value =>
    rw [Option.some_or] at elsewhere
    by_cases inArea : Rooms.isAt room area = true <;> simp [inArea, elsewhere]

/-! ## What one operation does -/

/-- Everything an operation can do to the house. -/
inductive RoomStep (house : Household) : RoomOperation → Household → Prop where
  | unchanged {operation : RoomOperation}
      (stays : ∀ id, (house.areas.getArea id).isSome → operation.follow house id = some id) :
      RoomStep house operation house
  | added {operation : RoomOperation} (room : Area) (isName : room.slug ≠ "")
      (normal : Rooms.slug room.slug = room.slug) (bare : room.aliases = [])
      (free : ∀ other ∈ house.areas.listAreas, room.slug ∉ other.names)
      (fresh : FreshId house operation → house.areas.getArea room.id = none)
      (stays : ∀ id, operation.follow house id = some id) :
      RoomStep house operation { house with areas := house.areas.upsert room }
  | respelled (random : Uuid) (reported : String) (room : Area) (name : String)
      (stored : house.areas.getArea room.id = some room) :
      RoomStep house (.placeReported random reported)
        { house with areas := house.areas.upsert { room with name := name, namedBy := .bridge } }
  | renamed (id : Uuid) (typed : String) (room : Area) (isName : Rooms.slug typed ≠ "")
      (stored : house.areas.getArea id = some room)
      (free : ∀ other ∈ house.areas.listAreas, other.id ≠ id → Rooms.slug typed ∉ other.names) :
      RoomStep house (.rename id typed)
        { areas := house.areas.upsert (Rooms.renamed room typed (Rooms.slug typed))
          devices := if Rooms.slug typed ≠ room.slug then
            (RoomEdit.repoint room (Rooms.slug typed)).run house.devices else house.devices }
  | deleted (id : Uuid) (room : Area) (stored : house.areas.getArea id = some room) :
      RoomStep house (.delete id)
        ⟨house.areas.delete id, (RoomEdit.delete room).run house.devices⟩
  | merged (id into : Uuid) (room target : Area) (other : id ≠ into)
      (stored : house.areas.getArea id = some room)
      (targetStored : house.areas.getArea into = some target) :
      RoomStep house (.merge id into)
        { areas := (house.areas.upsert (room.names.foldl Rooms.aliased target)).delete id
          devices := (RoomEdit.repoint room target.slug).run house.devices }
  | filled (id : Uuid) (deviceIds : List String) (room : Area) :
      RoomStep house (.setDevices id deviceIds)
        { house with devices := (RoomEdit.setDevices room deviceIds).run house.devices }

theorem getArea_newId (legacyId : String → Uuid) {random : Uuid} (slug : String) {store : AreaStore}
    (fresh : store.getArea random = none) :
    store.getArea (Rooms.newId legacyId random slug store.listAreas) = none := by
  unfold Rooms.newId
  split
  · exact fresh
  · rename_i unused
    cases stored : store.getArea (legacyId slug) with
    | none => rfl
    | some room =>
      refine absurd (List.any_eq_true.mpr ⟨room, AreaStore.mem_of_getArea stored, ?_⟩) unused
      simp [AreaStore.getArea_id stored]

theorem placeReported_step (legacyId : String → Uuid) (house : Household) (random : Uuid)
    (reported : String) : RoomStep house (.placeReported random reported)
      { house with areas := (Rooms.placeReported legacyId random house.areas reported).1 } := by
  unfold Rooms.placeReported
  by_cases blank : Rooms.slug reported = ""
  · simp only [blank, if_true]
    exact .unchanged fun id _ => rfl
  · simp only [blank, if_false]
    cases found : Rooms.roomFor house.areas.listAreas (Rooms.slug reported) with
    | none =>
      refine .added _ blank (slug_slug _) rfl ((roomFor_none blank).mp found) ?_ fun id => rfl
      exact fun fresh => getArea_newId legacyId _ fresh
    | some room =>
      simp only []
      split
      · exact .respelled random reported room _
          (AreaStore.mem_iff_getArea.mp (List.mem_of_find?_eq_some found))
      · exact .unchanged fun id _ => rfl

theorem create_step (legacyId : String → Uuid) (house : Household) (random : Uuid)
    (typed : String) : RoomStep house (.create random typed)
      (Rooms.create legacyId random house typed).1 := by
  unfold Rooms.create
  by_cases blank : Rooms.slug typed = ""
  · simp only [blank, if_true]
    exact .unchanged fun id _ => rfl
  · simp only [blank, if_false]
    cases found : Rooms.roomFor house.areas.listAreas (Rooms.slug typed) with
    | none =>
      refine .added _ blank (slug_slug _) rfl ((roomFor_none blank).mp found) ?_ fun id => rfl
      exact fun fresh => getArea_newId legacyId _ fresh
    | some room => exact .unchanged fun id _ => rfl

theorem rename_step (house : Household) (id : Uuid) (typed : String) :
    RoomStep house (.rename id typed) (Rooms.rename house id typed).1 := by
  unfold Rooms.rename
  by_cases blank : Rooms.slug typed = ""
  · simp only [blank, if_true]
    exact .unchanged fun id _ => rfl
  · simp only [blank, if_false, AreaStore.find?_listAreas]
    cases stored : house.areas.getArea id with
    | none => exact .unchanged fun id _ => rfl
    | some room =>
      simp only []
      cases taken : house.areas.listAreas.find?
          (fun other => other.id != id && other.answersTo (Rooms.slug typed)) with
      | some other => exact .unchanged fun id _ => rfl
      | none =>
        refine .renamed id typed room blank stored fun other member apart named => ?_
        refine absurd ?_ (List.find?_eq_none.mp taken other member)
        simp [apart, answersTo_iff.mpr ⟨blank, named⟩]

theorem delete_step (house : Household) (id : Uuid) :
    RoomStep house (.delete id) (Rooms.delete house id).1 := by
  unfold Rooms.delete
  cases stored : house.areas.getArea id with
  | some room => exact .deleted id room stored
  | none =>
    refine .unchanged fun other otherStored => if_neg ?_
    rintro rfl
    rw [stored] at otherStored
    cases otherStored

theorem merge_step (house : Household) (id into : Uuid) :
    RoomStep house (.merge id into) (Rooms.merge house id into).1 := by
  unfold Rooms.merge
  by_cases same : id = into
  · rw [if_pos same]
    exact .unchanged fun other _ => if_neg fun moved => moved.2.1 same
  · rw [if_neg same]
    cases stored : house.areas.getArea id with
    | none =>
      refine .unchanged fun other otherStored => if_neg ?_
      rintro ⟨rfl, _⟩
      rw [stored] at otherStored
      cases otherStored
    | some room =>
      cases targetStored : house.areas.getArea into with
      | none =>
        refine .unchanged fun other otherStored => if_neg ?_
        rintro ⟨_, _, found⟩
        rw [targetStored] at found
        cases found
      | some target => exact .merged id into room target same stored targetStored

theorem setDevices_step (house : Household) (id : Uuid) (deviceIds : List String) :
    RoomStep house (.setDevices id deviceIds) (Rooms.setDevices house id deviceIds).1 := by
  unfold Rooms.setDevices
  cases stored : house.areas.getArea id with
  | none => exact .unchanged fun id _ => rfl
  | some room => exact .filled id deviceIds room

theorem room_step (legacyId : String → Uuid) (house : Household) (operation : RoomOperation) :
    RoomStep house operation (house.step legacyId operation) := by
  cases operation with
  | placeReported random reported => exact placeReported_step legacyId house random reported
  | create random typed => exact create_step legacyId house random typed
  | rename id typed => exact rename_step house id typed
  | delete id => exact delete_step house id
  | merge id into => exact merge_step house id into
  | setDevices id deviceIds => exact setDevices_step house id deviceIds

/-! ## Names stay apart -/

/-- Rooms with different ids share no name, and no room is its own alias. -/
structure NamesApart (store : AreaStore) : Prop where
  apart : ∀ a ∈ store.listAreas, ∀ b ∈ store.listAreas, a.id ≠ b.id →
    ∀ name ∈ a.names, name ∉ b.names
  own : ∀ room ∈ store.listAreas, room.slug ∉ room.aliases

theorem NamesApart.roomsApart {house : Household} (names : NamesApart house.areas) :
    RoomsApart house where
  apart := by
    intro a aStored b bStored different
    exact names.apart a aStored b bStored fun same => different (AreaStore.eq_of_id aStored bStored same)
  own := names.own
  resolved := by
    intro name a aStored b bStored aAnswers bAnswers
    by_contra different
    have apart := names.apart a aStored b bStored fun same =>
      different (AreaStore.eq_of_id aStored bStored same)
    exact apart name (answersTo_iff.mp aAnswers).2 (answersTo_iff.mp bAnswers).2

/-- Replacing a room keeps names apart where each of its names was its own or is
no other room's. -/
theorem NamesApart.upsert {store : AreaStore} (names : NamesApart store) {room : Area}
    (free : ∀ name ∈ room.names, ∀ other ∈ store.listAreas, other.id ≠ room.id → name ∉ other.names)
    (own : room.slug ∉ room.aliases) : NamesApart (store.upsert room) where
  apart := by
    intro a aStored b bStored different name aNamed bNamed
    rw [AreaStore.mem_upsert] at aStored bStored
    rcases aStored with rfl | ⟨aOther, aStored⟩
    · rcases bStored with rfl | ⟨bOther, bStored⟩
      · exact different rfl
      · exact free name aNamed b bStored bOther bNamed
    · rcases bStored with rfl | ⟨_, bStored⟩
      · exact free name bNamed a aStored aOther aNamed
      · exact names.apart a aStored b bStored different name aNamed bNamed
  own := by
    intro other stored
    rw [AreaStore.mem_upsert] at stored
    rcases stored with rfl | ⟨_, stored⟩
    · exact own
    · exact names.own other stored

theorem NamesApart.mono {store fewer : AreaStore} (names : NamesApart store)
    (inside : ∀ room ∈ fewer.listAreas, room ∈ store.listAreas) : NamesApart fewer where
  apart a aStored b bStored := names.apart a (inside a aStored) b (inside b bStored)
  own room stored := names.own room (inside room stored)

theorem NamesApart.delete {store : AreaStore} (names : NamesApart store) (id : Uuid) :
    NamesApart (store.delete id) :=
  names.mono fun _ stored => (AreaStore.mem_delete.mp stored).2

theorem renamed_id (room : Area) (typed s : String) : (Rooms.renamed room typed s).id = room.id := by
  unfold Rooms.renamed
  split <;> rfl

theorem renamed_slug (room : Area) (typed s : String) : (Rooms.renamed room typed s).slug = s := by
  unfold Rooms.renamed
  split
  · rfl
  · rename_i same
    exact (not_not.mp same).symm

theorem mem_renamed_names {room : Area} {typed s name : String} :
    name ∈ (Rooms.renamed room typed s).names ↔ name = s ∨ name ∈ room.names := by
  unfold Rooms.renamed
  split
  · rename_i moved
    simp only [Area.names, List.mem_cons]
    by_cases named : name = s
    · simp [named]
    · by_cases old : name = room.slug
      · subst old
        split
        · rename_i contained
          simp_all
        · simp
      · split <;> simp [named, old]
  · rename_i same
    simp only [Area.names, List.mem_cons, not_not.mp same]
    tauto

theorem renamed_own {room : Area} (own : room.slug ∉ room.aliases) (typed s : String) :
    (Rooms.renamed room typed s).slug ∉ (Rooms.renamed room typed s).aliases := by
  unfold Rooms.renamed
  split
  · rename_i moved
    simp only []
    split <;> simp [moved]
  · exact own

theorem aliased_id (target : Area) (names : List String) :
    (names.foldl Rooms.aliased target).id = target.id ∧
      (names.foldl Rooms.aliased target).slug = target.slug := by
  induction names generalizing target with
  | nil => exact ⟨rfl, rfl⟩
  | cons s rest ih =>
    have one : (Rooms.aliased target s).id = target.id ∧ (Rooms.aliased target s).slug = target.slug := by
      unfold Rooms.aliased
      split <;> exact ⟨rfl, rfl⟩
    rw [List.foldl_cons, (ih _).1, (ih _).2]
    exact one

theorem mem_aliased_names {target : Area} {names : List String} {name : String} :
    name ∈ (names.foldl Rooms.aliased target).names ↔ name ∈ target.names ∨ name ∈ names := by
  induction names generalizing target with
  | nil => simp
  | cons s rest ih =>
    have one : name ∈ (Rooms.aliased target s).names ↔ name ∈ target.names ∨ name = s := by
      unfold Rooms.aliased
      split
      · simp [Area.names, or_assoc]
      · rename_i known
        simp only [Area.names, List.mem_cons]
        refine ⟨.inl, ?_⟩
        rintro (named | rfl)
        · exact named
        · simpa [or_iff_not_imp_left] using known
    rw [List.foldl_cons, ih, one, List.mem_cons, or_assoc]

theorem aliased_own {target : Area} (own : target.slug ∉ target.aliases) (names : List String) :
    (names.foldl Rooms.aliased target).slug ∉ (names.foldl Rooms.aliased target).aliases := by
  induction names generalizing target with
  | nil => exact own
  | cons s rest ih =>
    refine ih ?_
    unfold Rooms.aliased
    split
    · rename_i added
      simp only [Bool.and_eq_true, decide_eq_true_eq] at added
      simpa [own] using added.1.symm
    · exact own

theorem step_namesApart (legacyId : String → Uuid) (house : Household) (operation : RoomOperation)
    (names : NamesApart house.areas) : NamesApart (house.step legacyId operation).areas := by
  have stepped := room_step legacyId house operation
  generalize house.step legacyId operation = after at stepped ⊢
  cases stepped with
  | unchanged stays => exact names
  | added room isName normal bare free fresh stays =>
    refine names.upsert ?_ (by simp [bare])
    intro name named other member _
    rw [Area.names, bare, List.mem_singleton] at named
    exact named ▸ free other member
  | respelled random reported room name stored =>
    have member := AreaStore.mem_of_getArea stored
    refine names.upsert ?_ (names.own room member)
    intro name' named other otherStored different
    exact names.apart room member other otherStored different.symm name' named
  | renamed id typed room isName stored free =>
    have member := AreaStore.mem_of_getArea stored
    have sameId := AreaStore.getArea_id stored
    refine names.upsert ?_ (renamed_own (names.own room member) typed _)
    intro name named other otherStored different
    rw [renamed_id] at different
    rcases mem_renamed_names.mp named with rfl | known
    · exact free other otherStored (sameId ▸ different)
    · exact names.apart room member other otherStored different.symm name known
  | deleted id room stored => exact names.delete id
  | merged id into room target other stored targetStored =>
    have member := AreaStore.mem_of_getArea stored
    have targetMember := AreaStore.mem_of_getArea targetStored
    have targetId := AreaStore.getArea_id targetStored
    have roomId := AreaStore.getArea_id stored
    -- the room is gone by the time the target answers to its names
    have kept : NamesApart ((house.areas.delete id).upsert (room.names.foldl Rooms.aliased target)) := by
      refine (names.delete id).upsert ?_ (aliased_own (names.own target targetMember) _)
      intro name named third thirdStored different
      obtain ⟨notRoom, thirdStored⟩ := AreaStore.mem_delete.mp thirdStored
      rw [(aliased_id target _).1] at different
      rcases mem_aliased_names.mp named with known | taken
      · exact names.apart target targetMember third thirdStored different.symm name known
      · exact names.apart room member third thirdStored (roomId ▸ notRoom.symm) name taken
    refine kept.mono fun third thirdStored => ?_
    rw [AreaStore.mem_delete, AreaStore.mem_upsert] at thirdStored
    rw [AreaStore.mem_upsert, AreaStore.mem_delete]
    rcases thirdStored.2 with same | ⟨different, there⟩
    · exact .inl same
    · exact .inr ⟨different, thirdStored.1, there⟩
  | filled id deviceIds room => exact names

/-! ## The migration -/

section Migration
variable {legacyId : String → Uuid}

/-- Rooms met so far are apart, from each other and from the rooms with slugs that
are still to come. -/
structure RoomsMet (rooms rest : List Area) : Prop where
  apart : ∀ a ∈ rooms, ∀ b ∈ rooms ++ rest, b.slug ≠ "" → a.id ≠ b.id →
    ∀ name ∈ a.names, name ∉ b.names
  slugged : ∀ room ∈ rooms, room.slug ≠ ""
  own : ∀ room ∈ rooms, room.slug ∉ room.aliases

theorem Migratable.tail {room : Area} {rest : List Area}
    (migratable : Migratable legacyId (room :: rest)) : Migratable legacyId rest where
  apart a aMember b bMember := migratable.apart a (List.mem_cons_of_mem _ aMember) b
    (List.mem_cons_of_mem _ bMember)
  own other member := migratable.own other (List.mem_cons_of_mem _ member)
  bare other member := migratable.bare other (List.mem_cons_of_mem _ member)
  foreseen := (List.pairwise_cons.mp migratable.foreseen).2

namespace RoomsMet
variable {rooms rest : List Area} {room : Area}

theorem drop (met : RoomsMet rooms (room :: rest)) : RoomsMet rooms rest where
  apart := by
    intro a aMet b bMet
    refine met.apart a aMet b ?_
    rcases List.mem_append.mp bMet with bMet | later
    · exact List.mem_append_left _ bMet
    · exact List.mem_append_right _ (List.mem_cons_of_mem _ later)
  slugged := met.slugged
  own := met.own

theorem snoc (met : RoomsMet rooms rest) (isName : room.slug ≠ "") (own : room.slug ∉ room.aliases)
    (apart : ∀ other ∈ rooms ++ rest, other.slug ≠ "" → room.id ≠ other.id →
      ∀ name ∈ room.names, name ∉ other.names) : RoomsMet (rooms ++ [room]) rest where
  apart := by
    intro a aMet b bMet bSlugged different name aNamed bNamed
    simp only [List.mem_append, List.mem_singleton] at aMet bMet
    rcases aMet with aMet | rfl
    · rcases bMet with (bMet | rfl) | bLater
      · exact met.apart a aMet b (List.mem_append_left _ bMet) bSlugged different name aNamed bNamed
      · exact apart a (List.mem_append_left _ aMet) (met.slugged a aMet) different.symm name bNamed aNamed
      · exact met.apart a aMet b (List.mem_append_right _ bLater) bSlugged different name aNamed bNamed
    · rcases bMet with (bMet | rfl) | bLater
      · exact apart b (List.mem_append_left _ bMet) bSlugged different name aNamed bNamed
      · exact different rfl
      · exact apart b (List.mem_append_right _ bLater) bSlugged different name aNamed bNamed
  slugged := by
    intro other member
    rcases List.mem_append.mp member with member | same
    · exact met.slugged other member
    · exact List.mem_singleton.mp same ▸ isName
  own := by
    intro other member
    rcases List.mem_append.mp member with member | same
    · exact met.own other member
    · exact List.mem_singleton.mp same ▸ own

/-- A room that has its slug already. -/
theorem slugged_snoc (met : RoomsMet rooms (room :: rest))
    (migratable : Migratable legacyId (room :: rest)) (isName : room.slug ≠ "") :
    RoomsMet (rooms ++ [room]) rest := by
  refine met.drop.snoc isName (migratable.own room List.mem_cons_self isName) ?_
  intro other member otherSlugged different name named otherNamed
  rcases List.mem_append.mp member with member | later
  · have ahead : room ∈ rooms ++ room :: rest := List.mem_append_right _ List.mem_cons_self
    exact met.apart other member room ahead isName different.symm name otherNamed named
  · refine migratable.apart room List.mem_cons_self other (List.mem_cons_of_mem _ later) isName
      otherSlugged ?_ name named otherNamed
    rintro rfl
    exact different rfl

/-- A room whose only name no room so far answers to. -/
theorem named_snoc (met : RoomsMet rooms rest) (isName : room.slug ≠ "") (bare : room.aliases = [])
    (free : Rooms.roomFor rooms room.slug = none)
    (foreseen : ∀ later ∈ rest, later.slug ≠ "" → room.slug ∈ later.names → later.id = room.id) :
    RoomsMet (rooms ++ [room]) rest := by
  refine met.snoc isName (by simp [bare]) ?_
  intro other member otherSlugged different name named otherNamed
  rw [Area.names, bare, List.mem_singleton] at named
  rw [named] at otherNamed
  rcases List.mem_append.mp member with member | later
  · exact (roomFor_none isName).mp free other member otherNamed
  · exact different (foreseen other later otherSlugged otherNamed).symm

end RoomsMet

/-- The store holds the rooms met so far and those still to come, and no other. -/
structure Rooms.Migration.Sound (migration : Rooms.Migration) (rest : List Area) : Prop where
  stored : ∀ room ∈ migration.store.listAreas, room ∈ migration.rooms ∨ room ∈ rest
  met : RoomsMet migration.rooms rest

theorem Rooms.Migration.Sound.room {migration : Rooms.Migration} {room : Area} {rest : List Area}
    (sound : migration.Sound (room :: rest)) (migratable : Migratable legacyId (room :: rest)) :
    (migration.room legacyId room).Sound rest := by
  have others : ∀ other ∈ migration.store.listAreas, other.id ≠ room.id →
      other ∈ migration.rooms ∨ other ∈ rest := by
    intro other there different
    rcases sound.stored other there with met | later
    · exact .inl met
    · rcases List.mem_cons.mp later with rfl | later
      · exact absurd rfl different
      · exact .inr later
  unfold Rooms.Migration.room
  split
  · rename_i isName
    refine ⟨fun other there => ?_, sound.met.slugged_snoc migratable isName⟩
    rcases sound.stored other there with met | later
    · exact .inl (List.mem_append_left _ met)
    · rcases List.mem_cons.mp later with rfl | later
      · exact .inl (List.mem_append_right _ (List.mem_singleton.mpr rfl))
      · exact .inr later
  · rename_i unnamed
    have unnamed := not_not.mp unnamed
    simp only []
    split
    · refine ⟨fun other there => ?_, sound.met.drop⟩
      obtain ⟨different, there⟩ := AreaStore.mem_delete.mp there
      exact others other there different
    · rename_i free
      simp only [Bool.or_eq_true, decide_eq_true_eq, not_or, Bool.not_eq_true,
        Option.isSome_eq_false_iff, Option.isNone_iff_eq_none] at free
      obtain ⟨isName, free⟩ := free
      have bare := migratable.bare room List.mem_cons_self unnamed
      refine ⟨fun other there => ?_, sound.met.drop.named_snoc isName bare free ?_⟩
      · -- the record under the stored id is gone or replaced
        have replaced : other = guessed (legacyId (slug room.name)) (slug room.name) room.aliases ∨
            other.id ≠ room.id ∧ other ∈ migration.store.listAreas := by
          simp only [] at there
          split at there
          · obtain ⟨different, there⟩ := AreaStore.mem_delete.mp there
            rcases AreaStore.mem_upsert.mp there with same | ⟨_, there⟩
            · exact .inl same
            · exact .inr ⟨different, there⟩
          · rename_i sameId
            rcases AreaStore.mem_upsert.mp there with same | ⟨different, there⟩
            · exact .inl same
            · exact .inr ⟨not_not.mp sameId ▸ different, there⟩
        rcases replaced with same | ⟨different, there⟩
        · exact .inl (List.mem_append_right _ (List.mem_singleton.mpr same))
        · rcases others other there different with met | later
          · exact .inl (List.mem_append_left _ met)
          · exact .inr later
      · intro later member slugged named
        exact (List.pairwise_cons.mp migratable.foreseen).1 later member unnamed slugged
          (answersTo_iff.mpr ⟨isName, named⟩)

theorem Rooms.Migration.Sound.value (legacyId : String → Uuid) (random : Nat → Uuid)
    {migration : Rooms.Migration} (sound : migration.Sound []) (value : Option String) :
    (migration.value legacyId random value).Sound [] := by
  unfold Rooms.Migration.value
  split
  · exact sound
  · rename_i s found
    have isName : s ≠ "" := by simpa using (Option.filter_eq_some_iff.mp found).2
    split
    · exact sound
    · rename_i free
      rw [Bool.not_eq_true, Option.isSome_eq_false_iff, Option.isNone_iff_eq_none] at free
      refine ⟨fun other there => ?_, sound.met.named_snoc isName rfl free ?_⟩
      · rcases AreaStore.mem_upsert.mp there with same | ⟨_, there⟩
        · exact .inl (List.mem_append_right _ (List.mem_singleton.mpr same))
        · rcases sound.stored other there with met | none
          · exact .inl (List.mem_append_left _ met)
          · cases none
      · intro later member
        cases member

theorem Rooms.Migration.Sound.rooms {migration : Rooms.Migration} {listed : List Area}
    (sound : migration.Sound listed) (migratable : Migratable legacyId listed) :
    (listed.foldl (Rooms.Migration.room legacyId) migration).Sound [] := by
  induction listed generalizing migration with
  | nil => exact sound
  | cons room rest ih => exact ih (sound.room migratable) migratable.tail

theorem Rooms.Migration.Sound.values (legacyId : String → Uuid) (random : Nat → Uuid)
    {migration : Rooms.Migration} (sound : migration.Sound []) (values : List (Option String)) :
    (values.foldl (Rooms.Migration.value legacyId random) migration).Sound [] := by
  induction values generalizing migration with
  | nil => exact sound
  | cons value rest ih => exact ih (sound.value legacyId random value)

theorem migration_sound (random : Nat → Uuid) {legacy : Household}
    (migratable : Migratable legacyId legacy.areas.listAreas) :
    (Rooms.migration legacyId random legacy).Sound [] := by
  have start : (⟨legacy.areas, [], ⟨0, 0⟩⟩ : Rooms.Migration).Sound legacy.areas.listAreas :=
    ⟨fun room there => .inr there, ⟨by simp, by simp, by simp⟩⟩
  exact (start.rooms migratable).values legacyId random _

theorem migrate_met {random : Nat → Uuid} {legacy : Household}
    (migratable : Migratable legacyId legacy.areas.listAreas) {room : Area}
    (stored : room ∈ (Rooms.migrate legacyId random legacy).1.areas.listAreas) :
    room ∈ (Rooms.migration legacyId random legacy).rooms := by
  rcases (migration_sound random migratable).stored room stored with met | none
  · exact met
  · cases none

theorem migrate_namesApart (random : Nat → Uuid) {legacy : Household}
    (migratable : Migratable legacyId legacy.areas.listAreas) :
    NamesApart (Rooms.migrate legacyId random legacy).1.areas := by
  have met := (migration_sound random migratable).met
  refine ⟨fun a aStored b bStored different => ?_, fun room stored => ?_⟩
  · have bMet := migrate_met migratable bStored
    exact met.apart a (migrate_met migratable aStored) b (List.mem_append_left _ bMet)
      (met.slugged b bMet) different
  · exact met.own room (migrate_met migratable stored)

end Migration

/-- From a store that the migration can name apart, names stay apart whatever is
done to the rooms. -/
theorem room_names_never_clash (legacyId : String → Uuid) (random : Nat → Uuid) (legacy : Household)
    (migratable : Migratable legacyId legacy.areas.listAreas) (operations : List RoomOperation) :
    Runs.Always (Household.step legacyId) RoomsApart (Rooms.migrate legacyId random legacy).1
      operations := by
  refine Runs.Always.mono (fun house names => NamesApart.roomsApart names) ?_
  refine Runs.kept (fun house : Household => NamesApart house.areas) ?_
    (migrate_namesApart random migratable) operations
  exact step_namesApart legacyId

/-- The ids once derived from the slugs of the rooms below. -/
def olderIds (slug : String) : Uuid :=
  if slug = "den" then ⟨0x0ac6ea594d2e5978b7a7a214582fc2a5⟩
  else if slug = "kitchen" then ⟨0x25e9211c91d1573bbfc533bb834a411e⟩
  else if slug = "living_room" then ⟨0x0356f2f0c7755447a1e0ff326651a8bf⟩
  else ⟨0x295066ade66653d0b8a198672e4f21a1⟩

/-- The TV room, since renamed. -/
def renamedDen : Area :=
  ⟨olderIds "tv_room", "Den", "den", ["tv_room"], .person, []⟩

/-- A room recorded before rooms had slugs. -/
def slugless (name : String) : Area :=
  ⟨olderIds name, name, "", [], .person, []⟩

def legacyHouse (name : String) : Household where
  areas := ((⟨∅, AreaStore.none_keyed⟩ : AreaStore).upsert renamedDen).upsert (slugless name)
  devices := ⟨∅, [], DeviceStore.none_keyed⟩

def noRandom (_ : Nat) : Uuid := ⟨0⟩

theorem kitchen_names_never_clash :
    Migratable olderIds (legacyHouse "kitchen").areas.listAreas ∧
      Runs.Always (Household.step olderIds) RoomsApart
        (Rooms.migrate olderIds noRandom (legacyHouse "kitchen")).1
        [.placeReported ⟨1⟩ "Tv room", .rename (olderIds "kitchen") "Galley",
          .merge (olderIds "tv_room") (olderIds "kitchen"), .create ⟨2⟩ "Kitchen"] := by
  have migratable : Migratable olderIds (legacyHouse "kitchen").areas.listAreas :=
    ⟨by decide, by decide, by decide, by decide⟩
  exact ⟨migratable, room_names_never_clash olderIds noRandom (legacyHouse "kitchen") migratable _⟩

/-- A room without a slug, listed before the room that answers to its name, gets
the slug all the same. -/
theorem slugless_den_clashes :
    ¬ RoomsApart (Rooms.migrate olderIds noRandom (legacyHouse "den")).1 := by
  intro apart
  have clash : ∃ a ∈ (Rooms.migrate olderIds noRandom (legacyHouse "den")).1.areas.listAreas,
      ∃ b ∈ (Rooms.migrate olderIds noRandom (legacyHouse "den")).1.areas.listAreas,
        a ≠ b ∧ a.answersTo "den" = true ∧ b.answersTo "den" = true := by decide
  obtain ⟨a, aStored, b, bStored, different, aAnswers, bAnswers⟩ := clash
  exact different (apart.resolved "den" a aStored b bStored aAnswers bAnswers)

end HomeCore
