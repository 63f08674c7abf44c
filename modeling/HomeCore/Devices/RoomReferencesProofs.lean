import HomeCore.Devices.RoomOperationsProofs

/-! References to rooms over a run. Rules and plugins hold old slugs for ever, and
devices name their room by one: a name keeps meaning its room, or the room that
one was merged into, until that room is deleted, and the devices go with it. -/
namespace HomeCore

/-- The room with this id answers to the name. -/
def Household.answers (house : Household) (id : Uuid) (name : String) : Prop :=
  ∃ room, house.areas.getArea id = some room ∧ room.answersTo name = true

theorem answersTo_mono {room after : Area} (names : ∀ name ∈ room.names, name ∈ after.names)
    {name : String} (answers : room.answersTo name = true) : after.answersTo name = true := by
  rw [answersTo_iff] at answers ⊢
  exact ⟨answers.1, names name answers.2⟩

theorem isAt_iff {room : Area} {value : Option String} :
    Rooms.isAt room value = true ↔ ∃ said, value = some said ∧ room.answersTo (Rooms.slug said) = true := by
  cases value <;> simp [Rooms.isAt]

/-! ## Where a room's record goes -/

/-- The room, or the one it was merged into, answers to all its names afterwards. -/
theorem step_getArea (legacyId : String → Uuid) {house : Household} {operation : RoomOperation}
    (fresh : FreshId house operation) {id next : Uuid} {room : Area}
    (stored : house.areas.getArea id = some room)
    (followed : operation.follow house id = some next) :
    ∃ after, (house.step legacyId operation).areas.getArea next = some after ∧
      ∀ name ∈ room.names, name ∈ after.names := by
  have stepped := room_step legacyId house operation
  generalize house.step legacyId operation = result at stepped ⊢
  cases stepped with
  | unchanged stays =>
    rw [stays id (by simp [stored])] at followed
    cases followed
    exact ⟨room, stored, fun _ named => named⟩
  | added made isName normal bare free unused stays =>
    rw [stays id] at followed
    cases followed
    have other : made.id ≠ id := by
      rintro rfl
      rw [unused fresh] at stored
      cases stored
    exact ⟨room, by rw [AreaStore.getArea_upsert, if_neg other, stored], fun _ named => named⟩
  | respelled random reported found spelled foundStored =>
    cases followed
    rw [AreaStore.getArea_upsert]
    by_cases same : found.id = id
    · rw [same, stored] at foundStored
      cases foundStored
      exact ⟨_, if_pos same, fun _ named => named⟩
    · exact ⟨room, by rw [if_neg same, stored], fun _ named => named⟩
  | renamed target typed before isName targetStored free =>
    cases followed
    rw [AreaStore.getArea_upsert, renamed_id, AreaStore.getArea_id targetStored]
    by_cases same : target = id
    · rw [same, stored] at targetStored
      cases targetStored
      exact ⟨_, if_pos same, fun _ named => mem_renamed_names.mpr (.inr named)⟩
    · exact ⟨room, by rw [if_neg same, stored], fun _ named => named⟩
  | deleted target gone targetStored =>
    simp only [RoomOperation.follow] at followed
    split at followed
    · cases followed
    · rename_i other
      cases followed
      exact ⟨room, by rw [AreaStore.getArea_delete, if_neg other, stored], fun _ named => named⟩
  | merged target into gone kept apart targetStored keptStored =>
    have mergedId : (gone.names.foldl Rooms.aliased kept).id = into :=
      (aliased_id kept _).1.trans (AreaStore.getArea_id keptStored)
    simp only [RoomOperation.follow, keptStored, Option.isSome_some, and_true] at followed
    rw [AreaStore.getArea_delete, AreaStore.getArea_upsert, mergedId]
    split at followed
    · rename_i moved
      cases followed
      rw [moved.1, stored] at targetStored
      cases targetStored
      exact ⟨_, by rw [if_neg apart, if_pos rfl], fun _ named => mem_aliased_names.mpr (.inr named)⟩
    · rename_i stayed
      cases followed
      have other : target ≠ id := fun same => stayed ⟨same, apart⟩
      rw [if_neg other]
      by_cases same : into = id
      · rw [same, stored] at keptStored
        cases keptStored
        exact ⟨_, if_pos same, fun _ named => mem_aliased_names.mpr (.inl named)⟩
      · exact ⟨room, by rw [if_neg same, stored], fun _ named => named⟩
  | filled target deviceIds found =>
    cases followed
    exact ⟨room, stored, fun _ named => named⟩

theorem step_answers (legacyId : String → Uuid) {house : Household} {operation : RoomOperation}
    (fresh : FreshId house operation) {id next : Uuid} {name : String}
    (answers : house.answers id name) (followed : operation.follow house id = some next) :
    (house.step legacyId operation).answers next name := by
  obtain ⟨room, stored, answersTo⟩ := answers
  obtain ⟨after, afterStored, names⟩ := step_getArea legacyId fresh stored followed
  exact ⟨after, afterStored, answersTo_mono names answersTo⟩

/-! ## Slugs are normalized -/

/-- Every slug is one that normalizing leaves as it is. -/
def SlugsNormal (rooms : List Area) : Prop :=
  ∀ room ∈ rooms, room.slug ≠ "" ∧ Rooms.slug room.slug = room.slug

theorem SlugsNormal.snoc {rooms : List Area} (normal : SlugsNormal rooms) {room : Area}
    (isName : room.slug ≠ "") (same : Rooms.slug room.slug = room.slug) :
    SlugsNormal (rooms ++ [room]) := by
  intro other member
  rcases List.mem_append.mp member with member | last
  · exact normal other member
  · rw [List.mem_singleton.mp last]
    exact ⟨isName, same⟩

theorem SlugsNormal.upsert {store : AreaStore} (normal : SlugsNormal store.listAreas) {room : Area}
    (isName : room.slug ≠ "") (same : Rooms.slug room.slug = room.slug) :
    SlugsNormal (store.upsert room).listAreas := by
  intro other stored
  rcases AreaStore.mem_upsert.mp stored with rfl | ⟨_, stored⟩
  · exact ⟨isName, same⟩
  · exact normal other stored

theorem SlugsNormal.delete {store : AreaStore} (normal : SlugsNormal store.listAreas) (id : Uuid) :
    SlugsNormal (store.delete id).listAreas :=
  fun other stored => normal other (AreaStore.mem_delete.mp stored).2

theorem step_slugsNormal (legacyId : String → Uuid) (house : Household) (operation : RoomOperation)
    (normal : SlugsNormal house.areas.listAreas) :
    SlugsNormal (house.step legacyId operation).areas.listAreas := by
  have stepped := room_step legacyId house operation
  generalize house.step legacyId operation = after at stepped ⊢
  cases stepped with
  | unchanged stays => exact normal
  | added room isName same bare free fresh stays => exact normal.upsert isName same
  | respelled random reported room name stored =>
    obtain ⟨isName, same⟩ := normal room (AreaStore.mem_of_getArea stored)
    exact normal.upsert isName same
  | renamed id typed room isName stored free =>
    refine normal.upsert ?_ ?_
    · rw [renamed_slug]
      exact isName
    · rw [renamed_slug, slug_slug]
  | deleted id room stored => exact normal.delete id
  | merged id into room target other stored targetStored =>
    obtain ⟨isName, same⟩ := normal target (AreaStore.mem_of_getArea targetStored)
    have kept := (aliased_id target room.names).2
    refine (normal.upsert ?_ ?_).delete id
    · rw [kept]
      exact isName
    · rw [kept, same]
  | filled id deviceIds room => exact normal

theorem migration_slugsNormal (legacyId : String → Uuid) (random : Nat → Uuid) {legacy : Household}
    (normal : ∀ room ∈ legacy.areas.listAreas, room.slug ≠ "" → Rooms.slug room.slug = room.slug) :
    SlugsNormal (Rooms.migration legacyId random legacy).rooms := by
  have oneRoom : ∀ (migration : Rooms.Migration) (room : Area), SlugsNormal migration.rooms →
      (room.slug ≠ "" → Rooms.slug room.slug = room.slug) →
      SlugsNormal (migration.room legacyId room).rooms := by
    intro migration room met same
    unfold Rooms.Migration.room
    split
    · rename_i isName
      exact met.snoc isName (same isName)
    · simp only []
      split
      · exact met
      · rename_i unmet
        simp only [Bool.or_eq_true, decide_eq_true_eq, not_or] at unmet
        exact met.snoc unmet.1 (slug_slug _)
  have oneValue : ∀ (migration : Rooms.Migration) (value : Option String), SlugsNormal migration.rooms →
      SlugsNormal (migration.value legacyId random value).rooms := by
    intro migration value met
    unfold Rooms.Migration.value
    split
    · exact met
    · rename_i s found
      obtain ⟨said, isName⟩ := Option.filter_eq_some_iff.mp found
      obtain ⟨name, _, rfl⟩ := Option.map_eq_some_iff.mp said
      split
      · exact met
      · exact met.snoc (decide_eq_true_eq.mp isName) (slug_slug _)
  have rooms : ∀ (listed : List Area) (migration : Rooms.Migration), SlugsNormal migration.rooms →
      (∀ room ∈ listed, room.slug ≠ "" → Rooms.slug room.slug = room.slug) →
      SlugsNormal (listed.foldl (Rooms.Migration.room legacyId) migration).rooms := by
    intro listed
    induction listed with
    | nil => exact fun _ met _ => met
    | cons room rest ih =>
      intro migration met same
      exact ih _ (oneRoom migration room met (same room List.mem_cons_self))
        fun other member => same other (List.mem_cons_of_mem _ member)
  have values : ∀ (said : List (Option String)) (migration : Rooms.Migration),
      SlugsNormal migration.rooms →
      SlugsNormal (said.foldl (Rooms.Migration.value legacyId random) migration).rooms := by
    intro said
    induction said with
    | nil => exact fun _ met => met
    | cons value rest ih => exact fun migration met => ih _ (oneValue migration value met)
  exact values _ _ (rooms _ _ (fun _ none => by cases none) normal)

/-! ## Devices go with their room -/

/-- The house keeps names apart, and no slug needs normalizing. -/
structure HouseInOrder (house : Household) : Prop where
  names : NamesApart house.areas
  normal : SlugsNormal house.areas.listAreas

theorem step_inOrder (legacyId : String → Uuid) (house : Household) (operation : RoomOperation)
    (order : HouseInOrder house) : HouseInOrder (house.step legacyId operation) :=
  ⟨step_namesApart legacyId house operation order.names,
    step_slugsNormal legacyId house operation order.normal⟩

theorem HouseInOrder.elsewhere {house : Household} (order : HouseInOrder house) {id other : Uuid}
    {room otherRoom : Area} (stored : house.areas.getArea id = some room)
    (otherStored : house.areas.getArea other = some otherRoom) (apart : other ≠ id)
    {value : Option String} (isAt : Rooms.isAt room value = true) :
    Rooms.isAt otherRoom value = false := by
  rw [Bool.eq_false_iff]
  intro alsoAt
  obtain ⟨said, rfl, answers⟩ := isAt_iff.mp isAt
  obtain ⟨_, same, otherAnswers⟩ := isAt_iff.mp alsoAt
  cases same
  refine order.names.apart room (AreaStore.mem_of_getArea stored) otherRoom
    (AreaStore.mem_of_getArea otherStored) ?_ _ (answersTo_iff.mp answers).2
    (answersTo_iff.mp otherAnswers).2
  rw [AreaStore.getArea_id stored, AreaStore.getArea_id otherStored]
  exact apart.symm

/-- A device moved onto the slug of a room is in that room. -/
theorem isAt_slug {room : Area} {s : String} (isName : s ≠ "") (normal : Rooms.slug s = s)
    (named : s ∈ room.names) : Rooms.isAt room (some s) = true := by
  refine isAt_iff.mpr ⟨s, rfl, ?_⟩
  rw [normal]
  exact answersTo_iff.mpr ⟨isName, named⟩

theorem isAt_mono {room after : Area} (names : ∀ name ∈ room.names, name ∈ after.names)
    {value : Option String} (isAt : Rooms.isAt room value = true) : Rooms.isAt after value = true := by
  obtain ⟨said, rfl, answers⟩ := isAt_iff.mp isAt
  exact isAt_iff.mpr ⟨said, rfl, answersTo_mono names answers⟩

/-- What an operation that is not `set_devices` makes of where a device is: it is
moved only with its room. -/
theorem step_effectiveArea (legacyId : String → Uuid) {house : Household} {operation : RoomOperation}
    (order : HouseInOrder house) (kept : operation.isSetDevices = false) {id next : Uuid} {room : Area}
    (stored : house.areas.getArea id = some room)
    (followed : operation.follow house id = some next) {deviceId : String} {device : DeviceState}
    (found : house.devices.getDevice deviceId = some device)
    (isAt : Rooms.isAt room device.placement.effectiveArea = true) :
    ∃ after, (house.step legacyId operation).devices.getDevice deviceId = some after ∧
      (after.placement.effectiveArea = device.placement.effectiveArea ∨
        ∃ room', (house.step legacyId operation).areas.getArea next = some room' ∧
          after.placement.effectiveArea = some room'.slug) := by
  have stepped := room_step legacyId house operation
  generalize house.step legacyId operation = result at stepped ⊢
  have edited : ∀ edit : RoomEdit, ∃ after, (edit.run house.devices).getDevice deviceId = some after ∧
      after.placement = edit.placed device.deviceId device.placement := by
    intro edit
    exact ⟨_, by rw [getDevice_run, found, Option.map_some], edit.placement_apply device⟩
  cases stepped with
  | unchanged stays => exact ⟨device, found, .inl rfl⟩
  | added made isName normal bare free unused stays => exact ⟨device, found, .inl rfl⟩
  | respelled random reported known spelled knownStored => exact ⟨device, found, .inl rfl⟩
  | renamed target typed before isName targetStored free =>
    cases followed
    simp only []
    split
    · rename_i moved
      obtain ⟨after, afterFound, placed⟩ := edited (.repoint before (Rooms.slug typed))
      refine ⟨after, afterFound, ?_⟩
      rw [placed, effectiveArea_repoint]
      by_cases same : target = id
      · rw [same, stored] at targetStored
        cases targetStored
        rw [if_pos isAt, AreaStore.getArea_upsert, renamed_id, AreaStore.getArea_id stored, if_pos rfl]
        exact .inr ⟨_, rfl, by rw [renamed_slug]⟩
      · rw [if_neg (by simp [order.elsewhere stored targetStored same isAt])]
        exact .inl rfl
    · exact ⟨device, found, .inl rfl⟩
  | deleted target gone targetStored =>
    simp only [RoomOperation.follow] at followed
    split at followed
    · cases followed
    · rename_i other
      obtain ⟨after, afterFound, placed⟩ := edited (.delete gone)
      refine ⟨after, afterFound, .inl ?_⟩
      rw [placed, effectiveArea_deleted _ (order.elsewhere stored targetStored other isAt)]
  | merged target into gone absorbing apart targetStored absorbingStored =>
    simp only [RoomOperation.follow, absorbingStored, Option.isSome_some, and_true] at followed
    obtain ⟨after, afterFound, placed⟩ := edited (.repoint gone absorbing.slug)
    refine ⟨after, afterFound, ?_⟩
    rw [placed, effectiveArea_repoint]
    by_cases same : target = id
    · rw [if_pos ⟨same, apart⟩] at followed
      cases followed
      rw [same, stored] at targetStored
      cases targetStored
      have mergedId : (room.names.foldl Rooms.aliased absorbing).id = next :=
        (aliased_id absorbing _).1.trans (AreaStore.getArea_id absorbingStored)
      rw [if_pos isAt, AreaStore.getArea_delete, if_neg apart, AreaStore.getArea_upsert, if_pos mergedId]
      exact .inr ⟨_, rfl, by rw [(aliased_id absorbing _).2]⟩
    · rw [if_neg (by simp [order.elsewhere stored targetStored same isAt])]
      exact .inl rfl
  | filled target deviceIds known => cases kept

theorem step_holds (legacyId : String → Uuid) {house : Household} {operation : RoomOperation}
    (order : HouseInOrder house) (fresh : FreshId house operation)
    (kept : operation.isSetDevices = false) {id next : Uuid}
    (followed : operation.follow house id = some next) {deviceId : String}
    (held : house.holds id deviceId) : (house.step legacyId operation).holds next deviceId := by
  obtain ⟨device, room, found, stored, isAt⟩ := held
  obtain ⟨after, afterStored, names⟩ := step_getArea legacyId fresh stored followed
  obtain ⟨moved, movedFound, same | ⟨room', roomStored, slug⟩⟩ :=
    step_effectiveArea legacyId order kept stored followed found isAt
  · exact ⟨moved, after, movedFound, afterStored, same ▸ isAt_mono names isAt⟩
  · refine ⟨moved, room', movedFound, roomStored, ?_⟩
    obtain ⟨isName, normal⟩ := (step_inOrder legacyId house operation order).normal room'
      (AreaStore.mem_of_getArea roomStored)
    rw [slug]
    exact isAt_slug isName normal List.mem_cons_self

/-! ## Over a run -/

theorem follow_answers (legacyId : String → Uuid) {house : Household}
    {operations : List RoomOperation}
    (fresh : Runs.EachStep (Household.step legacyId) FreshId house operations) {id last : Uuid}
    {name : String} (answers : house.answers id name)
    (followed : house.follow legacyId id operations = some last) :
    (operations.foldl (Household.step legacyId) house).answers last name := by
  induction operations generalizing house id with
  | nil =>
    cases followed
    exact answers
  | cons operation rest ih =>
    obtain ⟨next, here, later⟩ := Option.bind_eq_some_iff.mp followed
    exact ih fresh.2 (step_answers legacyId fresh.1 answers here) later

theorem follow_holds (legacyId : String → Uuid) {house : Household}
    {operations : List RoomOperation} (order : HouseInOrder house)
    (fresh : Runs.EachStep (Household.step legacyId) FreshId house operations)
    (kept : ∀ operation ∈ operations, operation.isSetDevices = false) {id last : Uuid}
    {deviceId : String} (held : house.holds id deviceId)
    (followed : house.follow legacyId id operations = some last) :
    (operations.foldl (Household.step legacyId) house).holds last deviceId := by
  induction operations generalizing house id with
  | nil =>
    cases followed
    exact held
  | cons operation rest ih =>
    obtain ⟨next, here, later⟩ := Option.bind_eq_some_iff.mp followed
    obtain ⟨thisKept, restKept⟩ := List.forall_mem_cons.mp kept
    exact ih (step_inOrder legacyId house operation order) fresh.2 restKept
      (step_holds legacyId order fresh.1 thisKept here held) later

theorem roomFor_answersTo {rooms : List Area} {name : String} {room : Area}
    (found : Rooms.roomFor rooms name = some room) : room.answersTo name = true := by
  rw [Rooms.roomFor, List.find?_eq_some_iff_append] at found
  exact found.1

theorem HouseInOrder.roomFor {house : Household} (order : HouseInOrder house) {id : Uuid}
    {name : String} (answers : house.answers id name) :
    ∃ room, Rooms.roomFor house.areas.listAreas name = some room ∧ room.id = id := by
  obtain ⟨room, stored, answersTo⟩ := answers
  have member := AreaStore.mem_of_getArea stored
  cases found : Rooms.roomFor house.areas.listAreas name with
  | none => exact absurd answersTo (List.find?_eq_none.mp found room member)
  | some first =>
    have firstAnswers := roomFor_answersTo found
    have same := order.names.roomsApart.resolved name first (List.mem_of_find?_eq_some found) room
      member firstAnswers answersTo
    exact ⟨first, rfl, same ▸ AreaStore.getArea_id stored⟩

/-- A name that resolves to a room at some point of a run resolves, for as long as
that room or what it is merged into is not deleted, to that room; and the devices
in it stay in it unless a person moves them. -/
theorem room_references_stable (legacyId : String → Uuid) (random : Nat → Uuid) (legacy : Household)
    (migratable : Migratable legacyId legacy.areas.listAreas)
    (normal : ∀ room ∈ legacy.areas.listAreas, room.slug ≠ "" → Rooms.slug room.slug = room.slug)
    (earlier later : List RoomOperation)
    (fresh : Runs.EachStep (Household.step legacyId) FreshId
      (earlier.foldl (Household.step legacyId) (Rooms.migrate legacyId random legacy).1) later)
    (id last : Uuid)
    (followed : (earlier.foldl (Household.step legacyId)
      (Rooms.migrate legacyId random legacy).1).follow legacyId id later = some last) :
    let reached := earlier.foldl (Household.step legacyId) (Rooms.migrate legacyId random legacy).1
    let final := later.foldl (Household.step legacyId) reached
    (∀ name room, Rooms.roomFor reached.areas.listAreas name = some room → room.id = id →
      ∃ room', Rooms.roomFor final.areas.listAreas name = some room' ∧ room'.id = last) ∧
    ((∀ operation ∈ later, operation.isSetDevices = false) →
      ∀ deviceId, reached.holds id deviceId → final.holds last deviceId) := by
  have start : HouseInOrder (Rooms.migrate legacyId random legacy).1 := by
    refine ⟨migrate_namesApart random migratable, fun room stored => ?_⟩
    exact migration_slugsNormal legacyId random normal room (migrate_met migratable stored)
  have reached := (Runs.kept HouseInOrder (step_inOrder legacyId) start earlier).last
  have final := (Runs.kept HouseInOrder (step_inOrder legacyId) reached later).last
  refine ⟨fun name room resolved same => ?_, fun kept deviceId held => ?_⟩
  · refine final.roomFor (follow_answers legacyId fresh ⟨room, ?_, roomFor_answersTo resolved⟩ followed)
    rw [← same]
    exact AreaStore.mem_iff_getArea.mp (List.mem_of_find?_eq_some resolved)
  · exact follow_holds legacyId reached fresh kept held followed

/-- The renamed TV room is merged into the kitchen. -/
def denMerged : List RoomOperation :=
  [.rename (olderIds "kitchen") "Galley", .merge (olderIds "tv_room") (olderIds "kitchen")]

theorem tv_room_reference_stable :
    (Migratable olderIds (legacyHouse "kitchen").areas.listAreas ∧
      Household.follow olderIds (Rooms.migrate olderIds noRandom (legacyHouse "kitchen")).1
        (olderIds "tv_room") denMerged = some (olderIds "kitchen")) ∧
    ∃ room', Rooms.roomFor (denMerged.foldl (Household.step olderIds)
        (Rooms.migrate olderIds noRandom (legacyHouse "kitchen")).1).areas.listAreas "tv_room" =
      some room' ∧ room'.id = olderIds "kitchen" := by
  have migratable : Migratable olderIds (legacyHouse "kitchen").areas.listAreas :=
    ⟨by decide, by decide, by decide, by decide⟩
  have followed : Household.follow olderIds (Rooms.migrate olderIds noRandom (legacyHouse "kitchen")).1
      (olderIds "tv_room") denMerged = some (olderIds "kitchen") := by decide
  refine ⟨⟨migratable, followed⟩, ?_⟩
  have stable := room_references_stable olderIds noRandom (legacyHouse "kitchen") migratable
    (by decide) [] denMerged ⟨trivial, trivial, trivial⟩ (olderIds "tv_room")
    (olderIds "kitchen") followed
  exact stable.1 "tv_room" renamedDen (by decide) rfl

/-- Where the migration has given two rooms one name, merging the second away takes
the name from the first. -/
theorem den_reference_lost :
    let reached := (Rooms.migrate olderIds noRandom (legacyHouse "den")).1
    let later : List RoomOperation :=
      [.create ⟨1⟩ "Living room", .merge (olderIds "tv_room") (olderIds "living_room")]
    let final := later.foldl (Household.step olderIds) reached
    Runs.EachStep (Household.step olderIds) FreshId reached later ∧
      reached.follow olderIds (olderIds "den") later = some (olderIds "den") ∧
      (Rooms.roomFor reached.areas.listAreas "den").map (·.id) = some (olderIds "den") ∧
      (Rooms.roomFor final.areas.listAreas "den").map (·.id) = some (olderIds "living_room") := by
  refine ⟨⟨?_, trivial, trivial⟩, ?_, ?_, ?_⟩
  · change AreaStore.getArea _ _ = none
    decide
  · decide
  · decide
  · decide

end HomeCore
