import HomeCore.Devices.StateBridgeProofs
import HomeCore.Devices.Writers

/-! Writers lose nothing of one another's as long as each record is still the
one its writer read. -/
namespace HomeCore

theorem apply_placed {device moved : DeviceState} {edit : RoomEdit}
    (applied : edit.apply device = some moved) :
    ∃ placement, edit.place device.deviceId device.placement = some placement ∧
      moved = device.placed placement := by
  obtain ⟨placement, placed, rfl⟩ := Option.map_eq_some_iff.mp applied
  exact ⟨placement, placed, rfl⟩

section Edit
variable {devices : List DeviceState} {deviceId : String} {seen : Option DeviceState}
  {writer : Writer} {written : DeviceState}

theorem edit_deviceId (keyed : ∀ device, seen = some device → device.deviceId = deviceId)
    (edited : writer.edit devices deviceId seen = some written) : written.deviceId = deviceId := by
  cases writer with
  | report now payload isPartial change =>
    cases edited
    rw [(withCanonicalName_kept devices _).1]
    cases seen with
    | none => rfl
    | some device => exact keyed device rfl
  | update now change mutate =>
    obtain ⟨device, rfl, rfl⟩ := Option.map_eq_some_iff.mp edited
    exact keyed device rfl
  | room edit =>
    obtain ⟨device, rfl, applied⟩ := Option.bind_eq_some_iff.mp edited
    obtain ⟨placement, _, rfl⟩ := apply_placed applied
    exact keyed device rfl

/-- The attributes a writer leaves, from those it read. -/
def Writer.attributesAfter (attributes : AttrMap) : Writer → AttrMap
  | .report _ payload isPartial _ => reportedAttributes attributes payload isPartial
  | .update _ _ mutate => mutate attributes
  | .room _ => attributes

theorem edit_attributes (edited : writer.edit devices deviceId seen = some written) :
    written.attributes = writer.attributesAfter ((seen.map (·.attributes)).getD ∅) := by
  cases writer with
  | report now payload isPartial change =>
    cases edited
    rw [(withCanonicalName_kept devices _).2.1]
    cases seen <;> rfl
  | update now change mutate =>
    obtain ⟨device, rfl, rfl⟩ := Option.map_eq_some_iff.mp edited
    rfl
  | room edit =>
    obtain ⟨device, rfl, applied⟩ := Option.bind_eq_some_iff.mp edited
    obtain ⟨placement, _, rfl⟩ := apply_placed applied
    rfl

def Writer.placementAfter (deviceId : String) (placement : Placement) : Writer → Placement
  | .room edit => (edit.place deviceId placement).getD placement
  | _ => placement

theorem edit_placement (keyed : ∀ device, seen = some device → device.deviceId = deviceId)
    (edited : writer.edit devices deviceId seen = some written) :
    written.placement =
      writer.placementAfter deviceId ((seen.map (·.placement)).getD ⟨none, none⟩) := by
  cases writer with
  | report now payload isPartial change =>
    cases edited
    unfold withCanonicalName
    cases seen <;> split <;> rfl
  | update now change mutate =>
    obtain ⟨device, rfl, rfl⟩ := Option.map_eq_some_iff.mp edited
    rfl
  | room edit =>
    obtain ⟨device, rfl, applied⟩ := Option.bind_eq_some_iff.mp edited
    obtain ⟨placement, placed, rfl⟩ := apply_placed applied
    rw [keyed device rfl] at placed
    simp only [Writer.placementAfter, Option.map_some, Option.getD_some, placed]
    rfl

end Edit

theorem attributesReported_cons (store : DeviceStore) (write : Written) (log : List Written)
    (deviceId : String) :
    attributesReported store deviceId (write :: log) =
      if write.deviceId = deviceId then
        write.writer.attributesAfter (attributesReported store deviceId log)
      else attributesReported store deviceId log := by
  simp only [attributesReported]
  split
  · cases write.writer <;> rfl
  · rfl

theorem roomGiven_cons (store : DeviceStore) (write : Written) (log : List Written)
    (deviceId : String) :
    roomGiven store deviceId (write :: log) =
      if write.deviceId = deviceId then
        write.writer.placementAfter deviceId (roomGiven store deviceId log)
      else roomGiven store deviceId log := by
  simp only [roomGiven]
  split
  · cases write.writer <;> rfl
  · rfl

/-- What the log says of every device, known to the store or not. -/
structure Accounted (store : DeviceStore) (records : Records) : Prop where
  attributes : ∀ deviceId, ((records.store.getDevice deviceId).map (·.attributes)).getD ∅ =
    attributesReported store deviceId records.log
  room : ∀ deviceId, ((records.store.getDevice deviceId).map (·.placement)).getD ⟨none, none⟩ =
    roomGiven store deviceId records.log
  others : ∀ deviceId, records.store.getDevice deviceId = serialRecord store deviceId records.log

theorem Accounted.nothingLost {store : DeviceStore} {records : Records}
    (accounted : Accounted store records) : NothingLost store records := by
  refine ⟨?_, ?_, accounted.others⟩
  · intro deviceId device found
    rw [← accounted.attributes deviceId, found]
    rfl
  · intro deviceId device found
    rw [← accounted.room deviceId, found]
    rfl

theorem accounted_start (store : DeviceStore) : Accounted store (Records.start store) :=
  ⟨fun _ => rfl, fun _ => rfl, fun _ => rfl⟩

theorem accounted_schedule {store : DeviceStore} {records : Records} (task : Nat)
    (pending : List Pending) (accounted : Accounted store records) :
    Accounted store (records.schedule task pending) :=
  ⟨accounted.attributes, accounted.room, accounted.others⟩

/-- A write of a record that is still the one it was read as. -/
theorem accounted_upsert {store : DeviceStore} {records : Records} {pending : Pending}
    {devices : List DeviceState} {device : DeviceState} (accounted : Accounted store records)
    (undisturbed : records.store.getDevice pending.deviceId = pending.seen)
    (edited : pending.writer.edit devices pending.deviceId pending.seen = some device) :
    Accounted store { records with
      store := records.store.upsert device
      log := ⟨pending.deviceId, pending.writer, devices⟩ :: records.log } := by
  have keyed : ∀ seen, pending.seen = some seen → seen.deviceId = pending.deviceId := by
    intro seen isSeen
    rw [isSeen] at undisturbed
    exact records.store.keyed pending.deviceId seen undisturbed
  have idEq := edit_deviceId keyed edited
  refine ⟨?_, ?_, ?_⟩
  · intro deviceId
    simp only [getDevice_upsert, idEq, attributesReported_cons]
    split
    · rename_i same
      rw [← same, ← accounted.attributes, undisturbed]
      exact edit_attributes edited
    · exact accounted.attributes deviceId
  · intro deviceId
    simp only [getDevice_upsert, idEq, roomGiven_cons]
    split
    · rename_i same
      rw [← same, ← accounted.room, undisturbed]
      exact edit_placement keyed edited
    · exact accounted.room deviceId
  · intro deviceId
    simp only [getDevice_upsert, idEq, serialRecord]
    split
    · rename_i same
      rw [← same, ← accounted.others, undisturbed, edited]
      rfl
    · exact accounted.others deviceId

theorem accounted_step {store : DeviceStore} (records : Records) (input : RecordsInput)
    (accounted : Accounted store records) (undisturbed : Undisturbed records input) :
    Accounted store (records.step input) := by
  cases input with
  | readReport task deviceId now payload isPartial change =>
    simp only [Records.step]
    split
    · exact accounted
    · exact accounted_schedule task _ accounted
  | readUpdate task deviceId now change mutate =>
    simp only [Records.step]
    split
    · exact accounted
    · exact accounted_schedule task _ accounted
  | readRoom task edit =>
    simp only [Records.step]
    split
    · exact accounted
    · exact ⟨accounted.attributes, accounted.room, accounted.others⟩
  | write task devices =>
    simp only [Records.step]
    cases queue : records.tasks task with
    | nil => exact accounted
    | cons pending later =>
      have unchanged : records.store.getDevice pending.deviceId = pending.seen :=
        undisturbed pending (by simp [queue])
      dsimp only
      cases edited : pending.writer.edit devices pending.deviceId pending.seen with
      | none => exact accounted_schedule task later accounted
      | some device =>
        exact accounted_schedule task later (accounted_upsert accounted unchanged edited)
  | fail task => exact accounted_schedule task [] accounted

/-- In every interleaving of reports, updates and room operations in which no
record is written between a writer's reading it and writing it, every state has
the attributes that were reported, the rooms that were given, and nothing else
undone. -/
theorem nothing_lost_of_undisturbed (store : DeviceStore) (inputs : List RecordsInput)
    (undisturbed : Runs.EachStep Records.step Undisturbed (Records.start store) inputs) :
    Runs.Always Records.step (NothingLost store) (Records.start store) inputs :=
  (Runs.invariant (Accounted store) accounted_step (accounted_start store) undisturbed).mono
    fun _ accounted => accounted.nothingLost

/-- A lamp that is off and in no room, and someone's den. -/
def unplacedLamp : DeviceStore :=
  DeviceStore.upsert ⟨∅, [], DeviceStore.none_keyed⟩
    { DeviceState.new "lamp" "lamp" "hue" 0 with
      canonicalName := some "lamp"
      attributes := Std.ExtTreeMap.ofList [("on", Json.bool false)] }

def den : Area := ⟨⟨1⟩, "Den", "den", [], .person, []⟩

def lampOn : AttrMap := Std.ExtTreeMap.ofList [("on", Json.bool true)]

def readLampOn : RecordsInput := .readReport 0 "lamp" 5 lampOn false (.unknown 5)

def readLampIntoDen : RecordsInput := .readRoom 1 (.setDevices den ["lamp"])

/-- The lamp reports that it is on while it is being put in the den. Whichever
writes last undoes what the other wrote. -/
theorem stale_writes_lost :
    let roomFirst := [readLampOn, readLampIntoDen, .write 1 [], .write 0 []]
    let reportFirst := [readLampOn, readLampIntoDen, .write 0 [], .write 1 []]
    ¬ NothingLost unplacedLamp (roomFirst.foldl Records.step (Records.start unplacedLamp)) ∧
    ¬ NothingLost unplacedLamp (reportFirst.foldl Records.step (Records.start unplacedLamp)) := by
  intro roomFirst reportFirst
  let afterRoom := roomFirst.foldl Records.step (Records.start unplacedLamp)
  let afterReport := reportFirst.foldl Records.step (Records.start unplacedLamp)
  have unplaced : (afterRoom.store.getDevice "lamp").map (·.placement) = some ⟨none, none⟩ ∧
      roomGiven unplacedLamp "lamp" afterRoom.log = ⟨none, some "den"⟩ := by
    decide
  have off : (afterReport.store.getDevice "lamp").map (·.attributes["on"]?) =
        some (some (.bool false)) ∧
      (attributesReported unplacedLamp "lamp" afterReport.log)["on"]? = some (.bool true) := by
    decide
  constructor
  · intro kept
    obtain ⟨device, found, placement⟩ := Option.map_eq_some_iff.mp unplaced.1
    have given := kept.room "lamp" device found
    rw [placement, unplaced.2] at given
    cases given
  · intro kept
    obtain ⟨device, found, reading⟩ := Option.map_eq_some_iff.mp off.1
    have reported := kept.attributes "lamp" device found
    rw [reported, off.2] at reading
    cases reading

/-- The same two, the report written before the room operation reads. -/
theorem lamp_reports_then_moves :
    let inputs := [readLampOn, .write 0 [], readLampIntoDen, .write 1 []]
    Runs.EachStep Records.step Undisturbed (Records.start unplacedLamp) inputs ∧
    Runs.Always Records.step (NothingLost unplacedLamp) (Records.start unplacedLamp) inputs := by
  intro inputs
  have undisturbed : Runs.EachStep Records.step Undisturbed (Records.start unplacedLamp) inputs := by
    refine ⟨trivial, ?_, trivial, ?_, trivial⟩
    · intro pending member
      cases member
      rfl
    · intro pending member
      cases member
      rfl
  exact ⟨undisturbed, nothing_lost_of_undisturbed unplacedLamp inputs undisturbed⟩

end HomeCore
