import HomeCore.Devices.Rooms
import HomeCore.Runs

/-! The writers of device records, with the awaits between them. Each reads a
record, edits its copy and later writes the whole copy back: a state report, an
update of a helper device or timer, and an operation on a room, which reads all
records at once and writes the ones it moves one after another. -/
namespace HomeCore

inductive Writer where
  | report (now : DateTime) (payload : AttrMap) (isPartial : Bool) (change : DeviceChange)
  /-- `apply_state_update`, and `set_state` of a timer, whose mutation inserts. -/
  | update (now : DateTime) (change : DeviceChange) (mutate : AttrMap → AttrMap)
  | room (edit : RoomEdit)

/-- The record a writer writes, from the one it has read. A report about an
unknown device starts a record; `devices` is what it finds in the store where it
has to settle a canonical name. -/
def Writer.edit (devices : List DeviceState) (deviceId : String) (seen : Option DeviceState) :
    Writer → Option DeviceState
  | .report now payload isPartial change =>
    let device := seen.getD (StateBridge.newDevice now deviceId)
    some (withCanonicalName devices (reportedDevice now device payload isPartial change))
  | .update now change mutate => seen.map fun device =>
    { device with
      attributes := mutate device.attributes
      lastSeen := now
      lastChange := some change }
  | .room edit => seen.bind fun device => edit.apply device

/-- A write that is yet to be made. -/
structure Pending where
  deviceId : String
  seen : Option DeviceState
  writer : Writer

/-- A write that has been made. -/
structure Written where
  deviceId : String
  writer : Writer
  devices : List DeviceState

structure Records where
  store : DeviceStore
  /-- What each task has yet to write, in order. -/
  tasks : Nat → List Pending
  /-- The task that holds the lock all room operations take. -/
  rooms : Option Nat
  /-- The newest first. -/
  log : List Written

inductive RecordsInput where
  | readReport (task : Nat) (deviceId : String) (now : DateTime) (payload : AttrMap)
      (isPartial : Bool) (change : DeviceChange)
  | readUpdate (task : Nat) (deviceId : String) (now : DateTime) (change : DeviceChange)
      (mutate : AttrMap → AttrMap)
  | readRoom (task : Nat) (edit : RoomEdit)
  | write (task : Nat) (devices : List DeviceState)
  /-- A call on the store fails, and the task with it. -/
  | fail (task : Nat)

namespace Records

def start (store : DeviceStore) : Records := ⟨store, fun _ => [], none, []⟩

def schedule (records : Records) (task : Nat) (pending : List Pending) : Records :=
  { records with
    tasks := fun other => if other = task then pending else records.tasks other
    rooms := if pending.isEmpty && records.rooms == some task then none else records.rooms }

def step (records : Records) : RecordsInput → Records
  | .readReport task deviceId now payload isPartial change =>
    let seen := records.store.getDevice deviceId
    if !(records.tasks task).isEmpty || (seen.isNone && records.store.isForgotten deviceId) then records
    else records.schedule task [⟨deviceId, seen, .report now payload isPartial change⟩]
  | .readUpdate task deviceId now change mutate =>
    let seen := records.store.getDevice deviceId
    if !(records.tasks task).isEmpty || seen.isNone then records
    else records.schedule task [⟨deviceId, seen, .update now change mutate⟩]
  | .readRoom task edit =>
    if !(records.tasks task).isEmpty || records.rooms.isSome then records
    else
      let moved := records.store.listDevices.filter fun device => (edit.apply device).isSome
      { records with rooms := some task }.schedule task
        (moved.map fun (device : DeviceState) => ⟨device.deviceId, some device, .room edit⟩)
  | .write task devices => match records.tasks task with
    | [] => records
    | pending :: later =>
      match pending.writer.edit devices pending.deviceId pending.seen with
      | none => records.schedule task later
      | some device => { records with
          store := records.store.upsert device
          log := ⟨pending.deviceId, pending.writer, devices⟩ :: records.log }.schedule task later
  | .fail task => records.schedule task []

end Records

/-! ## What must not be lost -/

/-- The record that the same writes give, each made on the record as it stands. -/
def serialRecord (store : DeviceStore) (deviceId : String) : List Written → Option DeviceState
  | [] => store.getDevice deviceId
  | write :: earlier =>
    let record := serialRecord store deviceId earlier
    if write.deviceId = deviceId then
      (write.writer.edit write.devices deviceId record).or record
    else record

/-- The attributes that the reports and updates among the writes give. -/
def attributesReported (store : DeviceStore) (deviceId : String) : List Written → AttrMap
  | [] => ((store.getDevice deviceId).map (·.attributes)).getD ∅
  | write :: earlier =>
    let attributes := attributesReported store deviceId earlier
    if write.deviceId = deviceId then
      match write.writer with
      | .report _ payload isPartial _ => reportedAttributes attributes payload isPartial
      | .update _ _ mutate => mutate attributes
      | .room _ => attributes
    else attributes

/-- Where the room operations among the writes put the device. -/
def roomGiven (store : DeviceStore) (deviceId : String) : List Written → Placement
  | [] => ((store.getDevice deviceId).map (·.placement)).getD ⟨none, none⟩
  | write :: earlier =>
    let placement := roomGiven store deviceId earlier
    if write.deviceId = deviceId then
      match write.writer with
      | .room edit => (edit.place deviceId placement).getD placement
      | _ => placement
    else placement

/-- The record holds what was reported and where it was put, and nothing that
was written before is undone. -/
structure NothingLost (store : DeviceStore) (records : Records) : Prop where
  attributes : ∀ deviceId device, records.store.getDevice deviceId = some device →
    device.attributes = attributesReported store deviceId records.log
  room : ∀ deviceId device, records.store.getDevice deviceId = some device →
    device.placement = roomGiven store deviceId records.log
  others : ∀ deviceId, records.store.getDevice deviceId = serialRecord store deviceId records.log

/-- No one has written the record since the writer about to write it read it. -/
def Undisturbed (records : Records) : RecordsInput → Prop
  | .write task _ => ∀ pending ∈ (records.tasks task).head?,
      records.store.getDevice pending.deviceId = pending.seen
  | _ => True

end HomeCore
