import HomeCore.Devices.Rooms
import HomeCore.Runs
import Mathlib.Data.List.Sort

/-! The operations on rooms, each made whole under the one lock: the migration of
a store from before rooms had slugs, the rooms that bridges and people name, and
renaming, deleting, merging and filling a room. -/
namespace HomeCore

namespace AreaStore

def getArea (store : AreaStore) (id : Uuid) : Option Area := store.areas[id.text]?

def delete (store : AreaStore) (id : Uuid) : AreaStore where
  areas := store.areas.erase id.text
  keyed := by
    intro key found lookup
    rw [Std.ExtTreeMap.getElem?_erase] at lookup
    split at lookup
    · cases lookup
    · exact store.keyed key found lookup

end AreaStore

/-- The two tables that room operations read and write. -/
structure Household where
  areas : AreaStore
  devices : DeviceStore

inductive RoomError where
  | emptyName
  | notFound
  | sameRoom
  /-- Another room already answers to the name. -/
  | taken (room : Area)
  | store (error : String)

inductive RoomEvent where
  | changed (room : Area)
  | removed (roomId : Uuid) (mergedInto : Option Uuid)

/-- What an operation answers, and what it puts on the bus. -/
structure RoomAnswer (α : Type) where
  result : Except RoomError α
  events : List RoomEvent

def RoomEdit.write (edit : RoomEdit) (store : DeviceStore) (device : DeviceState) : DeviceStore :=
  match edit.apply device with
  | some moved => store.upsert moved
  | none => store

/-- The loop over the devices as they were listed, each moved one written back. -/
def RoomEdit.run (edit : RoomEdit) (store : DeviceStore) : DeviceStore :=
  store.listDevices.foldl edit.write store

namespace Rooms

def withDevices (room : Area) (devices : List DeviceState) : Area :=
  { room with
    deviceIds := ((devices.filter fun device => isAt room device.placement.effectiveArea).map
      (·.deviceId)).insertionSort (· ≤ ·) }

/-- One room, with the devices in it. -/
def get (house : Household) (id : Uuid) : Option Area :=
  ((house.areas.listAreas.filter (·.slug ≠ "")).map
    (withDevices · house.devices.listDevices)).find? (·.id == id)

def announce (house : Household) (id : Uuid) : RoomAnswer Area :=
  match get house id with
  | some room => ⟨.ok room, [.changed room]⟩
  | none => ⟨.error (.store s!"room {id.text} vanished while being saved"), []⟩

/-! ## The migration -/

structure Migrated where
  /-- Stored rooms that were only a slug and now have a name. -/
  named : Nat
  /-- Rooms that existed only because a device said so, now recorded. -/
  recorded : Nat
  deriving DecidableEq

structure Migration where
  store : AreaStore
  /-- The rooms met so far. -/
  rooms : List Area
  done : Migrated

def guessed (id : Uuid) (slug : String) (aliases : List String) : Area where
  id := id
  name := titleCase slug
  slug := slug
  aliases := aliases
  namedBy := .guessed
  deviceIds := []

def Migration.room (legacyId : String → Uuid) (migration : Migration) (room : Area) : Migration :=
  if room.slug ≠ "" then { migration with rooms := migration.rooms ++ [room] }
  else
    let s := slug room.name
    if s = "" || (roomFor migration.rooms s).isSome then
      { migration with store := migration.store.delete room.id }
    else
      let named := guessed (legacyId s) s room.aliases
      let stored := migration.store.upsert named
      { store := if named.id ≠ room.id then stored.delete room.id else stored
        rooms := migration.rooms ++ [named]
        done := { migration.done with named := migration.done.named + 1 } }

/-- A field of a device that names its room. The random ids are drawn in turn. -/
def Migration.value (legacyId : String → Uuid) (random : Nat → Uuid) (migration : Migration)
    (value : Option String) : Migration :=
  match (value.map slug).filter (· ≠ "") with
  | none => migration
  | some s =>
    if (roomFor migration.rooms s).isSome then migration
    else
      let room := guessed (newId legacyId (random migration.done.recorded) s migration.rooms) s []
      { store := migration.store.upsert room
        rooms := migration.rooms ++ [room]
        done := { migration.done with recorded := migration.done.recorded + 1 } }

/-- The two loops: over the rooms as they were listed, then over what devices say. -/
def migration (legacyId : String → Uuid) (random : Nat → Uuid) (house : Household) : Migration :=
  let named := house.areas.listAreas.foldl (Migration.room legacyId) ⟨house.areas, [], ⟨0, 0⟩⟩
  let values := house.devices.listDevices.flatMap fun device => [device.area, device.areaOverride]
  values.foldl (Migration.value legacyId random) named

/-- Give every room a record, a name and a slug. -/
def migrate (legacyId : String → Uuid) (random : Nat → Uuid) (house : Household) :
    Household × Migrated :=
  let recorded := migration legacyId random house
  (⟨recorded.store, house.devices⟩, recorded.done)

/-! ## The operations -/

/-- Make a room, or give back the one the house has by that name, with `false`. -/
def create (legacyId : String → Uuid) (random : Uuid) (house : Household) (typed : String) :
    Household × RoomAnswer (Area × Bool) :=
  let s := slug typed
  if s = "" then (house, ⟨.error .emptyName, []⟩)
  else match roomFor house.areas.listAreas s with
    | some room => (house, ⟨.ok (withDevices room house.devices.listDevices, false), []⟩)
    | none =>
      let room : Area :=
        { id := newId legacyId random s house.areas.listAreas
          name := String.ofList (trim typed.toList)
          slug := s
          aliases := []
          namedBy := .person
          deviceIds := [] }
      let after := { house with areas := house.areas.upsert room }
      let announced := announce after room.id
      (after, ⟨announced.result.map (·, true), announced.events⟩)

/-- The old slug becomes an alias, unless it is one, and the new one ceases to be. -/
def renamed (room : Area) (typed s : String) : Area :=
  let named := { room with name := String.ofList (trim typed.toList), namedBy := .person }
  if s ≠ room.slug then
    let kept := room.aliases.filter (· ≠ s)
    { named with slug := s, aliases := if kept.contains room.slug then kept else kept ++ [room.slug] }
  else named

def rename (house : Household) (id : Uuid) (typed : String) : Household × RoomAnswer Area :=
  let s := slug typed
  if s = "" then (house, ⟨.error .emptyName, []⟩)
  else match house.areas.listAreas.find? (·.id == id) with
    | none => (house, ⟨.error .notFound, []⟩)
    | some before =>
      match house.areas.listAreas.find? (fun room => room.id != id && room.answersTo s) with
      | some other => (house, ⟨.error (.taken (withDevices other house.devices.listDevices)), []⟩)
      | none =>
        let after : Household :=
          { areas := house.areas.upsert (renamed before typed s)
            devices := if s ≠ before.slug then (RoomEdit.repoint before s).run house.devices
              else house.devices }
        (after, announce after id)

/-- Delete a room. Its devices are left with no room. -/
def delete (house : Household) (id : Uuid) : Household × RoomAnswer Unit :=
  match house.areas.getArea id with
  | none => (house, ⟨.error .notFound, []⟩)
  | some room =>
    (⟨house.areas.delete id, (RoomEdit.delete room).run house.devices⟩,
      ⟨.ok (), [.removed id none]⟩)

/-- The target with one more alias, unless it answers to the slug. -/
def aliased (target : Area) (s : String) : Area :=
  if s ≠ target.slug && !target.aliases.contains s then
    { target with aliases := target.aliases ++ [s] }
  else target

/-- Fold one room into another: its devices move, and every slug it answered to
answers to the other room from now on. -/
def merge (house : Household) (id into : Uuid) : Household × RoomAnswer Area :=
  if id = into then (house, ⟨.error .sameRoom, []⟩)
  else match house.areas.getArea id, house.areas.getArea into with
    | some room, some target =>
      let merged := (room.slug :: room.aliases).foldl aliased target
      let after : Household :=
        { areas := (house.areas.upsert merged).delete id
          devices := (RoomEdit.repoint room target.slug).run house.devices }
      let announced := announce after into
      (after, { announced with events := .removed id (some into) :: announced.events })
    | _, _ => (house, ⟨.error .notFound, []⟩)

/-- Make `deviceIds` exactly the devices a person has put in this room. -/
def setDevices (house : Household) (id : Uuid) (deviceIds : List String) :
    Household × RoomAnswer Area :=
  match house.areas.getArea id with
  | none => (house, ⟨.error .notFound, []⟩)
  | some room =>
    let after := { house with devices := (RoomEdit.setDevices room deviceIds).run house.devices }
    (after, announce after id)

end Rooms

inductive RoomOperation where
  | placeReported (random : Uuid) (reported : String)
  | create (random : Uuid) (typed : String)
  | rename (id : Uuid) (typed : String)
  | delete (id : Uuid)
  | merge (id into : Uuid)
  | setDevices (id : Uuid) (deviceIds : List String)
  deriving DecidableEq

def Household.step (legacyId : String → Uuid) (house : Household) : RoomOperation → Household
  | .placeReported random reported =>
    { house with areas := (Rooms.placeReported legacyId random house.areas reported).1 }
  | .create random typed => (Rooms.create legacyId random house typed).1
  | .rename id typed => (Rooms.rename house id typed).1
  | .delete id => (Rooms.delete house id).1
  | .merge id into => (Rooms.merge house id into).1
  | .setDevices id deviceIds => (Rooms.setDevices house id deviceIds).1

/-! ## What names mean -/

/-- The slug of a room and its aliases. -/
def Area.names (room : Area) : List String := room.slug :: room.aliases

structure RoomsApart (house : Household) : Prop where
  apart : ∀ a ∈ house.areas.listAreas, ∀ b ∈ house.areas.listAreas, a ≠ b →
    ∀ name ∈ a.names, name ∉ b.names
  own : ∀ room ∈ house.areas.listAreas, room.slug ∉ room.aliases
  resolved : ∀ name, ∀ a ∈ house.areas.listAreas, ∀ b ∈ house.areas.listAreas,
    a.answersTo name = true → b.answersTo name = true → a = b

/-- The listing is one the migration names apart: the rooms that have slugs are
apart already, those that have none have no alias either, and no room without a
slug stands before one that answers to the slug it will get, unless their ids
will be the same. -/
structure Migratable (legacyId : String → Uuid) (rooms : List Area) : Prop where
  apart : ∀ a ∈ rooms, ∀ b ∈ rooms, a.slug ≠ "" → b.slug ≠ "" → a ≠ b →
    ∀ name ∈ a.names, name ∉ b.names
  own : ∀ room ∈ rooms, room.slug ≠ "" → room.slug ∉ room.aliases
  bare : ∀ room ∈ rooms, room.slug = "" → room.aliases = []
  foreseen : rooms.Pairwise fun earlier later => earlier.slug = "" → later.slug ≠ "" →
    later.answersTo (Rooms.slug earlier.name) = true →
      later.id = legacyId (Rooms.slug earlier.name)

/-- The room that the room with this id becomes part of: none once deleted. -/
def RoomOperation.follow (house : Household) (id : Uuid) : RoomOperation → Option Uuid
  | .delete removed => if removed = id then none else some id
  | .merge removed into =>
    if removed = id ∧ removed ≠ into ∧ (house.areas.getArea into).isSome then some into else some id
  | _ => some id

/-- The same over a run. -/
def Household.follow (legacyId : String → Uuid) (house : Household) (id : Uuid) :
    List RoomOperation → Option Uuid
  | [] => some id
  | operation :: rest =>
    (operation.follow house id).bind fun next => (house.step legacyId operation).follow legacyId next rest

/-- The device counts as in the room. -/
def Household.holds (house : Household) (id : Uuid) (deviceId : String) : Prop :=
  ∃ device room, house.devices.getDevice deviceId = some device ∧
    house.areas.getArea id = some room ∧ Rooms.isAt room device.placement.effectiveArea = true

/-- A random id is no room's yet. -/
def FreshId (house : Household) : RoomOperation → Prop
  | .placeReported random _ => house.areas.getArea random = none
  | .create random _ => house.areas.getArea random = none
  | _ => True

def RoomOperation.isSetDevices : RoomOperation → Bool
  | .setDevices _ _ => true
  | _ => false

end HomeCore
