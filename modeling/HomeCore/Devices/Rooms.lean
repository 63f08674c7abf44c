import HomeCore.Devices.StateBridge

/-! Rooms: a record with the slugs that devices name it by, and what an edit of a
room does to the devices in it. -/
namespace HomeCore

inductive RoomNamedBy where
  | person
  | bridge
  | guessed
  deriving DecidableEq

structure Area where
  id : Uuid
  name : String
  slug : String
  aliases : List String
  namedBy : RoomNamedBy
  deviceIds : List String
  deriving DecidableEq

def Area.answersTo (room : Area) (slug : String) : Bool :=
  slug ≠ "" && (room.slug == slug || room.aliases.any (· == slug))

namespace Rooms

def slug (name : String) : String := normalizeNameSegment name

def titleWord : List Char → List Char
  | [] => []
  | first :: rest => first.toUpper :: rest

/-- A readable name guessed from a slug, whose letters are all ASCII. -/
def titleCase (slug : String) : String :=
  String.ofList (List.intercalate [' ']
    (((slug.toList.splitOn '_').filter (!·.isEmpty)).map titleWord))

def roomFor (rooms : List Area) (slug : String) : Option Area :=
  rooms.find? (·.answersTo slug)

def isAt (room : Area) (value : Option String) : Bool :=
  (value.map slug).any room.answersTo

end Rooms

/-- The table of rooms, by the text of the id each carries. -/
structure AreaStore where
  areas : Std.ExtTreeMap String Area
  keyed : ∀ (key : String) (room : Area), areas[key]? = some room → room.id.text = key

namespace AreaStore

theorem none_keyed (key : String) (room : Area)
    (found : (∅ : Std.ExtTreeMap String Area)[key]? = some room) : room.id.text = key := by
  simp at found

def listAreas (store : AreaStore) : List Area :=
  store.areas.toList.map (·.2)

def upsert (store : AreaStore) (room : Area) : AreaStore where
  areas := store.areas.insert room.id.text room
  keyed := by
    intro key found lookup
    rw [Std.ExtTreeMap.getElem?_insert] at lookup
    split at lookup
    · rename_i same
      cases lookup
      exact Std.LawfulEqCmp.eq_of_compare same
    · exact store.keyed key found lookup

end AreaStore

namespace Rooms

/-- The id that used to be derived from the slug while that is free, else a
random one. -/
def newId (legacyId : String → Uuid) (random : Uuid) (slug : String) (rooms : List Area) : Uuid :=
  if rooms.any (·.id == legacyId slug) then random else legacyId slug

/-- How a bridge spells the room; one that reports the slug is not spelling anything. -/
def spelling (reported : String) : Option String :=
  let spelled := String.ofList (trim reported.toList)
  if spelled ≠ slug reported then some spelled else none

/-- The table afterwards, the slug to store on the device, and whether the room
is announced. -/
def placeReported (legacyId : String → Uuid) (random : Uuid) (store : AreaStore)
    (reported : String) : AreaStore × Option String × Bool :=
  let s := slug reported
  if s = "" then (store, none, false)
  else match roomFor store.listAreas s with
    | some room =>
      let respell := room.namedBy == .guessed && room.slug == s
      match (spelling reported).filter fun _ => respell with
      | some name =>
        (store.upsert { room with name := name, namedBy := .bridge }, some room.slug, true)
      | none => (store, some room.slug, false)
    | none =>
      let room : Area :=
        { id := newId legacyId random s store.listAreas
          name := (spelling reported).getD (titleCase s)
          slug := s
          aliases := []
          namedBy := if (spelling reported).isSome then .bridge else .guessed
          deviceIds := [] }
      (store.upsert room, some s, true)

end Rooms

/-- The two fields of a device that name its room. -/
structure Placement where
  area : Option String
  areaOverride : Option String
  deriving DecidableEq

namespace Placement

/-- The user's override when set, otherwise what the plugin delivered. -/
def effectiveArea (placement : Placement) : Option String :=
  placement.areaOverride.or placement.area

/-- Which of the two point at `room`. -/
def pointsAt (placement : Placement) (room : Area) : Bool × Bool :=
  (Rooms.isAt room placement.area, Rooms.isAt room placement.areaOverride)

end Placement

def DeviceState.placement (device : DeviceState) : Placement :=
  ⟨device.area, device.areaOverride⟩

def DeviceState.placed (device : DeviceState) (placement : Placement) : DeviceState :=
  { device with area := placement.area, areaOverride := placement.areaOverride }

/-- What an operation on a room asks of each device in turn. -/
inductive RoomEdit where
  /-- Every device pointing at `room` moves onto `slug`. -/
  | repoint (room : Area) (slug : String)
  | delete (room : Area)
  | setDevices (room : Area) (wanted : List String)

/-- Where the edit puts a device, or none where its loop passes over it. -/
def RoomEdit.place (deviceId : String) (placement : Placement) : RoomEdit → Option Placement
  | .repoint room slug =>
    let (inArea, inOverride) := placement.pointsAt room
    if !inArea && !inOverride then none
    else some
      ⟨if inArea then some slug else placement.area,
        if inOverride then some slug else placement.areaOverride⟩
  | .delete room =>
    let (inArea, inOverride) := placement.pointsAt room
    if !inArea && !inOverride then none
    else some
      ⟨if inArea then none else placement.area, if inOverride then none else placement.areaOverride⟩
  | .setDevices room wanted =>
    let inRoom := Rooms.isAt room placement.effectiveArea
    let want := wanted.contains deviceId
    if want && !inRoom then some { placement with areaOverride := some room.slug }
    else if !want && inRoom then
      let (inArea, _) := placement.pointsAt room
      some ⟨if inArea then none else placement.area, none⟩
    else none

def RoomEdit.apply (device : DeviceState) (edit : RoomEdit) : Option DeviceState :=
  (edit.place device.deviceId device.placement).map device.placed

end HomeCore
