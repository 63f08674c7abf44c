import HomeCore.Devices.RoomOperations
import HomeCore.Glue.Helpers

/-! Where devices get their canonical names: from the bridge's messages, when a
helper is created, when the names that are missing are filled in at the start, and
when a person edits the device. -/
namespace HomeCore

/-! ## The names that are missing -/

/-- The loop of `backfill_missing_canonical_names`: each device in turn, with the
names that those before it were given. -/
def backfillFrom (store : DeviceStore) (named : List DeviceState) : List DeviceState → DeviceStore × Nat
  | [] => (store, 0)
  | device :: rest =>
    if device.canonicalName.isSome then backfillFrom store (named ++ [device]) rest
    else
      let device := withCanonicalName (named ++ device :: rest) device
      let (store, updated) := backfillFrom (store.upsert device) (named ++ [device]) rest
      (store, updated + 1)

def backfillMissingCanonicalNames (store : DeviceStore) : DeviceStore × Nat :=
  backfillFrom store [] store.listDevices

/-! ## Editing a device -/

/-- A typed text; a blank one says nothing. -/
def typedText (value : String) : Option String :=
  some (String.ofList (trim value.toList)) |>.filter (· ≠ "")

/-- A field that is set to a text and cleared by null. -/
def setText (key : String) (body : Json) (device : DeviceState)
    (write : Option String → DeviceState) : Except String DeviceState :=
  match body.get key with
  | none => .ok device
  | some .null => .ok (write none)
  | some (.str value) => .ok (write (typedText value))
  | some _ => .error s!"{key} must be a string or null"

/-- The label that the plugin already gives is no override. -/
def setName (body : Json) (device : DeviceState) : Except String DeviceState :=
  setText "name" body device fun name =>
    { device with nameOverride := name.filter (· ≠ device.name) }

def setStatusIcon (body : Json) (device : DeviceState) : Except String DeviceState :=
  setText "status_icon" body device fun icon => { device with statusIcon := icon }

/-- Anything but a text, and null, is passed over. -/
def setUiHint (body : Json) (device : DeviceState) : DeviceState :=
  match body.get "ui_hint" with
  | some .null => { device with uiHint := none }
  | some (.str value) => { device with uiHint := typedText value }
  | _ => device

def setButtonName (kept : Std.ExtTreeMap String String) (button : String) (value : Json) :
    Std.ExtTreeMap String String :=
  match value.asStr.bind typedText with
  | some name => kept.insert button name
  | none => kept.erase button

def setButtonNames (body : Json) (device : DeviceState) : DeviceState :=
  match body.get "button_names" with
  | some .null => { device with buttonNames := none }
  | some (.obj fields) =>
    let kept := (Std.ExtTreeMap.ofList fields).foldl setButtonName (device.buttonNames.getD ∅)
    { device with buttonNames := if kept.isEmpty then none else some kept }
  | _ => device

/-- A device is never left without a canonical name. -/
def setCanonicalName (devices : List DeviceState) (body : Json) (device : DeviceState) :
    Except String DeviceState :=
  let settle (device : DeviceState) (requested : Option String) : Except String DeviceState :=
    (validateOrGenerateCanonicalName device devices requested).map fun name =>
      { device with canonicalName := some name }
  let generate (device : DeviceState) : Except String DeviceState :=
    if device.canonicalName.isNone then settle device none else .ok device
  match body.get "canonical_name" with
  | none => generate device
  | some .null => generate { device with canonicalName := none }
  | some (.str value) => settle device (some value)
  | some _ => .error "canonical_name must be a string or null"

inductive UpdateRefusal where
  | notFound
  | unprocessable (text : String)
  | store (error : RoomError)

section Edits
variable {Schema : Type} (legacyId : String → Uuid) (random : Uuid)

/-- A room that the house does not have is made, with the person's spelling. -/
def placeTyped (home : HomeStore Schema) (typed : String) :
    HomeStore Schema × Except RoomError (Option String) :=
  let (house, answer) := Rooms.create legacyId random ⟨home.areas, home.devices⟩ typed
  let home := { home with areas := house.areas }
  match answer.result with
  | .ok (room, _) => (home, .ok (some room.slug))
  | .error .emptyName => (home, .ok none)
  | .error other => (home, .error other)

/-- The room that the plugin already reports is no override. -/
def setArea (body : Json) (home : HomeStore Schema) (device : DeviceState) :
    HomeStore Schema × Except RoomError DeviceState :=
  let override (requested : Option String) : DeviceState :=
    { device with
      areaOverride := if requested.isSome && requested = device.area then none else requested }
  match body.get "area" with
  | none => (home, .ok device)
  | some (.str typed) =>
    let (home, placed) := placeTyped legacyId random home typed
    (home, placed.map override)
  | some _ => (home, .ok (override none))

/-- A room that was made stays where a later field is refused. -/
def updateDevice (home : HomeStore Schema) (deviceId : String) (body : Json) :
    HomeStore Schema × Except UpdateRefusal DeviceState :=
  match home.devices.getDevice deviceId with
  | none => (home, .error .notFound)
  | some device => match (setName body device).bind (setStatusIcon body) with
    | .error text => (home, .error (.unprocessable text))
    | .ok device => match setArea legacyId random body home device with
      | (placed, .error error) => (placed, .error (.store error))
      | (placed, .ok device) =>
        let device := setButtonNames body (setUiHint body device)
        match setCanonicalName home.devices.listDevices body device with
        | .error text => (placed, .error (.unprocessable text))
        | .ok device => ({ placed with devices := placed.devices.upsert device }, .ok device)

end Edits

/-! ## A run of everything that names devices -/

structure NamingEnv (Schema : Type) extends BridgeEnv Schema where
  /-- The schema of a helper, by its plugin and its device type. -/
  forDevice : String → Option String → Option Schema

inductive NamingInput (Schema : Type) where
  | message (now : DateTime) (random : Uuid) (message : BridgeMessage Schema)
  | createGlue (now : DateTime) (body : Glue.CreateGlueBody)
  | seedEntry (now : DateTime) (entry : Glue.GlueEntry)
  | backfill
  | update (random : Uuid) (deviceId : String) (body : Json)

def HomeStore.nameStep {Schema : Type} (env : NamingEnv Schema) (home : HomeStore Schema) :
    NamingInput Schema → HomeStore Schema
  | .message now random message => home.handle env.toBridgeEnv now random message
  | .createGlue now body => (Glue.createGlue env.forDevice now home body).1
  | .seedEntry now entry => Glue.seedEntry env.forDevice now home entry
  | .backfill => { home with devices := (backfillMissingCanonicalNames home.devices).1 }
  | .update random deviceId body => (updateDevice env.legacyId random home deviceId body).1

end HomeCore
