import HomeCore.Types.Json

/-! Device records and the provenance of their changes. -/
namespace HomeCore

/-- `DateTime<Utc>`, in nanoseconds since the epoch. -/
abbrev DateTime := Int

def second : Int := 1000000000

/-- A 128-bit identifier. -/
structure Uuid where
  bits : BitVec 128
  deriving DecidableEq, Repr

namespace Uuid

def isNil (id : Uuid) : Bool := id.bits == 0

def hexDigit (n : Nat) : Char :=
  if n < 10 then Char.ofNat (48 + n) else Char.ofNat (87 + n)

/-- The hyphenated lower-case form that `Display` writes. -/
def text (id : Uuid) : String :=
  let digits := (List.range 32).map fun i => hexDigit ((id.bits.toNat >>> (4 * (31 - i))) % 16)
  String.ofList (digits.take 8 ++ '-' :: (digits.drop 8).take 4 ++ '-' :: (digits.drop 12).take 4 ++
    '-' :: (digits.drop 16).take 4 ++ '-' :: digits.drop 20)

end Uuid

inductive DeviceChangeKind where
  | homecore
  | physical
  | external
  | unknown
  deriving DecidableEq, Repr

structure DeviceChange where
  changedAt : DateTime
  kind : DeviceChangeKind
  source : Option String
  actorId : Option String
  actorName : Option String
  correlationId : Option String
  deriving DecidableEq

def DeviceChange.unknown (now : DateTime) : DeviceChange :=
  ⟨now, .unknown, none, none, none, none⟩

structure DeviceState where
  deviceId : String
  canonicalName : Option String
  statusIcon : Option String
  name : String
  nameOverride : Option String
  pluginId : String
  area : Option String
  areaOverride : Option String
  deviceType : Option String
  uiHint : Option String
  attributesChangedAt : Std.ExtTreeMap String DateTime
  buttonNames : Option (Std.ExtTreeMap String String)
  manufacturer : Option String
  model : Option String
  swVersion : Option String
  parentDeviceId : Option String
  available : Bool
  attributes : AttrMap
  lastSeen : DateTime
  lastChange : Option DeviceChange

namespace DeviceState

def new (deviceId name pluginId : String) (now : DateTime) : DeviceState where
  deviceId := deviceId
  canonicalName := none
  statusIcon := none
  name := name
  nameOverride := none
  pluginId := pluginId
  area := none
  areaOverride := none
  deviceType := none
  uiHint := none
  attributesChangedAt := ∅
  buttonNames := none
  manufacturer := none
  model := none
  swVersion := none
  parentDeviceId := none
  available := false
  attributes := ∅
  lastSeen := now
  lastChange := none

/-- The label a person knows the device by: an override wins. -/
def effectiveName (device : DeviceState) : String :=
  device.nameOverride.getD device.name

end DeviceState
end HomeCore
