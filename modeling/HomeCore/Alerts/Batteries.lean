import HomeCore.Alerts.Ignores
import HomeCore.Alerts.IdsProofs
import HomeCore.Hysteresis
import HomeCore.Runs

/-! Low batteries, seen twice: the watcher keeps a latch for each device that readings switch, and
the alert engine works the low ones out from what the devices last said and its own last set. -/
namespace HomeCore.Alerts

deriving instance DecidableEq for BatteryEdge

structure BatteryRecord where
  inLow : Bool
  lastPct : Rat
  lastChanged : DateTime

/-- `BatteryStore::evaluate`: the next record, and the edge if the latch turned. -/
def evaluateBattery (words : Words) (prior : Option BatteryRecord) (pct threshold recoverBand : Rat)
    (now : DateTime) : BatteryRecord × Option BatteryEdge :=
  let wasLow := (prior.map (·.inLow)).getD false
  let recoverAt := words.add threshold recoverBand
  let (nowLow, edge) :=
    if wasLow then
      -- only clear when firmly above the recover band
      if recoverAt ≤ pct then (false, some .recovered) else (true, none)
    else if pct ≤ threshold then (true, some .wentLow)
    else (false, none)
  (⟨nowLow, pct, now⟩, edge)

/-- What the watcher reads of a device: the first of the three that is there, if it is a number. -/
def watchedPct (current : AttrMap) : Option Rat :=
  (current["battery_pct"]? <|> current["battery"]? <|> current["battery_level"]?).bind Json.asF64

def touchesBattery (changed : List String) : Bool :=
  changed.any fun k => k == "battery" || k == "battery_pct" || k == "battery_level"

/-- The devices and their latches as they are stored, the thresholds, and the set of the alert
engine's last pass with its memory. `edges` is what the watcher published of a device since it was
last removed. -/
structure Batteries where
  devices : DeviceStore
  battery : BatteryConfig
  records : Std.ExtTreeMap String BatteryRecord
  active : AlertMap
  memory : Memory
  edges : String → List BatteryEdge

inductive BatteryInput where
  /-- A report left the device so, and the bus hears of it. -/
  | report (device : DeviceState) (now : DateTime)
  | configure (battery : BatteryConfig)
  | remove (deviceId : String)
  | restart
  /-- A pass, with all else that it reads. -/
  | pass (house : House)

namespace Batteries

def start (battery : BatteryConfig) : Batteries where
  devices := ⟨∅, [], DeviceStore.none_keyed⟩
  battery := battery
  records := ∅
  active := ∅
  memory := ⟨∅, ∅⟩
  edges := fun _ => []

def latched (s : Batteries) (deviceId : String) : Bool := (s.records[deviceId]?.map (·.inLow)).getD false

/-- The watcher on a `DeviceStateChanged`. -/
def watch (words : Words) (s : Batteries) (deviceId : String) (current : AttrMap) (changed : List String)
    (now : DateTime) : Batteries :=
  if touchesBattery changed then
    match watchedPct current with
    | none => s
    | some pct =>
      let (record, edge) := evaluateBattery words s.records[deviceId]? pct s.battery.thresholdPct
        s.battery.recoverBandPct now
      { s with
        records := s.records.insert deviceId record
        edges := Function.update s.edges deviceId (s.edges deviceId ++ edge.toList) }
  else s

def report (words : Words) (s : Batteries) (device : DeviceState) (now : DateTime) : Batteries :=
  let previous := ((s.devices.getDevice device.deviceId).map (·.attributes)).getD ∅
  { s with devices := s.devices.upsert device }.watch words device.deviceId device.attributes
    (changedKeys previous device.attributes) now

/-- `delete_device`, which forgets the latch of a device that was there. -/
def remove (s : Batteries) (deviceId : String) : Batteries :=
  if (s.devices.getDevice deviceId).isSome then
    { s with
      devices := s.devices.delete deviceId
      records := s.records.erase deviceId
      edges := Function.update s.edges deviceId [] }
  else s

/-- The house as a pass sees it. -/
def seenIn (s : Batteries) (house : House) : House :=
  { house with devices := s.devices, battery := s.battery }

def pass (words : Words) (s : Batteries) (house : House) : Batteries :=
  let (memory, active) := workOut words (s.seenIn house) s.active s.memory
  { s with active := active, memory := memory }

def step (words : Words) (s : Batteries) : BatteryInput → Batteries
  | .report device now => s.report words device now
  | .configure battery => { s with battery := battery }
  | .remove deviceId => s.remove deviceId
  | .restart => { s with active := ∅, memory := ⟨∅, ∅⟩ }
  | .pass house => s.pass words house

def lowId (deviceId : String) : String := AlertKind.lowBattery.asStr ++ ":" ++ deviceId

/-- The edges of every device go by turns, first low, and its latch is where the last one left it. -/
def EdgesAlternate (s : Batteries) : Prop :=
  ∀ deviceId, Hysteresis.Logged .wentLow (s.edges deviceId) (s.latched deviceId)

section Device
variable (deviceId : String)

/-- Nothing that is ignored is the device's low battery. -/
def HidesNone (house : House) : Prop :=
  ∀ ignore ∈ house.ignores, ∀ alert : Alert, alert.kind = .lowBattery → alert.deviceId = deviceId →
    ignore.covers alert house.now = false

/-- Whatever else a pass sees, it finds the device's battery low where that is latched. -/
def Agree (words : Words) (s : Batteries) : Prop :=
  ∀ house, HidesNone deviceId house →
    (s.pass words house).active.contains (lowId deviceId) = s.latched deviceId

/-- The device gives its level as a number, under the first of the three keys that it has, and
does not call itself low; and a pass hides no low battery of it. -/
def Plain : BatteryInput → Prop
  | .report device _ => device.deviceId = deviceId →
      device.attributes["battery_low"]? ≠ some (.bool true) ∧ watchedPct device.attributes = batteryPct device
  | .pass house => HidesNone deviceId house
  | _ => True

/-- A reading of the device between the thresholds comes when the last pass saw it as its latch is, and
one that counts as low and as recovered comes when the latch is off; its level only goes missing while
the latch is off. Changed thresholds do not put its last reading on the other side of where its latch
is, and at a restart it does not read above the threshold where it is latched. -/
def Steady (words : Words) (s : Batteries) : BatteryInput → Prop
  | .report device _ =>
    let previous := ((s.devices.getDevice deviceId).map (·.attributes)).getD ∅
    let recoverAt := words.add s.battery.thresholdPct s.battery.recoverBandPct
    device.deviceId = deviceId → touchesBattery (changedKeys previous device.attributes) = true →
      match batteryPct device with
      | none => s.latched deviceId = false
      | some pct =>
        (s.latched deviceId = s.active.contains (lowId deviceId) ∨
          pct ≤ s.battery.thresholdPct ∨ recoverAt ≤ pct) ∧
        (s.latched deviceId = true → pct ≤ s.battery.thresholdPct → pct < recoverAt)
  | .configure battery => ∀ device, s.devices.getDevice deviceId = some device →
      ∀ pct ∈ batteryPct device, s.latched deviceId =
        Hysteresis.answer battery.thresholdPct (words.add battery.thresholdPct battery.recoverBandPct)
          (s.active.contains (lowId deviceId)) pct
  | .restart => ∀ device, s.devices.getDevice deviceId = some device →
      ∀ pct ∈ batteryPct device, s.latched deviceId = true → pct ≤ s.battery.thresholdPct
  | _ => True

end Device
end Batteries
end HomeCore.Alerts
