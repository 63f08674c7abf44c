import HomeCore.Types.Device
import HomeCore.Types.Text

/-! One thermostat as its settings have it, and the pure arithmetic of control: combining
readings, hysteresis, and the short-cycle guards. Temperatures are doubles, kept as the
rationals they stand for. -/
namespace HomeCore.Thermostat

/-! ## Numbers and times -/

/-- The power of two a double of this size is a multiple of, subnormals included. -/
def unitExponent (numerator denominator : Nat) : Int :=
  let guess : Int := (Nat.log2 numerator : Int) - Nat.log2 denominator
  let exponent := if numerator * 2 ^ (-guess).toNat < denominator * 2 ^ guess.toNat
    then guess - 1 else guess
  max (exponent - 52) (-1074)

/-- The nearest double, ties to the even significand. -/
def nearestDouble (q : Rat) : Rat :=
  let exponent := unitExponent q.num.natAbs q.den
  let numerator := q.num.natAbs * 2 ^ (-exponent).toNat
  let denominator := q.den * 2 ^ exponent.toNat
  let low := numerator / denominator
  let rest := numerator % denominator
  let significand := if 2 * rest < denominator then low
    else if denominator < 2 * rest then low + 1
    else low + low % 2
  q.num.sign * significand * 2 ^ exponent

/-- `TimeDelta::num_seconds`: whole seconds, towards zero. -/
def numSeconds (length : Int) : Int := length.tdiv second

def secs (count : Nat) : Int := count * second

/-! ## Settings -/

inductive Mode where
  | heat
  | cool
  | off
  deriving DecidableEq, Repr

def Mode.asStr : Mode → String
  | .heat => "heat"
  | .cool => "cool"
  | .off => "off"

inductive Kind where
  | ac
  | heater
  | fan
  deriving DecidableEq, Repr

inductive Aggregation where
  | average
  | min
  | max
  deriving DecidableEq, Repr

def Aggregation.parse : String → Option Aggregation
  | "average" => some .average
  | "min" => some .min
  | "max" => some .max
  | _ => none

inductive OnStale where
  | off
  | hold
  deriving DecidableEq, Repr

/-- One thermostat as the file has it; a field with `?` is one the file may leave out. -/
structure ThermostatEntry where
  id : String
  name : String
  sensorDeviceIds : List String
  sensorAttribute : String
  aggregation : Aggregation
  setpoint : Rat
  hysteresis : Rat
  mode : Mode
  kind? : Option Kind
  actuatorDeviceId : String
  actuatorOnCmd : Option Json
  actuatorOffCmd : Option Json
  minOnSecs : Nat
  minOffSecs : Nat
  maxRunSecs? : Option Nat
  sensorTimeoutSecs? : Option Nat
  onStale : Option OnStale
  overrideSecs? : Option Nat
  deriving DecidableEq

namespace Kind

/-- An entry without a kind is what its mode says. -/
def of (entry : ThermostatEntry) : Kind :=
  entry.kind?.getD (if entry.mode = .heat then .heater else .ac)

def modes : Kind → List Mode
  | .heater => [.heat, .off]
  | .ac | .fan => [.cool, .off]

def only : Kind → String
  | .ac => "An AC only cools"
  | .heater => "A heater only heats"
  | .fan => "A fan only runs when it is too warm"

def defaultMaxRunSecs : Kind → Nat
  | .heater => 4 * 3600
  | .ac | .fan => 0

end Kind

def maxHysteresis : Nat := 5

def maxGuardSecs : Nat := 3600

def maxRunLimitSecs : Nat := 24 * 3600

def minSensorTimeoutSecs : Nat := 60

def maxSensorTimeoutSecs : Nat := 24 * 3600

def defaultSensorTimeoutSecs : Nat := 2 * 3600

def maxOverrideSecs : Nat := 24 * 3600

def defaultOverrideSecs : Nat := 3600

namespace ThermostatEntry

def kind (entry : ThermostatEntry) : Kind := Kind.of entry

def sensorTimeoutSecs (entry : ThermostatEntry) : Nat :=
  max minSensorTimeoutSecs
    (min (entry.sensorTimeoutSecs?.getD defaultSensorTimeoutSecs) maxSensorTimeoutSecs)

def maxRunSecs (entry : ThermostatEntry) : Nat :=
  min (entry.maxRunSecs?.getD entry.kind.defaultMaxRunSecs) maxRunLimitSecs

def overrideSecs (entry : ThermostatEntry) : Nat :=
  min (entry.overrideSecs?.getD defaultOverrideSecs) maxOverrideSecs

def offWhenStale (entry : ThermostatEntry) : Bool := entry.onStale != some .hold

def deviceId (entry : ThermostatEntry) : String := "thermostat_" ++ entry.id

end ThermostatEntry

/-- What the standard library, chrono and serde make of numbers, times and entries. -/
structure Formats where
  showNumber : Rat → String
  /-- `DateTime::parse_from_rfc3339`. -/
  parseTime : String → Option DateTime
  /-- `serde_json::to_value`. -/
  writeEntry : ThermostatEntry → Json
  /-- `serde_json::from_value`. -/
  readEntry : Json → Option ThermostatEntry
  /-- The order in which a `HashSet` of these, made at this time, is gone through. -/
  hashOrder : DateTime → List String → List String
  mem_hashOrder {now : DateTime} {names : List String} {name : String} :
    name ∈ hashOrder now names ↔ name ∈ names

/-! ## What settings are refused -/

def fToCHalf (f : Rat) : Rat :=
  let halves := nearestDouble (nearestDouble (nearestDouble (nearestDouble (f - 32) * 5) / 9) * 2)
  -- `f64::round`: halfway cases away from zero.
  let whole : Int := if 0 ≤ halves then (halves + 1 / 2).floor else (halves - 1 / 2).ceil
  whole / 2

def setpointProblem (formats : Formats) (setpoint : Rat) : Option String :=
  let shown := formats.showNumber setpoint
  if -40 ≤ setpoint && setpoint ≤ 45 then none
  else if 46 ≤ setpoint && setpoint ≤ 110 then
    some s!"its target is {shown}, which looks like °F ({shown} °F is {formats.showNumber (fToCHalf setpoint)} °C) — thermostats keep °C, and {shown} °C would run without end"
  else some s!"its target {shown} is outside {formats.showNumber (-40)}–{formats.showNumber 45} °C"

/-- The id is a topic level and part of the device's id. -/
def idProblem (id : String) : Option String :=
  if id.isEmpty then some "it has no id"
  else if id.toList.all fun c => c.isAlphanum || c == '_' || c == '-' then none
  else some s!"its id \"{id}\" may hold only letters, digits, _ and - (no spaces, / + or #)"

/-- Why an entry can't run, if it can't. -/
def ThermostatEntry.problem (formats : Formats) (entry : ThermostatEntry) : Option String :=
  let modes := String.intercalate " or " (entry.kind.modes.map Mode.asStr)
  if let some problem := idProblem entry.id then some problem
  else if entry.mode ∉ entry.kind.modes then
    some s!"{entry.kind.only} — mode {entry.mode.asStr} isn't one it has ({modes})"
  else if entry.hysteresis < 0 then some "the swing (hysteresis) must be 0 or more"
  else if let some problem := setpointProblem formats entry.setpoint then some problem
  else if entry.mode ≠ .off && entry.sensorDeviceIds.isEmpty then
    some s!"it is set to {entry.mode.asStr} but reads no sensor — add one under Sensors"
  else none

/-! ## Control -/

/-- Readings combined; none of no readings. -/
def aggregate (values : List Rat) (mode : Aggregation) : Option Rat :=
  if values.isEmpty then none
  else match mode with
    | .min => values.foldl (fun acc v => some (acc.elim v fun a => min a v)) none
    | .max => values.foldl (fun acc v => some (acc.elim v fun a => max a v)) none
    | .average =>
      some (nearestDouble (values.foldl (fun sum v => nearestDouble (sum + v)) 0 / values.length))

inductive Call where
  | heat
  | cool
  | idle
  deriving DecidableEq

/-- The call a mode runs in. -/
def Mode.call : Mode → Call
  | .heat => .heat
  | .cool => .cool
  | .off => .idle

/-- The prior call keeps it where it is within the swing. -/
def computeCallFor (current setpoint hysteresis : Rat) (mode : Mode) (prevCall : Call) : Call :=
  let half := max (nearestDouble (hysteresis / 2)) 0
  match mode with
  | .heat =>
    if prevCall = .heat then
      if current < nearestDouble (setpoint + half) then .heat else .idle
    else if current < nearestDouble (setpoint - half) then .heat else .idle
  | .cool =>
    if prevCall = .cool then
      if nearestDouble (setpoint - half) < current then .cool else .idle
    else if nearestDouble (setpoint + half) < current then .cool else .idle
  | .off => .idle

/-- Seconds of lockout left before the switch may leave the state it is in. -/
def lockoutRemaining (prevAct : Bool) (minOnSecs minOffSecs : Nat) (lastChange : Option DateTime)
    (now : DateTime) : Nat :=
  let limit := if prevAct then minOnSecs else minOffSecs
  if limit = 0 then 0
  else match lastChange with
    | none => 0
    | some last => limit - (numSeconds (now - last)).toNat

end HomeCore.Thermostat
