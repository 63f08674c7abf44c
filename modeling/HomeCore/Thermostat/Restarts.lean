import HomeCore.Thermostat.Reports

/-! What outlives a restart: of the state that each thermostat publishes, the part that is kept in
learned state, and the settings changed at runtime; and the controller that is made again from the
file and told them. Of what is published only what is kept is written out, without the day's
figures. -/
namespace HomeCore.Thermostat

def wholeSecond (time : DateTime) : DateTime := time / second * second

/-- No payload is null: where JSON has null serde reads that there is none, and TOML has no null. -/
def ThermostatEntry.NoNull (entry : ThermostatEntry) : Prop :=
  entry.actuatorOnCmd ≠ some .null ∧ entry.actuatorOffCmd ≠ some .null

/-- What chrono writes of times, whole seconds, and serde of entries. -/
structure Stamps (formats : Formats) where
  /-- `to_rfc3339_opts(SecondsFormat::Secs, true)`. -/
  showTime : DateTime → String
  parseTime_showTime : ∀ time, formats.parseTime (showTime time) = some (wholeSecond time)
  readEntry_writeEntry : ∀ entry : ThermostatEntry, entry.NoNull →
    formats.readEntry (formats.writeEntry entry) = some entry

namespace Stamps
variable {formats : Formats} (stamps : Stamps formats)

def iso (time : Option DateTime) : Json := time.elim .null fun time => .str (stamps.showTime time)

end Stamps

/-- `hvac_action`'s word for running in a mode. -/
def runningWord (mode : Mode) : String := if mode = .heat then "heating" else "cooling"

namespace Thermo

def reason (t : Thermo) : String :=
  if !t.active then "off"
  else if t.act.isEmpty then "no_switch"
  else if t.stale then "sensors_stale"
  else if t.overrideUntil.isSome then "override"
  else if t.maxRunTripped then "max_run_exceeded"
  else if t.notResponding then "actuator_not_responding"
  else match t.pending with
    | some .waitingMinOn => "waiting_min_on"
    | some .waitingMinOff => "waiting_min_off"
    | none => if t.calling then runningWord t.cfg.mode else "idle_in_band"

section
variable {formats : Formats} (stamps : Stamps formats)

def statePayload (t : Thermo) : Json :=
  .obj [("reason", .str t.reason),
    ("hold_setpoint", t.hold.elim .null fun hold => .num (.float hold.setpoint)),
    ("hold_until", stamps.iso (t.hold.map (·.ends))),
    ("override_until", stamps.iso t.overrideUntil),
    ("actuator_last_change", stamps.iso t.lastChange),
    ("on_since", stamps.iso t.onSince)]

end

/-- The call that the reason tells. -/
def toldCall (t : Thermo) : Bool := ["heating", "cooling", "waiting_min_off"].contains t.reason

end Thermo

/-- The source's `KEEP`. -/
def keptKeys : List String :=
  ["actuator_last_change", "on_since", "reason", "hold_setpoint", "hold_until", "override_until",
    "today_from", "run_secs_today", "cycles_today", "longest_run_secs_today"]

def runtimeOf (state : Json) : Json :=
  .obj (keptKeys.filterMap fun key => (state.get key).map (key, ·))

namespace Controller
section
variable {formats : Formats} (stamps : Stamps formats)

/-- The document in learned state. Once started, whatever changes a thermostat evaluates it at its
end, which publishes its state. -/
def keptDocument (c : Controller) : Json :=
  .obj [("runtime", .obj (c.therms.map fun _ t => runtimeOf (t.statePayload stamps)).toList),
    ("thermostats", .obj (c.keptChanges formats).toList)]

end

/-! ## The restart -/

/-- A device's message to a controller that is not started: a switch says what it last said. -/
def Tells (c fresh : Controller) : Heard → Prop
  | .state device payload => fresh.ownId device = none ∧
      ∀ on, interpretActuatorOn payload = some on → (c.seenOf device).on = some on
  | .availability device _ => fresh.ownId device = none
  | .learned _ => False

/-- The switches and sensors of every thermostat are in the states they were in, as far as they
have said so, and the sensors said theirs just now. -/
structure SameStates (c booted : Controller) (now : DateTime) : Prop where
  switch : ∀ (id : String) t, c.therms[id]? = some t → (booted.seenOf t.act).on = (c.seenOf t.act).on
  online : ∀ (id : String) t, c.therms[id]? = some t → ∀ sensor ∈ t.cfg.sensorDeviceIds,
    (booted.seenOf sensor).online = (c.seenOf sensor).online
  values : ∀ (id : String) t, c.therms[id]? = some t → ∀ sensor ∈ t.cfg.sensorDeviceIds,
    booted.readings[sensor]?.map Reading.value = c.readings[sensor]?.map Reading.value
  current : ∀ (sensor : String) r, booted.readings[sensor]? = some r →
    ∃ heard, r.receivedAt = some heard ∧ numSeconds (now - heard) ≤ minSensorTimeoutSecs

/-- A controller made again of the same file, told what the old one kept and what the devices
say, and started. -/
structure Restart {formats : Formats} (stamps : Stamps formats) (c : Controller) where
  entries : List ThermostatEntry
  sameFile : (new entries).fileEntries = c.fileEntries
  payloads : (∀ entry ∈ entries, entry.NoNull) ∧ ∀ (id : String) t, c.therms[id]? = some t → t.cfg.NoNull
  /-- What devices say before the document comes, and after. -/
  before : List (Heard × DateTime)
  after : List (Heard × DateTime)
  tells : ∀ message ∈ before ++ after, c.Tells (new entries) message.1
  learnedAt : DateTime
  now : DateTime
  inTime : learnedAt ≤ now
  sameStates : c.SameStates
    (boot formats entries (before ++ (.learned (c.keptDocument stamps), learnedAt) :: after)) now

/-- The controller as it is once it is started. -/
def Restart.controller {formats : Formats} {stamps : Stamps formats} {c : Controller}
    (restart : Restart stamps c) : Controller :=
  (boot formats restart.entries
    (restart.before ++ (.learned (c.keptDocument stamps), restart.learnedAt) :: restart.after)).start
    restart.now

/-- The same settings, hold, override, guard clock, call and trip, times to the second. -/
structure SameRun (t t' : Thermo) : Prop where
  cfg : t'.cfg = t.cfg
  setpoint : t'.hold.map (·.setpoint) = t.hold.map (·.setpoint)
  holds : t'.hold.map (wholeSecond ·.ends) = t.hold.map (wholeSecond ·.ends)
  overrides : t'.overrideUntil.map wholeSecond = t.overrideUntil.map wholeSecond
  clock : t'.lastChange.map wholeSecond = t.lastChange.map wholeSecond
  calling : t'.calling = t.calling
  tripped : t'.maxRunTripped = t.maxRunTripped

/-! ## Where it is transparent -/

/-- What the sensors that are online last said, however long ago. -/
def spoken (c : Controller) (t : Thermo) : List Rat :=
  ((t.cfg.sensorDeviceIds.filter fun s => (c.seenOf s).online != some false).filterMap
    (c.readings[·]?)).filterMap (·.value)

/-- One of its sensors said something, be it that it is offline. -/
def hears (c : Controller) (t : Thermo) : Bool :=
  t.cfg.sensorDeviceIds.any fun s => c.readings[s]?.isSome || (c.seenOf s).online == some false

/-- It is to decide about its switch: it has one, is not off, no override stands, and something
was heard. -/
def decides (c : Controller) (t : Thermo) : Bool :=
  !t.act.isEmpty && t.active && t.overrideUntil.isNone && (!(c.spoken t).isEmpty || c.hears t)

/-- The call for what the sensors last said, from the call that the reason tells. -/
def spokenCall (c : Controller) (t : Thermo) : Bool :=
  computeCallFor ((aggregate (c.spoken t) t.cfg.aggregation).getD t.target) t.target t.cfg.hysteresis
    t.cfg.mode (if t.toldCall then t.cfg.mode.call else .idle) != .idle

/-- The switch says it is on, and the run it is in is longer than the longest. -/
def overruns (c : Controller) (t : Thermo) (now : DateTime) : Bool :=
  t.active && 0 < t.cfg.maxRunSecs && (c.seenOf t.act).on == some true &&
    t.onSince.any fun since => decide ((t.cfg.maxRunSecs : Int) ≤ numSeconds (now - wholeSecond since))

/-- What it wants of its switch, and whether for safety. -/
def wants (c : Controller) (t : Thermo) : Option (Bool × Bool) :=
  if (c.spoken t).isEmpty then (if t.cfg.offWhenStale then some (false, true) else none)
  else some (t.calling && !t.maxRunTripped, t.maxRunTripped)

/-- A restart at this time leaves the thermostat as it is. -/
structure Outlives (formats : Formats) (c : Controller) (file : ThermostatEntry) (t : Thermo)
    (now : DateTime) : Prop where
  /-- The settings are the file's, or can run. -/
  settings : t.cfg = file ∨ t.cfg.id = file.id ∧ t.cfg.problem formats = none
  hold : ∀ hold, t.hold = some hold →
    now < wholeSecond hold.ends ∧ setpointProblem formats hold.setpoint = none
  override : ∀ ends, t.overrideUntil = some ends → now < wholeSecond ends
  /-- Where nothing is decided, the reason tells the call. -/
  undecided : c.decides t = false → t.calling = t.toldCall
  /-- No reading of a sensor that said something is no call. -/
  silent : c.decides t = true → c.spoken t = [] → t.calling = false
  /-- The call is the one for what the sensors last said, however old. -/
  called : c.decides t = true → c.spoken t ≠ [] → t.calling = c.spokenCall t
  /-- It is tripped just where the switch still is in the run that is too long. -/
  tripped : t.maxRunTripped = true ↔ c.overruns t now = true ∧
    (c.decides t = true → c.spoken t ≠ [] → t.calling = true)
  /-- The switch is as wanted, or has to wait, or changed this second. -/
  switched : c.decides t = true → ∀ on safety, c.wants t = some (on, safety) →
    (c.seenOf t.act).on = some on ∨
      safety = false ∧ 0 < lockoutRemaining ((c.seenOf t.act).on == some true) t.cfg.minOnSecs
        t.cfg.minOffSecs (t.lastChange.map wholeSecond) now ∨
      t.lastChange.map wholeSecond = some (wholeSecond now)

end Controller
end HomeCore.Thermostat
