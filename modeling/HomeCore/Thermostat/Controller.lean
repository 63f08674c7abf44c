import HomeCore.Thermostat.Settings

/-! Every thermostat's decisions as one state machine: each input changes the state and queues
effects. Left out is what only says how things stand: published states, alerts, notices, the
day's figures, and what is kept in learned state. -/
namespace HomeCore.Thermostat

def confirmSecs : Nat := 30

def maxRetrySecs : Nat := 600

def candidateSecs : Nat := 10

def maxHoldSecs : Nat := 7 * 24 * 3600

def firstReadingSecs : Nat := 15

def startupGraceSecs : Nat := 120

inductive Effect where
  | register (entry : ThermostatEntry)
  | unregister (deviceId : String)
  | reconcile (deviceIds : List String)
  /-- With the thermostat that sends it and what it asks for, beside what is sent. -/
  | command (thermostat : String) (on : Bool) (actuator : String) (payload : Json)
  | subscribe (deviceId : String)
  | unsubscribe (deviceId : String)
  | unsubscribeOwn (deviceId : String)
  | commandResult (deviceId operation : String) (error : Option String)
  deriving DecidableEq

/-! ## Reading payloads -/

def asciiLowercase (text : String) : String := String.ofList (text.toList.map Char.toLower)

def onOffWord (value : Json) : Option Bool :=
  value.asStr.bind fun word =>
    let word := asciiLowercase word
    if word ∈ ["on", "true", "1"] then some true
    else if word ∈ ["off", "false", "0"] then some false
    else none

/-- A switch's state as on or off: `on`, then `state`, then `power`. -/
def interpretActuatorOn (payload : Json) : Option Bool :=
  ((payload.get "on").bind Json.asBool).or <|
    ((payload.get "state").bind onOffWord).or <|
      ((payload.get "power").bind Json.asBool).or ((payload.get "power").bind onOffWord)

def commandOf (payload : Json) : String :=
  (["action", "command"].findSome? fun key => (payload.get key).bind Json.asStr).getD ""

def attributeWrites (payload : Json) : Option Rat × Option String :=
  ((payload.get "setpoint").bind Json.asF64,
    ["hvac_mode", "mode"].findSome? fun key => (payload.get key).bind Json.asStr)

def sensorIdsOf : Json → Option (List String)
  | .arr ids => some (ids.filterMap Json.asStr)
  | .str text =>
    some (((splitText ',' text).map fun id => String.ofList (trim id.toList)).filter (!·.isEmpty))
  | _ => none

def operationOf (cmd : Json) : String :=
  if commandOf cmd ≠ "" then commandOf cmd
  else match cmd.asObject with
    | none => ""
    | some fields =>
      String.intercalate "," (fields.keys.filter fun key =>
        key.toList.head? != some '_' && key != "correlation_id")

/-- The wait before a try: 30 s, then twice as long each time, up to ten minutes. -/
def backoffSecs (attempts : Nat) : Nat := min (confirmSecs * 2 ^ min (attempts - 1) 5) maxRetrySecs

def parseTime (formats : Formats) (value : Option Json) : Option DateTime :=
  (value.bind Json.asStr).bind formats.parseTime

/-! ## State -/

structure Reading where
  value : Option Rat := none
  /-- The source's `at`. -/
  receivedAt : Option DateTime := none

/-- What another device has said about itself. -/
structure Seen where
  on : Option Bool := none
  online : Option Bool := none
  hasOn : Bool := false
  lockish : Bool := false

structure Hold where
  setpoint : Rat
  ends : DateTime

/-- A switch someone chose, waiting to show it is one. -/
structure Candidate where
  thermostat : String
  deadline : DateTime

inductive Pending where
  | waitingMinOn
  | waitingMinOff

structure Thermo where
  cfg : ThermostatEntry
  temperature : Option Rat := none
  /-- The hysteresis call: wants the switch on. -/
  calling : Bool := false
  stale : Bool := false
  /-- What it last asked the switch for, and whether the switch said so. -/
  commanded : Option Bool := none
  confirmed : Bool := false
  waitingSince : Option DateTime := none
  attempts : Nat := 0
  retryAt : Option DateTime := none
  notResponding : Bool := false
  lastChange : Option DateTime := none
  /-- Since when it has been on. -/
  onSince : Option DateTime := none
  pending : Option Pending := none
  lockoutUntil : Option DateTime := none
  /-- Send the desired state even if it seems so already. -/
  force : Bool := false
  bypassGuard : Bool := false
  /-- Just set to off: one OFF is owed. -/
  enteringOff : Bool := false
  overrideUntil : Option DateTime := none
  overrideAt : Option DateTime := none
  hold : Option Hold := none
  maxRunTripped : Bool := false
  trippedAt : Option DateTime := none
  graceUntil : Option DateTime := none

namespace Thermo

def new (cfg : ThermostatEntry) : Thermo := { cfg }

/-- The source's `cfg.actuator_device_id`. -/
def act (t : Thermo) : String := t.cfg.actuatorDeviceId

def active (t : Thermo) : Bool := t.cfg.mode != .off

/-- A thermostat added while the plugin runs. -/
def added (cfg : ThermostatEntry) (now : DateTime) : Thermo :=
  { new cfg with force := (new cfg).active, graceUntil := some (now + secs firstReadingSecs) }

def target (t : Thermo) : Rat := t.hold.elim t.cfg.setpoint (·.setpoint)

def noteSwitch (t : Thermo) (on : Bool) (now : DateTime) : Thermo :=
  { t with onSince := if on then some now else none }

def personChangedIt (t : Thermo) : Thermo :=
  { t with overrideUntil := none, overrideAt := none, maxRunTripped := false, trippedAt := none }

/-- What its switch should be is sent again. -/
def resync (t : Thermo) : Thermo := { t with force := t.active && !t.act.isEmpty }

def resetSwitch (t : Thermo) : Thermo :=
  { t with
    commanded := none
    confirmed := false
    waitingSince := none
    attempts := 0
    retryAt := none
    notResponding := false
    pending := none
    lockoutUntil := none
    onSince := none
    force := true }

/-- A switch newly chosen: nothing was asked of it. -/
def moveTo (t : Thermo) (actuator : String) (now : DateTime) : Thermo :=
  { { t with cfg := { t.cfg with actuatorDeviceId := actuator } }.resetSwitch with
    lastChange := some now
    force := t.active }

def payload (t : Thermo) (on : Bool) : Json :=
  (if on then t.cfg.actuatorOnCmd else t.cfg.actuatorOffCmd).getD (.obj [("on", .bool on)])

def command (t : Thermo) (id : String) (on : Bool) (actuator : String) : Effect :=
  .command id on actuator (t.payload on)

/-! ## Deciding one thermostat -/

/-- Holds and overrides that are over. -/
def expire (t : Thermo) (now : DateTime) : Thermo :=
  let t := if t.hold.any fun hold => decide (hold.ends ≤ now) then { t with hold := none } else t
  if t.overrideUntil.any fun ends => decide (ends ≤ now) then
    { t with overrideUntil := none, overrideAt := none, force := true }
  else t

/-- Nothing heard from any of its sensors yet, while its grace runs. -/
def waitingForFirst (t : Thermo) (fresh : List Rat) (heardAny : Bool) : Bool :=
  t.graceUntil.isSome && fresh.isEmpty && !heardAny

def takeReadings (t : Thermo) (fresh : List Rat) (heardAny : Bool) (now : DateTime) : Thermo :=
  let t := { t with
    temperature := aggregate fresh t.cfg.aggregation
    graceUntil := if t.graceUntil.any fun ends => decide (ends ≤ now) then none else t.graceUntil }
  { t with stale := t.active && fresh.isEmpty && !t.waitingForFirst fresh heardAny }

def longestRun (t : Thermo) (nowOn : Option Bool) (now : DateTime) : Thermo :=
  let maxRun := t.cfg.maxRunSecs
  if t.active && 0 < maxRun && nowOn == some true && !t.maxRunTripped &&
      t.onSince.any fun since => decide ((maxRun : Int) ≤ numSeconds (now - since)) then
    { t with maxRunTripped := true, trippedAt := some now }
  else t

/-- What the switch should be, `none` being "leave it alone"; a safety reason skips the guards. -/
structure Decision where
  thermo : Thermo
  desired : Option Bool
  safety : Bool

def decision (t : Thermo) (waitingForFirst : Bool) : Decision :=
  if t.act.isEmpty then ⟨{ t with enteringOff := false }, none, false⟩
  else if t.enteringOff then ⟨t, some false, true⟩
  else if !t.active || t.overrideUntil.isSome || waitingForFirst then ⟨t, none, false⟩
  else if t.stale then
    if t.cfg.offWhenStale then ⟨{ t with calling := false }, some false, true⟩
    else ⟨{ t with calling := false }, none, false⟩
  else
    let prev := if t.calling then t.cfg.mode.call else .idle
    let current := t.temperature.getD t.target
    let calling := computeCallFor current t.target t.cfg.hysteresis t.cfg.mode prev != .idle
    let t := if t.maxRunTripped && !calling then
        { t with calling, maxRunTripped := false, trippedAt := none }
      else { t with calling }
    ⟨t, some (calling && !t.maxRunTripped), t.maxRunTripped⟩

/-- What is to be sent now, if anything. -/
def choose (d : Decision) (sw : Seen) (nowOn : Option Bool) (now : DateTime) :
    Thermo × Option Bool :=
  let t := { d.thermo with pending := none, lockoutUntil := none }
  match d.desired with
  | none => ({ t with retryAt := none, force := false }, none)
  | some w =>
    if t.commanded == some w && !t.confirmed && !t.force then
      -- Waiting for the switch to say so; ask again when due.
      (t, if sw.online != some false && t.retryAt.any fun due => decide (due ≤ now) then some w
        else none)
    else if nowOn == some w && !t.force then
      (if sw.on == some w then { t with commanded := some w, confirmed := true } else t, none)
    else
      let transition := nowOn != some w && t.commanded != some w
      let remaining := if d.safety || t.bypassGuard || !transition then 0
        else lockoutRemaining (nowOn == some true) t.cfg.minOnSecs t.cfg.minOffSecs t.lastChange now
      if 0 < remaining then
        ({ t with
            pending := some (if nowOn == some true then .waitingMinOn else .waitingMinOff)
            lockoutUntil := some (now + secs remaining) }, none)
      else ({ t with lastChange := if transition then some now else t.lastChange }, some w)

def send (t : Thermo) (observed : Option Bool) (w : Bool) (now : DateTime) : Thermo :=
  let retry := t.commanded == some w && !t.confirmed
  let attempts := if retry then t.attempts + 1 else 1
  { t with
    attempts
    waitingSince := if retry then t.waitingSince else some now
    commanded := some w
    -- Sent again while it already says so: that is its confirmation.
    confirmed := observed == some w
    retryAt := some (now + secs (backoffSecs attempts))
    force := false
    bypassGuard := false
    enteringOff := t.enteringOff && attempts < 3
    onSince := if w then t.onSince.or (some now) else if observed.isNone then none else t.onSince }

/-- What has come to pass since it was last decided: ends of holds, readings, a run too long. -/
def prepare (t : Thermo) (nowOn : Option Bool) (fresh : List Rat) (heardAny : Bool)
    (now : DateTime) : Thermo :=
  ((t.expire now).takeReadings fresh heardAny now).longestRun nowOn now

def decided (t : Thermo) (nowOn : Option Bool) (fresh : List Rat) (heardAny : Bool)
    (now : DateTime) : Decision :=
  let t := t.prepare nowOn fresh heardAny now
  t.decision (t.waitingForFirst fresh heardAny)

def evaluate (t : Thermo) (sw : Seen) (fresh : List Rat) (heardAny : Bool) (now : DateTime) :
    Thermo × Option Bool :=
  let nowOn := sw.on.or t.commanded
  let d := t.decided nowOn fresh heardAny now
  let (t, toSend) := choose d sw nowOn now
  let t := toSend.elim t fun w => t.send sw.on w now
  ({ t with
      notResponding := d.desired.isSome && (sw.online == some false ||
        t.commanded.isSome && !t.confirmed &&
          t.waitingSince.any fun since => decide ((confirmSecs : Int) ≤ numSeconds (now - since))) },
    toSend)

end Thermo

/-! ## The controller -/

/-- The plugin's thermostats and everything they read. -/
structure Controller where
  started : Bool := false
  therms : Std.ExtTreeMap String Thermo := ∅
  /-- Each thermostat as the config file had it. -/
  fileEntries : Std.ExtTreeMap String ThermostatEntry := ∅
  readings : Std.ExtTreeMap String Reading := ∅
  seen : Std.ExtTreeMap String Seen := ∅
  restored : Std.ExtTreeMap String (Rat × DateTime) := ∅
  ownRestored : List String := []
  candidates : Std.ExtTreeMap String Candidate := ∅
  fx : List Effect := []

namespace Controller

def new (entries : List ThermostatEntry) : Controller where
  therms := .ofList (entries.map fun entry => (entry.id, Thermo.new entry))
  fileEntries := .ofList (entries.map fun entry => (entry.id, entry))

def values (c : Controller) : List Thermo := c.therms.toList.map Prod.snd

def seenOf (c : Controller) (device : String) : Seen := c.seen[device]?.getD {}

def push (c : Controller) (effects : List Effect) : Controller := { c with fx := c.fx ++ effects }

def modify (c : Controller) (id : String) (change : Thermo → Thermo) : Controller :=
  { c with therms := c.therms.modify id change }

def see (c : Controller) (device : String) (change : Seen → Seen) : Controller :=
  { c with seen := c.seen.insert device (change (c.seenOf device)) }

def usedIds (c : Controller) : List String :=
  (c.values.flatMap fun t =>
    t.cfg.sensorDeviceIds ++ if t.act.isEmpty then [] else [t.act]) ++ c.candidates.keys

/-- Every sensor and switch any thermostat uses, sorted. -/
def externalIds (c : Controller) : List String := (Std.ExtTreeSet.ofList c.usedIds).toList

def ownIds (c : Controller) : List String := c.values.map (·.cfg.deviceId)

def ownId (c : Controller) (device : String) : Option String :=
  ((device.toList.dropPrefix? "thermostat_".toList).map String.ofList).filter (· ∈ c.therms)

/-- What the thermostat reads: the readings that are current. -/
def fresh (c : Controller) (t : Thermo) (now : DateTime) : List Rat :=
  (((t.cfg.sensorDeviceIds.filter fun s => (c.seenOf s).online != some false).filterMap
    (c.readings[·]?)).filter fun r => r.receivedAt.any fun since =>
      decide (numSeconds (now - since) ≤ t.cfg.sensorTimeoutSecs)).filterMap (·.value)

/-- Something was heard from one of its sensors, be it an old reading or "offline". -/
def heardAny (c : Controller) (t : Thermo) : Bool :=
  t.cfg.sensorDeviceIds.any fun s =>
    (c.readings[s]?.any (·.receivedAt.isSome)) || (c.seenOf s).online == some false

/-- Decide one thermostat now and send what is owed. -/
def evaluate (c : Controller) (id : String) (now : DateTime) : Controller :=
  if !c.started then c
  else match c.therms[id]? with
    | none => c
    | some t =>
      let (next, toSend) := t.evaluate (c.seenOf t.act) (c.fresh t now) (c.heardAny t) now
      { c with
        therms := c.therms.insert id next
        fx := c.fx ++ (toSend.map fun w => t.command id w t.act).toList }

def evaluateAll (c : Controller) (ids : List String) (now : DateTime) : Controller :=
  ids.foldl (fun c id => c.evaluate id now) c

def usesDevice (device : String) (t : Thermo) : Bool :=
  t.act == device || t.cfg.sensorDeviceIds.contains device

def evaluateUsing (c : Controller) (device : String) (now : DateTime) : Controller :=
  c.evaluateAll ((c.values.filter (usesDevice device)).map (·.cfg.id)) now

/-- Subscribe what is newly used, forget and unsubscribe what no longer is. -/
def resubscribe (c : Controller) (before : List String) : Controller :=
  let after := c.usedIds
  let added := (Std.ExtTreeSet.ofList (after.filter (· ∉ before))).toList
  let gone := (Std.ExtTreeSet.ofList (before.filter (· ∉ after))).toList
  { c with
    readings := gone.foldl (fun m id => m.erase id) c.readings
    seen := gone.foldl (fun m id => m.erase id) c.seen
    fx := c.fx ++ added.map .subscribe ++ gone.map .unsubscribe }

/-- Say how a command went. -/
def report (c : Controller) (id operation : String) (error : Option String) : Controller :=
  match c.therms[id]? with
  | none => c
  | some t => c.push [.commandResult t.cfg.deviceId operation error]

/-! ### Startup -/

def startThermo (observed : Option Bool) (now : DateTime) (t : Thermo) : Thermo :=
  let onSince := if observed == some false then none
    else if observed == some true then t.onSince.or (some now)
    else t.onSince
  -- Off is never switched at boot; otherwise what it should be is sent.
  { t with onSince, force := t.active, graceUntil := some (now + secs startupGraceSecs) }

def start (c : Controller) (now : DateTime) : Controller :=
  let ids := c.therms.keys
  let c := { c with started := true }
  let c := c.push ((c.values.flatMap fun t =>
    [.register t.cfg, .unsubscribeOwn t.cfg.deviceId]) ++ [.reconcile c.ownIds])
  let settle (t : Thermo) := startThermo (c.seenOf t.act).on now t
  let c := { c with therms := c.therms.map fun _ => settle }
  c.evaluateAll ids now

def restoreThermo (formats : Formats) (p : Json) (now : DateTime) (t : Thermo) : Thermo :=
  let time key := parseTime formats (p.get key)
  let lastChange := (time "actuator_last_change").or t.lastChange
  let overrideUntil := (time "override_until").filter fun ends => decide (now < ends)
  let hold := match time "hold_until", (p.get "hold_setpoint").bind Json.asF64 with
    | some ends, some setpoint =>
      if decide (now < ends) && (setpointProblem formats setpoint).isNone then some ⟨setpoint, ends⟩
      else t.hold
    | _, _ => t.hold
  { t with
    lastChange
    overrideUntil
    overrideAt := if overrideUntil.isSome then lastChange else t.overrideAt
    hold
    onSince := time "on_since"
    calling := ((p.get "reason").bind Json.asStr).any (· ∈ ["heating", "cooling", "waiting_min_off"]) }

def restoreReading (formats : Formats) (c : Controller) (sensor : String) (r : Json) : Controller :=
  match (r.get "temperature").bind Json.asF64, parseTime formats (r.get "at") with
  | some v, some since =>
    { c with
      restored := c.restored.insert sensor (v, since)
      -- A reading already heard with the same value is that old.
      readings := c.readings.modify sensor fun cur =>
        if cur.value.any fun u => decide (|nearestDouble (u - v)| < nearestDouble (1 / 1000000)) then
          { cur with receivedAt := some since }
        else cur }
  | _, _ => c

/-- The thermostat's own retained state from the last run. -/
def restoreOwn (formats : Formats) (c : Controller) (id : String) (p : Json) (now : DateTime) :
    Controller :=
  if id ∉ c.therms then c
  else
    let c := c.modify id (restoreThermo formats p now)
    match (p.get "sensor_readings").bind Json.asObject with
    | none => c
    | some readings => readings.toList.foldl (fun c r => restoreReading formats c r.1 r.2) c

/-- A thermostat as learned state left it, if the file still says what it said then. -/
def learnedEntry (formats : Formats) (file : ThermostatEntry) (kept : Json) :
    Option ThermostatEntry :=
  if kept.get "based_on" = some (formats.writeEntry file) then
    ((kept.get "entry").bind formats.readEntry).filter fun entry =>
      entry.id == file.id && (entry.problem formats).isNone
  else none

def applyLearned (formats : Formats) (c : Controller) (doc : Json) (now : DateTime) : Controller :=
  if c.started then c
  else
    let runtime := ((doc.get "runtime").bind Json.asObject).elim [] (·.toList)
    let c := runtime.foldl (fun c entry =>
      if entry.1 ∉ c.ownRestored && entry.1 ∈ c.therms then restoreOwn formats c entry.1 entry.2 now
      else c) c
    match (doc.get "thermostats").bind Json.asObject with
    | none => c
    | some kept =>
      let before := c.usedIds
      let c := kept.toList.foldl (fun c entry =>
        match c.fileEntries[entry.1]?.bind fun file => learnedEntry formats file entry.2 with
        | none => c
        | some cfg => c.modify entry.1 fun t => { t with cfg }) c
      c.resubscribe before

/-! ### Moving to another switch -/

/-- It runs its switch, and the switch is on or was asked to be. -/
def runsSwitch (c : Controller) (t : Thermo) : Bool :=
  !t.act.isEmpty && t.active && ((c.seenOf t.act).on == some true || t.commanded == some true)

/-- The old switch is turned off first if this thermostat runs it. -/
def switchTo (c : Controller) (id actuator : String) (now : DateTime) : Controller :=
  match c.therms[id]? with
  | none => c
  | some t =>
    { c with
      therms := c.therms.insert id (t.moveTo actuator now)
      fx := c.fx ++ if c.runsSwitch t then [t.command id false t.act] else [] }

def settleCandidate (c : Controller) (device : String) (now : DateTime) : Controller :=
  let s := c.seenOf device
  if !(s.hasOn || s.lockish) then c
  else match c.candidates[device]? with
    | none => c
    | some candidate =>
      let c := { c with candidates := c.candidates.erase device }
      let before := device :: c.usedIds
      let c := if s.hasOn && !s.lockish then
          (c.switchTo candidate.thermostat device now).report candidate.thermostat "set_actuator" none
        else c.report candidate.thermostat "set_actuator"
          (some s!"{device} is a lock, not a plug or switch")
      (c.resubscribe before).evaluate candidate.thermostat now

/-! ### What others say -/

/-- The reading a sensor's payload brings; `none` where it brings none. -/
def takenReading (c : Controller) (device : String) (raw : Json) (now : DateTime) :
    Option Reading :=
  match raw.asF64 with
  | none => if raw = .null then some ⟨none, some now⟩ else none
  | some v =>
    if -40 ≤ v && v ≤ 60 then
      let restoredAt := if c.started then none
        else (c.restored[device]?.filter fun kept =>
          decide (|nearestDouble (kept.1 - v)| < nearestDouble (1 / 1000000))).map Prod.snd
      some ⟨some v, some (restoredAt.getD now)⟩
    else none

/-- The attributes read of a device: each once, in no order. -/
def sensorAttributes (c : Controller) (device : String) : List String :=
  (c.values.filter (·.cfg.sensorDeviceIds.contains device)).map (·.cfg.sensorAttribute)

def onSensorState (formats : Formats) (c : Controller) (device : String) (payload : Json)
    (now : DateTime) : Controller :=
  match (formats.hashOrder now (c.sensorAttributes device)).findSome? payload.get with
  | none => c
  | some raw =>
    match c.takenReading device raw now with
    | none => c
    | some r => { c with readings := c.readings.insert device r }.evaluateUsing device now

/-- The run a switch's report begins or ends. -/
def noteReport (started : Bool) (prev : Option Bool) (on : Bool) (now : DateTime) (t : Thermo) :
    Thermo :=
  if prev.isSome && prev != some on then t.noteSwitch on now
  else if prev.isNone && on && t.onSince.isNone && started then { t with onSince := some now }
  else t

/-- What a switch's report makes of a thermostat that uses it. -/
def hearSwitch (started : Bool) (prev : Option Bool) (on : Bool) (now : DateTime) (t : Thermo) :
    Thermo :=
  let t := noteReport started prev on now t
  if t.commanded == some on && !t.confirmed then
    -- The echo of what was asked for.
    { t with
      confirmed := true
      attempts := 0
      retryAt := none
      waitingSince := none
      notResponding := false
      enteringOff := t.enteringOff && on }
  else if t.commanded == some (!on) && !t.confirmed then t
  else if started && prev.isSome && prev != some on then
    -- Nobody here asked for that: a person, a rule, a voice assistant.
    let t := { t with lastChange := some now, commanded := some on, confirmed := true }
    if t.active && !t.act.isEmpty && 0 < t.cfg.overrideSecs then
      { t with overrideUntil := some (now + secs t.cfg.overrideSecs), overrideAt := some now }
    else t
  else t

def onSwitchState (c : Controller) (device : String) (on : Bool) (now : DateTime) : Controller :=
  let prev := (c.seenOf device).on
  let c := c.see device fun s => { s with on := some on }
  let ids := (c.values.filter (·.act == device)).map (·.cfg.id)
  ids.foldl (fun c id => (c.modify id (hearSwitch c.started prev on now)).evaluate id now) c

/-- A state message on a subscribed topic. -/
def onState (formats : Formats) (c : Controller) (device : String) (payload : Json)
    (now : DateTime) : Controller :=
  match c.ownId device with
  | some id =>
    if c.started then c
    else restoreOwn formats { c with ownRestored := id :: c.ownRestored } id payload now
  | none =>
    let c := c.see device fun s =>
      { s with
        hasOn := s.hasOn || ((payload.get "on").bind Json.asBool).isSome
        lockish := s.lockish || (payload.get "locked").isSome }
    let c := if device ∈ c.candidates then c.settleCandidate device now else c
    let c := c.onSensorState formats device payload now
    match interpretActuatorOn payload with
    | none => c
    | some on => c.onSwitchState device on now

/-- Back online, a switch is asked again for what it has not answered. -/
def askAgain (device : String) (now : DateTime) (t : Thermo) : Thermo :=
  if t.act == device && t.commanded.isSome && !t.confirmed then { t with retryAt := some now } else t

def onAvailability (c : Controller) (device : String) (online : Bool) (now : DateTime) :
    Controller :=
  if (c.ownId device).isSome then c
  else
    let was := (c.seenOf device).online
    let c := c.see device fun s => { s with online := some online }
    let c := if online && was == some false then
        { c with therms := c.therms.map fun _ => askAgain device now }
      else c
    c.evaluateUsing device now

/-- A chosen switch that never showed itself. -/
def dropCandidate (c : Controller) (device : String) : Controller :=
  match c.candidates[device]? with
  | none => c
  | some candidate =>
    let c := { c with candidates := c.candidates.erase device }
    let before := device :: c.usedIds
    (c.report candidate.thermostat "set_actuator" (some
      s!"{device} didn't report a state in {candidateSecs} s — is it a plug or switch?")).resubscribe
        before

/-- Every 10 s. -/
def tick (c : Controller) (now : DateTime) : Controller :=
  let expired := (c.candidates.toList.filter fun entry => decide (entry.2.deadline ≤ now)).map
    Prod.fst
  let c := expired.foldl dropCandidate c
  c.evaluateAll c.therms.keys now

/-- Stopping: every heater this plugin may have left running is turned off. -/
def shutdown (c : Controller) : Controller :=
  c.push (c.values.flatMap fun t =>
    if t.cfg.kind != .heater || !t.active || t.act.isEmpty then []
    else if (c.seenOf t.act).on == some true || t.commanded == some true then
      [t.command t.cfg.id false t.act]
    else [])

/-! ### Commands -/

/-- How a command went: done, or to be reported when the chosen switch shows itself. -/
inductive Outcome where
  | done
  | later
  | refused (error : String)

def setSetpoint (formats : Formats) (c : Controller) (id : String) (v : Rat) :
    Controller × Outcome :=
  match setpointProblem formats v with
  | some problem => (c, .refused problem)
  | none => (c.modify id fun t =>
      { t with cfg := { t.cfg with setpoint := v }, hold := none }.personChangedIt, .done)

/-- Setting the mode to what it is not: off sends one OFF, then hands off. -/
def changeMode (mode : Mode) (t : Thermo) : Thermo :=
  let t := { t with cfg := { t.cfg with mode }, calling := false }
  if mode = .off then { t with enteringOff := !t.act.isEmpty, force := true, hold := none }
  else { t with enteringOff := false }

def setMode (c : Controller) (id : String) (t : Thermo) (m : String) : Controller × Outcome :=
  let kind := t.cfg.kind
  match kind.modes.find? (·.asStr == m) with
  | none =>
    let modes := String.intercalate " or " (kind.modes.map Mode.asStr)
    (c, .refused s!"{kind.only} — {m} isn't one of its modes ({modes})")
  | some mode => (c.modify id fun t =>
      (if t.cfg.mode ≠ mode then changeMode mode t else t).personChangedIt, .done)

/-- Choose the switch: only a device that reports a boolean `on` and isn't a lock, a thermostat,
or one of its sensors. -/
def setActuator (c : Controller) (id : String) (t : Thermo) (p : Json) (now : DateTime) :
    Controller × Outcome :=
  if (p.get "on_cmd").isSome || (p.get "off_cmd").isSome then
    (c, .refused "custom on/off payloads come from the config file only")
  else match (p.get "device_id").bind Json.asStr with
    | none => (c, .refused "set_actuator needs `device_id`")
    | some device =>
      if device.isEmpty then (c.switchTo id "" now, .done)
      else if "thermostat_".toList.isPrefixOf device.toList then
        (c, .refused "a thermostat can't switch a thermostat")
      else if device ∈ t.cfg.sensorDeviceIds then
        (c, .refused s!"{device} is one of its sensors")
      else if device = t.act then (c, .done)
      else if (c.seenOf device).hasOn && !(c.seenOf device).lockish then
        (c.switchTo id device now, .done)
      else if (c.seenOf device).lockish then
        (c, .refused s!"{device} is a lock, not a plug or switch")
      else ({ c with candidates :=
          c.candidates.insert device ⟨id, now + secs candidateSecs⟩ }, .later)

def holdFor (formats : Formats) (c : Controller) (id : String) (p : Json) (now : DateTime) :
    Controller × Outcome :=
  match (p.get "setpoint").bind Json.asF64 with
  | none => (c, .refused "hold needs `setpoint` (°C)")
  | some setpoint =>
    match setpointProblem formats setpoint with
    | some problem => (c, .refused problem)
    | none =>
      let length := ((p.get "for_secs").bind Json.asU64).or
        ((parseTime formats (p.get "until")).map fun ends => (numSeconds (ends - now)).toNat)
      match length with
      | none => (c, .refused "hold needs `for_secs` (or `until`)")
      | some length =>
        if 60 ≤ length && length ≤ maxHoldSecs then
          (c.modify id fun t =>
            { t.personChangedIt with hold := some ⟨setpoint, now + secs length⟩ }, .done)
        else (c, .refused s!"a hold lasts from a minute to {maxHoldSecs / 86400} days")

def setShortCycle (c : Controller) (id : String) (p : Json) : Controller × Outcome :=
  let on := (p.get "min_on_secs").bind Json.asU64
  let off := (p.get "min_off_secs").bind Json.asU64
  if on.isNone && off.isNone then
    (c, .refused "set_short_cycle needs min_on_secs or min_off_secs")
  else if on.any (maxGuardSecs < ·) || off.any (maxGuardSecs < ·) then
    (c, .refused s!"a guard is at most {maxGuardSecs} s")
  else (c.modify id fun t => { t with cfg := { t.cfg with
      minOnSecs := on.getD t.cfg.minOnSecs, minOffSecs := off.getD t.cfg.minOffSecs } }, .done)

def setSensors (c : Controller) (id : String) (t : Thermo) (p : Json) (now : DateTime) :
    Controller × Outcome :=
  let ids := (p.get "sensor_ids").bind sensorIdsOf
  let attr := (p.get "attribute").bind Json.asStr
  if ids.any (·.any (· ∈ c.ownIds)) then (c, .refused "a thermostat isn't a sensor")
  else if ids.any (·.isEmpty) && t.active then
    (c, .refused s!"it is set to {t.cfg.mode.asStr} and needs at least one sensor")
  else if ids.any (t.act ∈ ·) then (c, .refused "its switch can't be one of its sensors")
  else if ids.isNone && attr.isNone then (c, .refused "set_sensors needs sensor_ids")
  else (c.modify id fun t =>
      let moved := ids.any (· ≠ t.cfg.sensorDeviceIds)
      { t with
        graceUntil := if moved then some (now + secs firstReadingSecs) else t.graceUntil
        cfg := { t.cfg with
          sensorDeviceIds := ids.getD t.cfg.sensorDeviceIds
          sensorAttribute := attr.getD t.cfg.sensorAttribute } }, .done)

/-- A payload that names no command writes attributes: the mode first, then the target. -/
def writeAttributes (formats : Formats) (c : Controller) (id : String) (t : Thermo) (p : Json) :
    Controller × Outcome :=
  let (setpoint, mode) := attributeWrites p
  match mode, setpoint with
  | none, none => (c, .refused "nothing to do: send setpoint, hvac_mode or an action")
  | none, some v => c.setSetpoint formats id v
  | some m, none => c.setMode id t m
  | some m, some v =>
    match c.setMode id t m with
    | (c, .refused error) => (c, .refused error)
    | (c, _) => c.setSetpoint formats id v

def applyCommand (formats : Formats) (c : Controller) (id cmd : String) (t : Thermo) (p : Json)
    (now : DateTime) : Controller × Outcome :=
  let num key := (p.get key).bind Json.asF64
  match cmd with
  | "set_setpoint" => match num "value" with
    | none => (c, .refused "set_setpoint needs a number `value` (°C)")
    | some v => c.setSetpoint formats id v
  | "set_mode" => match (p.get "value").bind Json.asStr with
    | none => (c, .refused "set_mode needs `value`")
    | some m => c.setMode id t m
  | "" => c.writeAttributes formats id t p
  | "hold" => c.holdFor formats id p now
  | "resume" => (c.modify id fun t =>
      { { t with hold := none }.personChangedIt with force := t.active }, .done)
  | "resync" | "recalculate" => (c.modify id Thermo.resync, .done)
  | "start_now" => (c.modify id fun t => { t with bypassGuard := true }, .done)
  | "set_hysteresis" => match num "value" with
    | none => (c, .refused "set_hysteresis needs a number `value` (°C)")
    | some v =>
      if 0 ≤ v && v ≤ maxHysteresis then
        (c.modify id fun t => { t with cfg := { t.cfg with hysteresis := v } }, .done)
      else (c, .refused s!"the swing is 0 to {maxHysteresis} °C")
  | "set_aggregation" =>
    match Aggregation.parse (((p.get "value").bind Json.asStr).getD "") with
    | none => (c, .refused "aggregation is average, min or max")
    | some aggregation =>
      (c.modify id fun t => { t with cfg := { t.cfg with aggregation } }, .done)
  | "set_short_cycle" => c.setShortCycle id p
  | "set_sensors" => c.setSensors id t p now
  | "set_actuator" => c.setActuator id t p now
  | other => (c, .refused s!"unknown command \"{other}\"")

/-- A command on one of the plugin's devices. -/
def onCommand (formats : Formats) (c : Controller) (device : String) (payload : Json)
    (now : DateTime) : Controller :=
  match c.ownId device with
  | none => c
  | some id => match c.therms[id]? with
    | none => c
    | some t =>
      let before := c.usedIds
      let op := operationOf payload
      let c := match c.applyCommand formats id (commandOf payload) t payload now with
        | (c, .later) => c
        | (c, .done) => c.report id op none
        | (c, .refused error) => c.report id op (some error)
      (c.resubscribe before).evaluate id now

/-! ### Adding and removing -/

def add (c : Controller) (entry : ThermostatEntry) (now : DateTime) : Controller :=
  let before := c.usedIds
  let c := { c with
    fileEntries := c.fileEntries.insert entry.id entry
    therms := c.therms.insert entry.id (Thermo.added entry now) }
  let c := c.resubscribe before
  (if c.started then c.push [.register entry] else c).evaluate entry.id now

/-- Its switch is turned off first if it runs it and it is on. -/
def remove (c : Controller) (id : String) : Controller :=
  match c.therms[id]? with
  | none => c
  | some t =>
    let before := c.usedIds
    let c := c.push ((if c.runsSwitch t then [t.command id false t.act] else []) ++
      [.unregister t.cfg.deviceId])
    { c with
      therms := c.therms.erase id
      fileEntries := c.fileEntries.erase id }.resubscribe before

def recalculateAll (c : Controller) (force : Bool) (now : DateTime) : Controller :=
  let c := if force then { c with therms := c.therms.map fun _ => Thermo.resync } else c
  c.tick now

end Controller

/-! ## Inputs -/

/-- What the bridge hands to a started controller. -/
inductive Input where
  | state (device : String) (payload : Json)
  | availability (device : String) (online : Bool)
  | command (device : String) (payload : Json)
  | tick
  | add (entry : ThermostatEntry)
  | remove (id : String)
  | recalculateAll (force : Bool)
  | shutdown

/-- What it takes in before it is started. -/
inductive Heard where
  | state (device : String) (payload : Json)
  | availability (device : String) (online : Bool)
  | learned (doc : Json)

/-- What may come before the start: commands and management actions beside what is heard. -/
inductive Early where
  | heard (heard : Heard)
  | command (device : String) (payload : Json)
  | add (entry : ThermostatEntry)
  | remove (id : String)
  | recalculateAll (force : Bool)

/-- Whatever is done with a controller, from when it is made. -/
inductive Operation where
  | learned (doc : Json)
  | start
  | input (input : Input)

namespace Controller

def handle (formats : Formats) (c : Controller) (input : Input) (now : DateTime) : Controller :=
  match input with
  | .state device payload => c.onState formats device payload now
  | .availability device online => c.onAvailability device online now
  | .command device payload => c.onCommand formats device payload now
  | .tick => c.tick now
  | .add entry => c.add entry now
  | .remove id => c.remove id
  | .recalculateAll force => c.recalculateAll force now
  | .shutdown => c.shutdown

def hear (formats : Formats) (c : Controller) (heard : Heard) (now : DateTime) : Controller :=
  match heard with
  | .state device payload => c.onState formats device payload now
  | .availability device online => c.onAvailability device online now
  | .learned doc => c.applyLearned formats doc now

def takeIn (formats : Formats) (c : Controller) (early : Early) (now : DateTime) : Controller :=
  match early with
  | .heard heard => c.hear formats heard now
  | .command device payload => c.onCommand formats device payload now
  | .add entry => c.add entry now
  | .remove id => c.remove id
  | .recalculateAll force => c.recalculateAll force now

def operate (formats : Formats) (c : Controller) (operation : Operation) (now : DateTime) :
    Controller :=
  match operation with
  | .learned doc => c.applyLearned formats doc now
  | .start => c.start now
  | .input input => c.handle formats input now

/-- The effects are carried out after each input. -/
def takeEffects (c : Controller) : Controller × List Effect := ({ c with fx := [] }, c.fx)

/-- The controller as it is when it is started. -/
def boot (formats : Formats) (entries : List ThermostatEntry) (heard : List (Heard × DateTime)) :
    Controller :=
  heard.foldl (fun c message => (c.hear formats message.1 message.2).takeEffects.1) (new entries)

end Controller
end HomeCore.Thermostat
