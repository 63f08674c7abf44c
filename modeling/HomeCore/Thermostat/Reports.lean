import HomeCore.Thermostat.Controller

/-! How a command is answered: what is reported, the controller as it is when that is reported,
and the learned state that is persisted after it. A chosen switch is answered for later, when it
shows itself or does not. -/
namespace HomeCore.Thermostat

/-- What a refused command is to leave as it was. -/
structure Standing where
  cfg : ThermostatEntry
  hold : Option Hold
  overrideUntil : Option DateTime
  overrideAt : Option DateTime
  maxRunTripped : Bool
  trippedAt : Option DateTime

def Thermo.standing (t : Thermo) : Standing :=
  ⟨t.cfg, t.hold, t.overrideUntil, t.overrideAt, t.maxRunTripped, t.trippedAt⟩

namespace Controller

/-- What is kept of a thermostat that is not as the file has it. -/
def runtimeChange (formats : Formats) (file entry : ThermostatEntry) : Option Json :=
  if formats.writeEntry file = formats.writeEntry entry then none
  else some (.obj [("based_on", formats.writeEntry file), ("entry", formats.writeEntry entry)])

/-- What is kept, by thermostat. -/
def keptChanges (formats : Formats) (c : Controller) : AttrMap :=
  c.therms.filterMap fun id t => c.fileEntries[id]?.bind fun file => runtimeChange formats file t.cfg

/-- The document of `keep_runtime_changes`, the whole set of them. -/
def keepRuntimeChanges (formats : Formats) (c : Controller) : Json :=
  .obj [("thermostats", .obj (c.keptChanges formats).toList)]

/-- The source's `changed` of a command that is done. -/
def changes (t : Thermo) (p : Json) : Bool :=
  let str key := (p.get key).bind Json.asStr
  match commandOf p with
  | "set_setpoint" => ((p.get "value").bind Json.asF64).any (t.cfg.setpoint != ·)
  | "set_mode" => (str "value").any (t.cfg.mode.asStr != ·)
  | "" => (attributeWrites p).2.any (t.cfg.mode.asStr != ·) ||
      (attributeWrites p).1.any (t.cfg.setpoint != ·)
  | "set_hysteresis" | "set_aggregation" | "set_short_cycle" | "set_sensors" => true
  | "set_actuator" => (str "device_id").any fun device => device.isEmpty || device != t.act
  | _ => false

structure CommandAnswer where
  thermostat : String
  /-- The controller as it is when it is reported. -/
  state : Controller
  error : Option String
  persisted : Option Json

/-- The report of a command for a thermostat, if it is not put off. -/
def commandReport (formats : Formats) (c : Controller) (id : String) (t : Thermo) (p : Json)
    (now : DateTime) : Option CommandAnswer :=
  match c.applyCommand formats id (commandOf p) t p now with
  | (_, .later) => none
  | (done, .done) =>
    some ⟨id, done, none, if changes t p then some (done.keepRuntimeChanges formats) else none⟩
  | (left, .refused error) => some ⟨id, left, some error, none⟩

/-- The report that was put off, once the chosen device has shown what it is. -/
def settleReport (formats : Formats) (c : Controller) (device : String) (now : DateTime) : Option CommandAnswer :=
  let s := c.seenOf device
  if !(s.hasOn || s.lockish) then none
  else c.candidates[device]?.map fun candidate =>
    let c := { c with candidates := c.candidates.erase device }
    if s.hasOn && !s.lockish then
      let c := c.switchTo candidate.thermostat device now
      ⟨candidate.thermostat, c, none, some (c.keepRuntimeChanges formats)⟩
    else ⟨candidate.thermostat, c, some s!"{device} is a lock, not a plug or switch", none⟩

/-- The report that was put off, where the device did not show itself. -/
def dropReport (c : Controller) (device : String) : Option CommandAnswer :=
  c.candidates[device]?.map fun candidate =>
    ⟨candidate.thermostat, { c with candidates := c.candidates.erase device },
      some s!"{device} didn't report a state in {candidateSecs} s — is it a plug or switch?", none⟩

/-- A controller after whatever was done with it. -/
def run (formats : Formats) (entries : List ThermostatEntry) (operations : List (Operation × DateTime)) :
    Controller :=
  operations.foldl (fun c operation => (c.operate formats operation.1 operation.2).takeEffects.1) (new entries)

/-- The document has the thermostat's settings over the file's, where they differ. -/
def Keeps (formats : Formats) (document : Json) (id : String) (file cfg : ThermostatEntry) : Prop :=
  ∃ kept, document.get "thermostats" = some kept ∧
    if formats.writeEntry file = formats.writeEntry cfg then kept.get id = none
    else ∃ change, kept.get id = some change ∧ change.get "based_on" = some (formats.writeEntry file) ∧
      change.get "entry" = some (formats.writeEntry cfg)

/-- A report of an error has left every thermostat as it stood, and settings that a command
changed without one are persisted. -/
structure CommandAnswer.Sound (formats : Formats) (before : Controller) (report : CommandAnswer) : Prop where
  refused : report.error.isSome = true → ∀ id : String,
    report.state.therms[id]?.map Thermo.standing = before.therms[id]?.map Thermo.standing
  persisted : report.error = none → ∀ (id : String) t t', before.therms[id]? = some t →
    report.state.therms[id]? = some t' → t'.cfg ≠ t.cfg → ∃ document file,
      report.persisted = some document ∧ report.state.fileEntries[id]? = some file ∧
        Keeps formats document id file t'.cfg

/-- A mode and a target are written at once, the mode is one it has, and the target is refused:
and the mode is another one, or an override or a trip is on record. -/
def HalfWritten (formats : Formats) (t : Thermo) (p : Json) : Prop :=
  commandOf p = "" ∧ ∃ setpoint m, attributeWrites p = (some setpoint, some m) ∧
    (setpointProblem formats setpoint).isSome = true ∧
    ∃ mode, t.cfg.kind.modes.find? (·.asStr == m) = some mode ∧
      (t.cfg.mode ≠ mode ∨ t.overrideUntil.isSome = true ∨ t.overrideAt.isSome = true ∨
        t.maxRunTripped = true ∨ t.trippedAt.isSome = true)

end Controller
end HomeCore.Thermostat
