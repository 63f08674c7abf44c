import HomeCore.Thermostat.OffProofs

/-! Nothing is sent before the start, but by what turns a running switch off: taking a thermostat
away, or giving it another switch. And starting leaves a thermostat that is off alone, unless an
OFF was owed to its switch. -/
namespace HomeCore.Thermostat.Controller
variable {c : Controller} {formats : Formats} {now : DateTime}

/-- The OFF that a thermostat's switch is sent when the thermostat leaves it. -/
def leaving (c : Controller) (id : String) : List Command :=
  match c.therms[id]? with
  | none => []
  | some t => if c.runsSwitch t then [⟨id, false, t.act⟩] else []

theorem leaving_eq_nil {id : String} :
    c.leaving id = [] ↔ (c.therms[id]?.any c.runsSwitch) = false := by
  unfold leaving
  cases c.therms[id]? with
  | none => simp
  | some t => cases runs : c.runsSwitch t <;> simp [runs]

theorem switchTo_commands (id actuator : String) :
    (c.switchTo id actuator now).commands = c.commands ++ c.leaving id := by
  unfold switchTo leaving
  cases c.therms[id]? with
  | none => simp
  | some t =>
    dsimp only
    cases c.runsSwitch t <;> simp [commands, Thermo.command, Effect.sentCommand]

theorem remove_commands (id : String) : (c.remove id).commands = c.commands ++ c.leaving id := by
  unfold remove leaving
  cases found : c.therms[id]? with
  | none => simp
  | some t =>
    dsimp only
    rw [resubscribe_commands]
    cases c.runsSwitch t <;> simp [commands, push, Thermo.command, Effect.sentCommand]

theorem report_commands (id operation : String) (error : Option String) :
    (c.report id operation error).commands = c.commands :=
  congrArg View.commands (Rule.report_view id operation error)

/-! ## What is sent before the start -/

/-- A command chooses a device that has shown itself a switch, so it is moved to at once. -/
def chosenNow (c : Controller) (t : Thermo) (p : Json) : Bool :=
  !(p.get "on_cmd").isSome && !(p.get "off_cmd").isSome &&
    ((p.get "device_id").bind Json.asStr).any fun device => device.isEmpty ||
      !"thermostat_".toList.isPrefixOf device.toList && device ∉ t.cfg.sensorDeviceIds &&
        device ≠ t.act && (c.seenOf device).hasOn && !(c.seenOf device).lockish

/-- With this state message the device has shown itself a switch, and no lock. -/
def shownSwitch (c : Controller) (device : String) (payload : Json) : Bool :=
  ((c.seenOf device).hasOn || ((payload.get "on").bind Json.asBool).isSome) &&
    !((c.seenOf device).lockish || (payload.get "locked").isSome)

/-- What comes in takes a thermostat away or gives it another switch, while it runs a switch. -/
def leavesSwitch (c : Controller) : Early → Bool
  | .heard (.state device payload) => (c.ownId device).isNone &&
      c.candidates[device]?.any fun candidate =>
        c.shownSwitch device payload && c.therms[candidate.thermostat]?.any c.runsSwitch
  | .command device payload => commandOf payload == "set_actuator" &&
      (c.ownId device).any fun id => c.therms[id]?.any fun t =>
        c.chosenNow t payload && c.runsSwitch t
  | .remove id => c.therms[id]?.any c.runsSwitch
  | _ => false

theorem setActuator_commands {id : String} {t : Thermo} (p : Json) :
    (c.setActuator id t p now).1.commands =
      c.commands ++ if c.chosenNow t p then c.leaving id else [] := by
  unfold setActuator chosenNow
  split
  · next custom =>
    rw [if_neg, List.append_nil]
    rcases (Bool.or_eq_true _ _).mp custom with custom | custom <;> simp [custom]
  next plain =>
  rw [Bool.or_eq_true, not_or, Bool.not_eq_true, Bool.not_eq_true] at plain
  rw [plain.1, plain.2]
  split
  · next unnamed => simp [unnamed]
  next device named =>
  rw [named]
  simp only [Bool.not_false, Bool.true_and, Option.any_some]
  split
  · next empty => rw [empty, Bool.true_or, if_pos rfl, switchTo_commands]
  next nonempty =>
  rw [Bool.not_eq_true] at nonempty
  rw [nonempty, Bool.false_or]
  generalize "thermostat_".toList.isPrefixOf device.toList = own
  split
  · next own => simp [own]
  next other =>
  split
  · next sensor => simp [sensor]
  next noSensor =>
  split
  · next same => simp [same]
  next moves =>
  have shows : (!own && decide (device ∉ t.cfg.sensorDeviceIds) && decide (device ≠ t.act) &&
      (c.seenOf device).hasOn && !(c.seenOf device).lockish) =
        ((c.seenOf device).hasOn && !(c.seenOf device).lockish) := by
    simp [other, noSensor, moves]
  rw [shows]
  split
  · exact switchTo_commands id device
  · rw [List.append_nil]
    split <;> rfl

theorem applyCommand_commands {id : String} {t : Thermo} (p : Json) :
    (c.applyCommand formats id (commandOf p) t p now).1.commands = c.commands ++
      if commandOf p == "set_actuator" && c.chosenNow t p then c.leaving id else [] := by
  by_cases chooses : commandOf p = "set_actuator"
  · rw [chooses, beq_self_eq_true, Bool.true_and]
    exact setActuator_commands p
  · rw [beq_false_of_ne chooses, Bool.false_and, if_neg Bool.false_ne_true, List.append_nil]
    have applied : Applied c id t p now _ := .applyCommand formats
    generalize (c.applyCommand formats id (commandOf p) t p now).1 = c' at applied
    induction applied with
    | untouched => rfl
    | adjusted _ _ _ _ _ ih => exact ih
    | forced => rfl
    | mode => rfl
    | moved device asked => rw [actuatorAsked, if_neg chooses] at asked; cases asked

theorem restoreReading_frame (sensor : String) (r : Json) :
    (restoreReading formats c sensor r).fx = c.fx ∧ (restoreReading formats c sensor r).seen = c.seen := by
  rw [restoreReading]
  split <;> exact ⟨rfl, rfl⟩

/-- What is restored sends nothing, and shows nothing of what a device is. -/
theorem restoreOwn_frame (id : String) (p : Json) :
    (restoreOwn formats c id p now).fx = c.fx ∧ (restoreOwn formats c id p now).seen = c.seen := by
  rw [restoreOwn]
  split
  · exact ⟨rfl, rfl⟩
  dsimp only
  split
  · exact ⟨rfl, rfl⟩
  next readings _ =>
  generalize readings.toList = entries
  suffices restored : ∀ c' : Controller,
      (entries.foldl (fun c r => restoreReading formats c r.1 r.2) c').fx = c'.fx ∧
        (entries.foldl (fun c r => restoreReading formats c r.1 r.2) c').seen = c'.seen from
    restored (c.modify id (restoreThermo formats p now))
  induction entries with
  | nil => exact fun c' => ⟨rfl, rfl⟩
  | cons entry rest ih =>
    intro c'
    obtain ⟨fx, seen⟩ := ih (restoreReading formats c' entry.1 entry.2)
    exact ⟨fx.trans (restoreReading_frame _ _).1, seen.trans (restoreReading_frame _ _).2⟩

theorem restoreOwn_fx (id : String) (p : Json) : (restoreOwn formats c id p now).fx = c.fx :=
  (restoreOwn_frame id p).1

theorem restoreOwn_seen (id : String) (p : Json) : (restoreOwn formats c id p now).seen = c.seen :=
  (restoreOwn_frame id p).2

theorem restoreOwn_commands (id : String) (p : Json) :
    (restoreOwn formats c id p now).commands = c.commands :=
  congrArg (List.filterMap Effect.sentCommand) (restoreOwn_fx id p)

theorem applyLearned_commands (doc : Json) : (applyLearned formats c doc now).commands = c.commands := by
  unfold applyLearned
  split
  · rfl
  next unstarted =>
  clear unstarted
  dsimp only
  generalize ((doc.get "runtime").bind Json.asObject).elim [] (·.toList) = runtime
  have restored : (runtime.foldl (fun c entry =>
      if entry.1 ∉ c.ownRestored && entry.1 ∈ c.therms then restoreOwn formats c entry.1 entry.2 now
      else c) c).commands = c.commands := by
    induction runtime generalizing c with
    | nil => rfl
    | cons entry rest ih =>
      rw [List.foldl_cons, ih]
      split
      · exact restoreOwn_commands entry.1 entry.2
      · rfl
  rw [← restored]
  generalize runtime.foldl _ c = c'
  split
  · rfl
  next kept _ =>
  rw [resubscribe_commands]
  generalize kept.toList = entries
  clear restored
  induction entries generalizing c' with
  | nil => rfl
  | cons entry rest ih =>
    rw [List.foldl_cons, ih]
    split <;> rfl

theorem settleCandidate_commands (unstarted : c.started = false) {device : String}
    {candidate : Candidate} (awaited : c.candidates[device]? = some candidate) :
    (c.settleCandidate device now).commands = c.commands ++
      if (c.seenOf device).hasOn && !(c.seenOf device).lockish then c.leaving candidate.thermostat
      else [] := by
  unfold settleCandidate
  dsimp only
  split
  · next unshown => simp_all
  rw [awaited]
  dsimp only
  rw [evaluate_of_unstarted, resubscribe_commands]
  · split
    · rw [report_commands, switchTo_commands]
      rfl
    · rw [report_commands, List.append_nil]
      rfl
  · rw [resubscribe_started]
    split
    · rw [Rule.report_started, Rule.switchTo_started]
      exact unstarted
    · rw [Rule.report_started]
      exact unstarted

theorem onSensorState_commands (formats : Formats) (now : DateTime) (unstarted : c.started = false)
    (device : String) (payload : Json) :
    (c.onSensorState formats device payload now).commands = c.commands := by
  unfold onSensorState
  split
  · rfl
  split
  · rfl
  · rw [evaluateUsing, evaluateAll_of_unstarted]
    · rfl
    · exact unstarted

theorem onSwitchState_commands (unstarted : c.started = false) (device : String) (on : Bool) :
    (c.onSwitchState device on now).commands = c.commands := by
  unfold onSwitchState
  dsimp only
  have seen : (c.see device fun s => { s with on := some on }).started = false ∧
      (c.see device fun s => { s with on := some on }).commands = c.commands := ⟨unstarted, rfl⟩
  rw [← seen.2]
  generalize (c.see device fun s => { s with on := some on }) = c' at seen
  generalize List.map _ _ = ids
  have unstarted' := seen.1
  clear seen
  induction ids generalizing c' with
  | nil => rfl
  | cons id rest ih =>
    rw [List.foldl_cons, evaluate_of_unstarted, ih]
    · rfl
    · exact unstarted'
    · exact unstarted'

/-- Whether a thermostat runs its switch hangs on what the switch said, not on what it is. -/
theorem see_leaving {device : String} {change : Seen → Seen} (sameOn : ∀ s, (change s).on = s.on)
    (id : String) : (c.see device change).leaving id = c.leaving id := by
  have runs (t : Thermo) : (c.see device change).runsSwitch t = c.runsSwitch t := by
    simp only [runsSwitch, Rule.see_on sameOn t.act]
  have sameTherms : (c.see device change).therms = c.therms := rfl
  simp only [leaving, runs, sameTherms]

theorem settled_commands (now : DateTime) (unstarted : c.started = false) (device : String) :
    (if device ∈ c.candidates then c.settleCandidate device now else c).commands = c.commands ++
      if (c.seenOf device).hasOn && !(c.seenOf device).lockish then
        c.candidates[device]?.elim [] fun candidate => c.leaving candidate.thermostat else [] := by
  split
  · next awaited =>
    obtain ⟨candidate, found⟩ := Option.isSome_iff_exists.mp
      (Std.ExtTreeMap.mem_iff_isSome_getElem?.mp awaited)
    rw [settleCandidate_commands unstarted found, found, Option.elim_some]
  · next absent =>
    rw [Std.ExtTreeMap.mem_iff_isSome_getElem?, Bool.not_eq_true, Option.isSome_eq_false_iff,
      Option.isNone_iff_eq_none] at absent
    rw [absent, Option.elim_none, ite_self, List.append_nil]

/-- What a state message shows of what the device is. -/
def showing (payload : Json) (s : Seen) : Seen :=
  { s with
    hasOn := s.hasOn || ((payload.get "on").bind Json.asBool).isSome
    lockish := s.lockish || (payload.get "locked").isSome }

/-- After a message of another device and, before the start, without its answer. -/
theorem state_commands (now : DateTime) (unstarted : c.started = false) (device : String)
    (payload : Json) :
    (if device ∈ (c.see device (showing payload)).candidates then
        (c.see device (showing payload)).settleCandidate device now
      else c.see device (showing payload)).commands = c.commands ++
        if c.shownSwitch device payload then
          c.candidates[device]?.elim [] fun candidate => c.leaving candidate.thermostat
        else [] := by
  have settled := settled_commands (c := c.see device (showing payload)) now unstarted device
  rw [settled, Rule.see_seenOf]
  simp only [@see_leaving c device (showing payload) fun _ => rfl]
  rfl

theorem onState_commands (unstarted : c.started = false) (device : String) (payload : Json) :
    (c.onState formats device payload now).commands = c.commands ++
      if (c.ownId device).isNone && c.shownSwitch device payload then
        c.candidates[device]?.elim [] fun candidate => c.leaving candidate.thermostat
      else [] := by
  rw [onState]
  split
  · next id own =>
    rw [unstarted, if_neg Bool.false_ne_true, restoreOwn_commands, own]
    exact (List.append_nil c.commands).symm
  next other =>
  have after : (c.see device (showing payload)).started = false := unstarted
  have settled := state_commands now unstarted device payload
  have settledStarted :=
    (Rule.settled_started (c := c.see device (showing payload)) now device).trans after
  rw [other, Option.isNone_none, Bool.true_and, ← settled,
    ← onSensorState_commands formats now settledStarted device payload]
  split
  · rfl
  · exact onSwitchState_commands ((Rule.onSensorState_started ..).trans settledStarted) device _

theorem dropCandidate_commands (device : String) : (c.dropCandidate device).commands = c.commands := by
  unfold dropCandidate
  split
  · rfl
  · rw [resubscribe_commands, report_commands]
    rfl

theorem tick_commands (unstarted : c.started = false) : (c.tick now).commands = c.commands := by
  unfold tick
  dsimp only
  generalize (c.candidates.toList.filter _).map Prod.fst = expired
  induction expired generalizing c with
  | nil => rw [List.foldl_nil, evaluateAll_of_unstarted unstarted]
  | cons device rest ih =>
    rw [List.foldl_cons, ih, dropCandidate_commands]
    rw [Rule.dropCandidate_started]
    exact unstarted

theorem onCommand_commands (unstarted : c.started = false) (device : String) (payload : Json) :
    (c.onCommand formats device payload now).commands = c.commands ++
      (c.ownId device).elim [] fun id => c.therms[id]?.elim [] fun t =>
        if commandOf payload == "set_actuator" && c.chosenNow t payload then c.leaving id else [] := by
  unfold onCommand
  cases c.ownId device with
  | none => exact (List.append_nil c.commands).symm
  | some id =>
    cases found : c.therms[id]? with
    | none =>
      simp only [found, Option.elim_some, Option.elim_none]
      exact (List.append_nil c.commands).symm
    | some t =>
      have applied : Applied c id t payload now _ := .applyCommand formats
      have after := applied.started.trans unstarted
      have sent : (c.applyCommand formats id (commandOf payload) t payload now).1.commands = _ :=
        applyCommand_commands payload
      simp only [found, Option.elim_some]
      rw [← sent]
      generalize c.applyCommand formats id (commandOf payload) t payload now = result at after
      obtain ⟨c', outcome⟩ := result
      cases outcome with
      | later => rw [evaluate_of_unstarted, resubscribe_commands]; exact after
      | done =>
        rw [evaluate_of_unstarted, resubscribe_commands, report_commands]
        exact (Rule.report_started ..).trans after
      | refused error =>
        rw [evaluate_of_unstarted, resubscribe_commands, report_commands]
        exact (Rule.report_started ..).trans after

/-- Before the start commands are sent exactly where a running switch is left. -/
theorem takeIn_commands (formats : Formats) (now : DateTime) (unstarted : c.started = false)
    (early : Early) :
    (c.takeIn formats early now).commands = c.commands ↔ c.leavesSwitch early = false := by
  cases early with
  | heard heard =>
    cases heard with
    | state device payload =>
      simp only [takeIn, hear, leavesSwitch, onState_commands unstarted, List.append_right_eq_self]
      cases (c.ownId device).isNone <;> cases c.shownSwitch device payload <;>
        cases c.candidates[device]? <;> simp [leaving_eq_nil]
    | availability device online =>
      simp only [takeIn, hear, leavesSwitch, iff_true]
      unfold onAvailability
      split
      · rfl
      dsimp only
      rw [evaluateUsing, evaluateAll_of_unstarted]
      · split <;> rfl
      · split <;> exact unstarted
    | learned doc =>
      simp only [takeIn, hear, leavesSwitch, iff_true]
      exact applyLearned_commands doc
  | command device payload =>
    simp only [takeIn, leavesSwitch, onCommand_commands unstarted, List.append_right_eq_self]
    cases c.ownId device with
    | none => simp
    | some id =>
      cases found : c.therms[id]? with
      | none => simp [found]
      | some t =>
        cases commandOf payload == "set_actuator" <;> cases c.chosenNow t payload <;>
          simp [found, leaving_eq_nil]
  | add entry =>
    simp only [takeIn, leavesSwitch, iff_true]
    unfold add
    dsimp only
    have waiting : ({ c with
        fileEntries := c.fileEntries.insert entry.id entry
        therms := c.therms.insert entry.id (Thermo.added entry now) }.resubscribe
          c.usedIds).started = false := unstarted
    rw [waiting, if_neg Bool.false_ne_true, evaluate_of_unstarted waiting, resubscribe_commands]
    rfl
  | remove id =>
    simp only [takeIn, leavesSwitch, remove_commands, List.append_right_eq_self, leaving_eq_nil]
  | recalculateAll force =>
    simp only [takeIn, leavesSwitch, iff_true]
    unfold recalculateAll
    dsimp only
    split
    · rw [tick_commands]
      · rfl
      · exact unstarted
    · exact tick_commands unstarted

/-! ## What the start finds -/

/-- Nothing was asked of its switch. -/
def Unsent (_ : String) (t : Thermo) : Prop := t.commanded = none

theorem unsent_lasting : Lasting Unsent where
  made _ := rfl
  moved _ _ _ := rfl
  heard prev on now unsent := by
    obtain ⟨since, noted⟩ := noteReport_frame false prev on now _
    rw [Unsent, hearSwitch_unasked unsent, noted]
    exact unsent
  restored _ _ _ unsent := unsent
  asked device now unsent := by
    rw [askAgain]
    split <;> exact unsent
  learned _ _ unsent := unsent

namespace Listening

theorem applied {id : String} {t : Thermo} {p : Json} {c' : Controller}
    (listening : c.Listening Unsent) (applied : Applied c id t p now c') : c'.Listening Unsent := by
  induction applied with
  | untouched candidates => exact listening.congr rfl rfl rfl
  | adjusted _ change adjusts _ _ ih => exact ih.modify fun u unsent => (adjusts u).commanded.trans unsent
  | forced change adjusts => exact listening.modify fun u unsent => (adjusts u).commanded.trans unsent
  | mode mode =>
    refine listening.modify fun u unsent => ?_
    split
    · rw [Unsent, changeMode]
      dsimp only
      split <;> exact unsent
    · exact unsent
  | moved device => exact listening.switchTo unsent_lasting now id device

theorem onCommand (listening : c.Listening Unsent) (device : String) (payload : Json) :
    (c.onCommand formats device payload now).Listening Unsent := by
  rw [Controller.onCommand]
  split
  · exact listening
  next id own =>
  split
  · exact listening
  next t found =>
  have applied : (c.applyCommand formats id (commandOf payload) t payload now).1.Listening Unsent :=
    listening.applied (.applyCommand formats)
  generalize c.applyCommand formats id (commandOf payload) t payload now = result at applied
  obtain ⟨c', outcome⟩ := result
  cases outcome with
  | later =>
    have settled := applied.resubscribe c.usedIds
    exact (settled.evaluate id now).symm ▸ settled
  | done =>
    have settled := (applied.report id (operationOf payload) none).resubscribe c.usedIds
    exact (settled.evaluate id now).symm ▸ settled
  | refused error =>
    have settled := (applied.report id (operationOf payload) (some error)).resubscribe c.usedIds
    exact (settled.evaluate id now).symm ▸ settled

theorem add (listening : c.Listening Unsent) (entry : ThermostatEntry) :
    (c.add entry now).Listening Unsent := by
  have added : { c with
      fileEntries := c.fileEntries.insert entry.id entry
      therms := c.therms.insert entry.id (Thermo.added entry now) }.Listening Unsent := by
    refine ⟨listening.unstarted, fun id t found => ?_, fun id file found => ?_⟩
    · rw [Std.ExtTreeMap.getElem?_insert] at found
      split at found
      · cases found
        rfl
      · exact listening.holds id t found
    · rw [Std.ExtTreeMap.getElem?_insert] at found
      split at found
      · next same =>
        cases found
        exact Std.LawfulEqCmp.eq_of_compare same
      · exact listening.files id file found
  have settled := added.resubscribe c.usedIds
  simp only [Controller.add]
  rw [settled.unstarted, if_neg Bool.false_ne_true, settled.evaluate]
  exact settled

theorem remove (listening : c.Listening Unsent) (id : String) : (c.remove id).Listening Unsent := by
  simp only [Controller.remove]
  split
  · exact listening
  refine resubscribe ?_ c.usedIds
  constructor
  · exact listening.unstarted
  · intro other t found
    rw [Std.ExtTreeMap.getElem?_erase] at found
    split at found
    · cases found
    · exact listening.holds other t found
  · intro other file found
    rw [Std.ExtTreeMap.getElem?_erase] at found
    split at found
    · cases found
    · exact listening.files other file found

theorem tick (listening : c.Listening Unsent) : (c.tick now).Listening Unsent := by
  simp only [Controller.tick]
  generalize (c.candidates.toList.filter _).map Prod.fst = expired
  induction expired generalizing c with
  | nil =>
    rw [List.foldl_nil, listening.evaluateAll]
    exact listening
  | cons device rest ih =>
    refine ih ?_
    rw [dropCandidate]
    split
    · exact listening
    · refine resubscribe (report ?_ _ _ _) _
      exact listening.congr rfl rfl rfl

theorem takeIn (listening : c.Listening Unsent) (early : Early) :
    (c.takeIn formats early now).Listening Unsent := by
  cases early with
  | heard heard => exact listening.hear unsent_lasting heard
  | command device payload => exact listening.onCommand device payload
  | add entry => exact listening.add entry
  | remove id => exact listening.remove id
  | recalculateAll force =>
    simp only [Controller.takeIn, recalculateAll]
    split
    · refine tick ⟨listening.unstarted, fun id t found => ?_, listening.files⟩
      rw [Std.ExtTreeMap.getElem?_map, Option.map_eq_some_iff] at found
      obtain ⟨before, found, rfl⟩ := found
      exact listening.holds id before found
    · exact listening.tick

end Listening

/-! ## What the start sends -/

/-- What an evaluation of this thermostat sends. -/
def asks (c : Controller) (now : DateTime) (id : String) : List Command :=
  match c.therms[id]? with
  | none => []
  | some t => sends id t (c.evaluated t now).2

theorem asks_thermostat {id : String} {cmd : Command} (sent : cmd ∈ c.asks now id) :
    cmd.thermostat = id := by
  rw [asks] at sent
  split at sent
  · cases sent
  · rw [sends, Option.mem_toList, Option.map_eq_some_iff] at sent
    obtain ⟨_, _, rfl⟩ := sent
    rfl

/-- Whatever is decided of the others, a thermostat's evaluation sends the same. -/
theorem evaluate_asks {id other : String} (apart : other ≠ id) :
    (c.evaluate id now).asks now other = c.asks now other := by
  rw [evaluate]
  split
  · rfl
  split
  · rfl
  · simp only [asks, Rule.getElem?_insert_of_ne apart]
    rfl

theorem evaluate_commands (started : c.started = true) (id : String) :
    (c.evaluate id now).commands = c.commands ++ c.asks now id := by
  cases found : c.therms[id]? with
  | none => rw [evaluate_of_absent found, asks, found, List.append_nil]
  | some t =>
    rw [asks, found]
    exact congrArg View.commands (evaluate_of_found started found now).2

/-- Each of the thermostats that are decided sends what its own evaluation asks for. -/
theorem evaluateAll_commands (started : c.started = true) {ids : List String} (distinct : ids.Nodup) :
    (c.evaluateAll ids now).commands = c.commands ++ ids.flatMap (c.asks now) := by
  rw [evaluateAll]
  induction ids generalizing c with
  | nil => exact (List.append_nil c.commands).symm
  | cons id rest ih =>
    obtain ⟨absent, distinct⟩ := List.nodup_cons.mp distinct
    have sameLater : rest.flatMap ((c.evaluate id now).asks now) = rest.flatMap (c.asks now) := by
      refine List.flatMap_congr fun other listed => evaluate_asks ?_
      rintro rfl
      exact absent listed
    rw [List.foldl_cons, ih (by rw [evaluate_started, started]) distinct, evaluate_commands started,
      sameLater, List.flatMap_cons, List.append_assoc]

/-- A thermostat that is off owes its switch the OFF of having been set to off, unless the switch
already says so and nothing that has run out has it said again. -/
def owesAtStart (c : Controller) (now : DateTime) (t : Thermo) : Bool :=
  t.enteringOff && !t.act.isEmpty &&
    ((c.seenOf t.act).on != some false || t.overrideUntil.any fun ends => decide (ends ≤ now))

theorem evaluate_of_owed {t : Thermo} {sw : Seen} (fresh : List Rat) (heardAny : Bool)
    (switch : t.act.isEmpty = false) (owed : t.enteringOff = true) (unsent : t.commanded = none)
    (calm : t.force = false) :
    (t.evaluate sw fresh heardAny now).2 = none ↔
      sw.on = some false ∧ (t.overrideUntil.any fun ends => decide (ends ≤ now)) = false := by
  have desired := Thermo.decided_of_owed (sw.on.or t.commanded) fresh heardAny now switch owed
  have force := Thermo.decided_force t (sw.on.or t.commanded) fresh heardAny now
  obtain ⟨_, _, _, _, _, _, _, _, _, _, frame⟩ :=
    Thermo.decided_frame t (sw.on.or t.commanded) fresh heardAny now
  have commanded : (t.decided (sw.on.or t.commanded) fresh heardAny now).thermo.commanded = none := by
    rw [frame]
    exact unsent
  change (Thermo.choose (t.decided (sw.on.or t.commanded) fresh heardAny now) sw
    (sw.on.or t.commanded) now).2 = none ↔ _
  rw [calm, Bool.false_or] at force
  rw [← force]
  generalize t.decided (sw.on.or t.commanded) fresh heardAny now = d at desired commanded
  simp only [Thermo.choose, desired.1, desired.2, commanded, unsent, Option.or_none]
  by_cases off : sw.on = some false <;> cases d.thermo.force <;> simp [off]

/-- Every thermostat settled with what its switch has said, none of them decided yet. -/
def readied (c : Controller) (now : DateTime) : Controller :=
  { c with
    started := true
    therms := c.therms.map fun _ t => startThermo (c.seenOf t.act).on now t }

theorem start_commands (idle : c.commands = []) :
    (c.start now).commands = c.therms.keys.flatMap ((c.readied now).asks now) := by
  have distinct : c.therms.keys.Nodup := by
    refine c.therms.distinct_keys.imp fun {a b} differ same => ?_
    exact differ (by rw [same]; exact Std.ReflCmp.compare_self)
  simp only [start]
  rw [evaluateAll_commands rfl distinct]
  change List.filterMap Effect.sentCommand (c.fx ++ _) ++ _ = _
  rw [List.filterMap_append, registers_silent]
  change c.commands ++ [] ++ _ = _
  rw [idle]
  rfl

/-- Off, a thermostat that has not asked anything sends nothing but the OFF it owes. -/
theorem evaluate_of_off {t : Thermo} {sw : Seen} (fresh : List Rat) (heardAny : Bool)
    (off : t.active = false) (unsent : t.commanded = none) (calm : t.force = false) :
    (t.evaluate sw fresh heardAny now).2 = none ↔
      (t.enteringOff && !t.act.isEmpty && (sw.on != some false ||
        t.overrideUntil.any fun ends => decide (ends ≤ now))) = false := by
  cases owed : t.enteringOff with
  | false =>
    have silent := (Thermo.evaluate_off sw fresh heardAny now off owed).1
    exact ⟨fun _ => rfl, fun _ => silent⟩
  | true =>
    cases switch : t.act.isEmpty with
    | true =>
      refine ⟨fun _ => rfl, fun _ => (Thermo.evaluate_evaluated t sw fresh heardAny now).silent ?_⟩
      rw [Thermo.decided, Thermo.decision, if_pos (by rw [Thermo.prepare_act]; exact switch)]
    | false =>
      rw [evaluate_of_owed fresh heardAny switch owed unsent calm]
      simp only [Bool.not_false, Bool.and_true, Bool.true_and, Bool.or_eq_false_iff,
        bne_eq_false_iff_eq]

/-- Started, a thermostat that is off sends nothing but the OFF it owes. -/
theorem readied_asks {id : String} {t : Thermo} (found : c.therms[id]? = some t)
    (off : t.active = false) (unsent : t.commanded = none) :
    (c.readied now).asks now id = [] ↔ c.owesAtStart now t = false := by
  have there : (c.readied now).therms[id]? = some (startThermo (c.seenOf t.act).on now t) := by
    rw [readied, Std.ExtTreeMap.getElem?_map, found]
    rfl
  have silent : ∀ toSend, sends id (startThermo (c.seenOf t.act).on now t) toSend = [] ↔
      toSend = none := by
    intro toSend
    cases toSend <;> simp [sends]
  rw [asks, there, silent]
  exact evaluate_of_off (t := startThermo (c.seenOf t.act).on now t) _ _ off unsent off

/-- A thermostat that is off owes its switch an OFF. -/
def offOwing (c : Controller) (now : DateTime) : Bool :=
  c.values.any fun t => !t.active && c.owesAtStart now t

/-- Starting leaves every thermostat that is off alone exactly when none of them owes an OFF. -/
theorem start_leaves_off (listening : c.Listening Unsent) (idle : c.commands = []) :
    (∀ cmd ∈ (c.start now).commands, OffWatch.isOff c cmd.thermostat = false) ↔
      c.offOwing now = false := by
  rw [start_commands idle]
  constructor
  · intro leaves
    refine List.any_eq_false.mpr fun t member owing => ?_
    obtain ⟨id, found⟩ := mem_values.mp member
    rw [Bool.and_eq_true, Bool.not_eq_true'] at owing
    have sends := mt (readied_asks found owing.1 (listening.holds id t found)).mp
      (by rw [owing.2]; exact Bool.noConfusion)
    obtain ⟨cmd, sent⟩ := List.exists_mem_of_ne_nil _ sends
    have key : id ∈ c.therms.keys := by
      rw [Std.ExtTreeMap.mem_keys, Std.ExtTreeMap.mem_iff_isSome_getElem?, found]
      rfl
    have left := leaves cmd (List.mem_flatMap.mpr ⟨id, key, sent⟩)
    have mine : cmd.thermostat = id := asks_thermostat sent
    rw [mine, OffWatch.isOff_of_found found, owing.1] at left
    cases left
  · intro owing cmd sent
    obtain ⟨id, _, sent⟩ := List.mem_flatMap.mp sent
    rw [asks_thermostat sent, OffWatch.isOff]
    cases found : c.therms[id]? with
    | none => rfl
    | some t =>
      rw [Option.any_some]
      by_contra off
      rw [Bool.not_eq_false, Bool.not_eq_true'] at off
      have owes := List.any_eq_false.mp owing t (mem_values.mpr ⟨id, found⟩)
      rw [off, Bool.not_false, Bool.true_and, Bool.not_eq_true] at owes
      rw [(readied_asks found off (listening.holds id t found)).mpr owes] at sent
      cases sent

/-! ## Whole runs -/

/-- An input before the start, its effects carried out. -/
def early (formats : Formats) (c : Controller) (message : Early × DateTime) : Controller :=
  (c.takeIn formats message.1 message.2).takeEffects.1

/-- Nothing is sent before the start, and starting sends nothing for a thermostat that is off. -/
def QuietUntilStarted (formats : Formats) (entries : List ThermostatEntry)
    (messages : List (Early × DateTime)) (startedAt : DateTime) : Prop :=
  Runs.EachStep (early formats)
      (fun c message => (c.takeIn formats message.1 message.2).commands = []) (new entries) messages ∧
    ∀ cmd ∈ ((messages.foldl (early formats) (new entries)).start startedAt).commands,
      OffWatch.isOff (messages.foldl (early formats) (new entries)) cmd.thermostat = false

/-- Not started, with nothing asked of any switch and nothing left to send. -/
def Idle (c : Controller) : Prop := c.Listening Unsent ∧ c.commands = []

theorem new_idle (entries : List ThermostatEntry) : (new entries).Idle :=
  ⟨new_listening unsent_lasting entries, rfl⟩

theorem Idle.early (idle : c.Idle) (message : Early × DateTime) : (c.early formats message).Idle := by
  have taken : (c.takeIn formats message.1 message.2).Listening Unsent := idle.1.takeIn message.1
  exact ⟨taken.congr rfl rfl rfl, rfl⟩

/-- It is quiet until it is started exactly where no running switch is left and no thermostat that
is off owes an OFF when it is started. -/
theorem quiet_until_started (formats : Formats) (entries : List ThermostatEntry)
    (messages : List (Early × DateTime)) (startedAt : DateTime) :
    QuietUntilStarted formats entries messages startedAt ↔
      Runs.EachStep (early formats) (fun c message => c.leavesSwitch message.1 = false)
          (new entries) messages ∧
        (messages.foldl (early formats) (new entries)).offOwing startedAt = false := by
  have keeps : ∀ (c : Controller) message, c.Idle → (c.early formats message).Idle :=
    fun _ message idle => idle.early message
  have reached := (Runs.kept Idle keeps (new_idle entries) messages).last
  refine and_congr ?_ (start_leaves_off reached.1 reached.2)
  refine Runs.eachStep_iff Idle keeps (fun c message idle => ?_) (new_idle entries) messages
  rw [← takeIn_commands formats message.2 idle.1.unstarted message.1, idle.2]

instance (formats : Formats) (entries : List ThermostatEntry) (messages : List (Early × DateTime))
    (startedAt : DateTime) : Decidable (QuietUntilStarted formats entries messages startedAt) :=
  inferInstanceAs (Decidable (_ ∧ _))

/-- The den is taken away while its AC is on, before the plugin is started. -/
def denRemoved : List (Early × DateTime) :=
  [(.heard (.state "den_ac" (.obj [("on", .bool true)])), secs 1), (.remove "den", secs 2)]

/-- The den is set to off before the plugin is started. -/
def denSetOff : List (Early × DateTime) :=
  [(.command "thermostat_den" (.obj [("hvac_mode", .str "off")]), secs 1)]

theorem den_not_quiet :
    ¬ QuietUntilStarted OffWatch.plain [OffWatch.den] denRemoved (secs 3) ∧
      ¬ QuietUntilStarted OffWatch.plain [OffWatch.den] denSetOff (secs 3) := by
  decide

end HomeCore.Thermostat.Controller
