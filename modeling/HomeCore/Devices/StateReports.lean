import HomeCore.Devices.StateBridgeProofs
import HomeCore.Runs

/-! Runs of state reports, kept beside a log of what each did to the attributes
of its device. The log is what the recorded times are judged by. -/
namespace HomeCore

/-- The attributes stored for a device before and after one report. -/
structure LoggedReport where
  time : DateTime
  deviceId : String
  before : AttrMap
  after : AttrMap

/-- The bridge and the reports it has received, the newest first. -/
structure ReportRun where
  bridge : StateBridge
  log : List LoggedReport

inductive BridgeInput where
  | command (now : DateTime) (deviceId : String) (payload : Json)
  | report (now : DateTime) (failing : Option StoreCall) (deviceId : String) (incoming : Json)
      (isPartial : Bool)

def StateBridge.stored (bridge : StateBridge) (deviceId : String) : AttrMap :=
  ((bridge.store.getDevice deviceId).map (·.attributes)).getD ∅

def ReportRun.step (readers : ChangeReaders) (run : ReportRun) : BridgeInput → ReportRun
  | .command now deviceId payload =>
    { run with bridge := run.bridge.recordPendingCommandChange readers now deviceId payload }
  | .report now failing deviceId incoming isPartial =>
    let bridge := (run.bridge.handleState readers now failing deviceId incoming isPartial).1
    ⟨bridge, ⟨now, deviceId, run.bridge.stored deviceId, bridge.stored deviceId⟩ :: run.log⟩

def LoggedReport.altered (entry : LoggedReport) (deviceId key : String) : Bool :=
  entry.deviceId == deviceId && entry.before[key]? != entry.after[key]?

/-- The time of the report that last altered an attribute. -/
def lastAltered (log : List LoggedReport) (deviceId key : String) : Option DateTime :=
  (log.find? (·.altered deviceId key)).map (·.time)

/-! ## What a report is for -/

/-- A field of the payload that says where the report comes from. -/
def isProvenance (payload : AttrMap) (key : String) : Bool :=
  key ∈ provenanceKeys || (key == "timestamp" && payload.contains "origin")

/-- A full report replaces the attributes by its readings; a partial one sets
those it names, and removes the ones it names as null. -/
def reportedValue (stored payload : AttrMap) (isPartial : Bool) (key : String) : Option Json :=
  match if isProvenance payload key then none else payload[key]?, isPartial with
  | reading, false => reading
  | some value, true => if value = .null then none else some value
  | none, true => if key ∈ provenanceKeys then none else stored[key]?

/-- The part of an event that says which attributes moved. -/
def stateChange : Event → Option (String × AttrMap × AttrMap × List String)
  | .deviceStateChanged _ deviceId _ previous current changed _ =>
    some (deviceId, previous, current, changed)
  | _ => none

/-- A handled report, from the attributes stored before it to the record and
the events after it. -/
structure Reported (before payload : AttrMap) (isPartial : Bool) (after : DeviceState)
    (events : List Event) : Prop where
  stores : ∀ key, after.attributes[key]? = reportedValue before payload isPartial key
  bare : ∀ key, isProvenance payload key = true →
    after.attributes[key]? = if key ∉ provenanceKeys ∧ isPartial = true then before[key]? else none
  announces : ∃ changed : List String, changed.Nodup ∧
    (∀ key, key ∈ changed ↔ before[key]? ≠ after.attributes[key]?) ∧
    events.filterMap stateChange =
      if changed = [] then [] else [(after.deviceId, before, after.attributes, changed)]

/-- A report does what it is for, to its own device alone, or, where it is not
an object or the store fails it or refuses the device, nothing. -/
def Processed (readers : ChangeReaders) (run : ReportRun) : BridgeInput → Prop
  | .command now deviceId payload =>
    (run.step readers (.command now deviceId payload)).bridge.store = run.bridge.store
  | .report now failing deviceId incoming isPartial =>
    let result := run.bridge.handleState readers now failing deviceId incoming isPartial
    (∀ payload, incoming.asObject = some payload → Handled run.bridge.store failing deviceId →
      ∃ after events, result.2 = .ok events ∧ result.1.store.getDevice deviceId = some after ∧
        Reported (run.bridge.stored deviceId) payload isPartial after events) ∧
    (incoming.asObject = none ∨ ¬ Handled run.bridge.store failing deviceId →
      result.1.store = run.bridge.store ∧ ∀ events, result.2 = .ok events → events = []) ∧
    ∀ other ≠ deviceId, result.1.store.getDevice other = run.bridge.store.getDevice other

/-- The time a record came with, for an attribute no report has altered. -/
def StateBridge.stampAtStart (start : StateBridge) (deviceId key : String) : Option DateTime :=
  (start.store.getDevice deviceId).bind (·.attributesChangedAt[key]?)

/-- The recorded times are of attributes the record has, and are those of the
reports that last altered them. -/
structure Timed (times : String → Option DateTime) (device : DeviceState) : Prop where
  within : ∀ key ∈ device.attributesChangedAt, key ∈ device.attributes
  exact : ∀ key ∈ device.attributes, device.attributesChangedAt[key]? = times key

def StampsTrue (start : StateBridge) (run : ReportRun) : Prop :=
  ∀ deviceId device, run.bridge.store.getDevice deviceId = some device →
    Timed (fun key => (lastAltered run.log deviceId key).or (start.stampAtStart deviceId key)) device

end HomeCore

/-! Every run of reports stores, announces and times exactly what was reported. -/
namespace HomeCore

theorem getElem?_stripProvenance (payload : AttrMap) (key : String) :
    (stripProvenance payload)[key]? = if isProvenance payload key then none else payload[key]? := by
  unfold stripProvenance isProvenance
  split
  all_goals
    simp only [Std.ExtTreeMap.getElem?_erase, Std.compare_eq_iff_eq, provenanceKeys]
    grind

theorem isProvenance_of_mem {payload : AttrMap} {key : String} (member : key ∈ provenanceKeys) :
    isProvenance payload key = true := by
  simp [isProvenance, member]

theorem getElem?_reported (stored payload : AttrMap) (isPartial : Bool) (key : String) :
    (reportedAttributes stored payload isPartial)[key]? =
      reportedValue stored payload isPartial key := by
  rw [getElem?_reportedAttributes]
  unfold reportedValue
  by_cases member : key ∈ provenanceKeys
  · cases isPartial <;> simp [member, isProvenance_of_mem member]
  · cases isPartial with
    | false => simp [member, getElem?_stripProvenance]
    | true =>
      simp only [member, if_false, if_true, getElem?_applyPartialMergePatch, getElem?_stripProvenance]
      cases if isProvenance payload key = true then none else payload[key]? with
      | none => rfl
      | some value => rfl

theorem reportedValue_of_provenance {stored payload : AttrMap} {isPartial : Bool} {key : String}
    (provenance : isProvenance payload key = true) :
    reportedValue stored payload isPartial key =
      if key ∉ provenanceKeys ∧ isPartial = true then stored[key]? else none := by
  unfold reportedValue
  cases isPartial with
  | false => simp [provenance]
  | true => by_cases member : key ∈ provenanceKeys <;> simp [provenance, member]

theorem mem_changedKeys {previous current : AttrMap} {key : String} :
    key ∈ changedKeys previous current ↔ previous[key]? ≠ current[key]? := by
  simp only [changedKeys, List.mem_append, List.mem_filter, Std.ExtTreeMap.mem_keys, bne_iff_ne,
    Bool.and_eq_true, Bool.not_eq_true']
  by_cases isCurrent : key ∈ current
  · simp [isCurrent]
  · by_cases wasPrevious : key ∈ previous
    · have absent : current.contains key = false := by
        rwa [Bool.eq_false_iff, ne_eq, Std.ExtTreeMap.contains_iff_mem]
      simp [isCurrent, wasPrevious, absent]
    · simp [isCurrent, wasPrevious]

theorem nodup_changedKeys (previous current : AttrMap) : (changedKeys previous current).Nodup := by
  simp only [changedKeys]
  refine List.Nodup.append (current.nodup_keys.filter _) (previous.nodup_keys.filter _) ?_
  intro key isChanged isRemoved
  have isCurrent := (List.mem_filter.mp isChanged).1
  have notCurrent := (List.mem_filter.mp isRemoved).2
  rw [Std.ExtTreeMap.mem_keys, ← Std.ExtTreeMap.contains_iff_mem] at isCurrent
  simp only [isCurrent, Bool.not_true, Bool.false_and, Bool.false_eq_true] at notCurrent

theorem getElem?_foldl_insert (now : DateTime) (keys : List String)
    (stamps : Std.ExtTreeMap String DateTime) (key : String) :
    (keys.foldl (fun stamps key => stamps.insert key now) stamps)[key]? =
      if key ∈ keys then some now else stamps[key]? := by
  induction keys generalizing stamps with
  | nil => simp
  | cons first rest ih =>
    rw [List.foldl_cons, ih, Std.ExtTreeMap.getElem?_insert]
    simp only [Std.compare_eq_iff_eq, List.mem_cons]
    grind

theorem getElem?_stampChanged (now : DateTime) {changed : List String} (moved : changed ≠ [])
    (attributes : AttrMap) (changedAt : Std.ExtTreeMap String DateTime) (key : String) :
    (stampChanged now changed attributes changedAt)[key]? =
      if key ∈ attributes then if key ∈ changed then some now else changedAt[key]? else none := by
  simp only [stampChanged, List.isEmpty_iff, moved, if_false, Std.ExtTreeMap.getElem?_filter']
  rw [getElem?_foldl_insert]
  by_cases member : key ∈ attributes
  · have kept : attributes.contains key = true := Std.ExtTreeMap.contains_iff_mem.mpr member
    simp only [member, kept, if_true]
    split
    · rfl
    · cases changedAt[key]? <;> rfl
  · have dropped : attributes.contains key = false := by
      rwa [Bool.eq_false_iff, ne_eq, Std.ExtTreeMap.contains_iff_mem]
    simp [member, dropped]

theorem filterMap_reportEvents (now : DateTime) (kind : DeviceWrite) (before after : DeviceState)
    (change : DeviceChange) :
    (reportEvents now kind before after change).filterMap stateChange =
      if changedKeys before.attributes after.attributes = [] then []
      else [(after.deviceId, before.attributes, after.attributes,
        changedKeys before.attributes after.attributes)] := by
  have announced : (announcement now kind after).filterMap stateChange = [] := by
    cases kind <;> rfl
  simp only [reportEvents, List.filterMap_append, announced, List.isEmpty_iff]
  by_cases quiet : changedKeys before.attributes after.attributes = []
  · simp only [quiet, if_true]
    split <;> split <;> rfl
  · simp only [quiet, if_false]
    split <;> split <;> rfl

section Report
variable (readers : ChangeReaders) (now : DateTime) (failing : Option StoreCall) (run : ReportRun)
  (deviceId : String) (incoming : Json) (isPartial : Bool)

theorem processed_report :
    Processed readers run (.report now failing deviceId incoming isPartial) := by
  dsimp only [Processed]
  refine ⟨?_, ?_, ?_⟩
  · intro payload isObject handled
    obtain ⟨after, kind, change, idEq, attributesEq, _, storeEq, eventsEq⟩ :=
      handleState_handled readers now failing run.bridge deviceId incoming isPartial isObject handled
    have storedEq := recordBefore_attributes now deviceId run.bridge.store
    rw [storedEq] at attributesEq
    refine ⟨after, _, eventsEq, ?_, ?_⟩
    · rw [storeEq, getDevice_upsert, if_pos idEq]
    · refine ⟨?_, ?_, changedKeys (run.bridge.stored deviceId) after.attributes,
        nodup_changedKeys _ _, fun _ => mem_changedKeys, ?_⟩
      · intro key
        rw [attributesEq]
        exact getElem?_reported _ _ _ _
      · intro key provenance
        rw [attributesEq, getElem?_reported, reportedValue_of_provenance provenance]
        rfl
      · rw [filterMap_reportEvents, storedEq]
        rfl
  · intro ignored
    exact handleState_ignored readers now failing run.bridge deviceId incoming isPartial ignored
  · intro other apart
    by_cases handled : incoming.asObject = none ∨ ¬ Handled run.bridge.store failing deviceId
    · rw [(handleState_ignored readers now failing run.bridge deviceId incoming isPartial handled).1]
    · obtain ⟨isSome, handled⟩ := not_or.mp handled
      obtain ⟨payload, isObject⟩ := Option.ne_none_iff_exists'.mp isSome
      obtain ⟨after, _, _, idEq, _, _, storeEq, _⟩ :=
        handleState_handled readers now failing run.bridge deviceId incoming isPartial isObject
          (not_not.mp handled)
      rw [storeEq, getDevice_upsert, if_neg (idEq ▸ apart.symm)]

end Report

theorem processed_step (readers : ChangeReaders) (run : ReportRun) (input : BridgeInput) :
    Processed readers run input := by
  cases input with
  | command now deviceId payload =>
    simp only [Processed, ReportRun.step, StateBridge.recordPendingCommandChange]
    split <;> rfl
  | report now failing deviceId incoming isPartial =>
    exact processed_report readers now failing run deviceId incoming isPartial

theorem lastAltered_cons (entry : LoggedReport) (log : List LoggedReport) (deviceId key : String) :
    lastAltered (entry :: log) deviceId key =
      if entry.altered deviceId key then some entry.time else lastAltered log deviceId key := by
  simp only [lastAltered, List.find?_cons]
  cases entry.altered deviceId key <;> rfl

theorem altered_iff {entry : LoggedReport} {deviceId key : String} :
    entry.altered deviceId key = true ↔
      entry.deviceId = deviceId ∧ entry.before[key]? ≠ entry.after[key]? := by
  simp [LoggedReport.altered]

/-- What a report does to the times of its own record, from whatever times the
attributes stored before it had. -/
theorem timed_stampChanged {before after : DeviceState} {times later : String → Option DateTime}
    (now : DateTime) (timed : Timed times before)
    (stamped : after.attributesChangedAt = stampChanged now
      (changedKeys before.attributes after.attributes) after.attributes before.attributesChangedAt)
    (laterEq : ∀ key, later key =
      if before.attributes[key]? ≠ after.attributes[key]? then some now else times key) :
    Timed later after := by
  by_cases quiet : changedKeys before.attributes after.attributes = []
  · have same := changedKeys_eq_nil.mp quiet
    simp only [stampChanged, quiet, List.isEmpty_nil, if_true] at stamped
    refine ⟨?_, ?_⟩
    · intro key member
      rw [stamped] at member
      exact same ▸ timed.within key member
    · intro key member
      rw [laterEq, same, if_neg (by simp), stamped]
      exact timed.exact key (same ▸ member)
  · have lookup := getElem?_stampChanged now quiet after.attributes before.attributesChangedAt
    rw [← stamped] at lookup
    refine ⟨?_, ?_⟩
    · intro key member
      by_contra absent
      rw [Std.ExtTreeMap.mem_iff_isSome_getElem?, lookup, if_neg absent] at member
      cases member
    · intro key member
      rw [lookup, if_pos member, laterEq]
      simp only [mem_changedKeys]
      by_cases moved : before.attributes[key]? ≠ after.attributes[key]?
      · rw [if_pos moved, if_pos moved]
      · have wasMember : key ∈ before.attributes := by
          rw [Std.ExtTreeMap.mem_iff_isSome_getElem?] at member ⊢
          rwa [not_not.mp moved]
        rw [if_neg moved, if_neg moved]
        exact timed.exact key wasMember

theorem stampsTrue_report (readers : ChangeReaders) (now : DateTime) (failing : Option StoreCall)
    (start : StateBridge) (run : ReportRun) (deviceId : String) (incoming : Json) (isPartial : Bool)
    (truthful : StampsTrue start run) :
    StampsTrue start (run.step readers (.report now failing deviceId incoming isPartial)) := by
  intro other device found
  simp only [ReportRun.step, lastAltered_cons, altered_iff] at found ⊢
  by_cases ignored : incoming.asObject = none ∨ ¬ Handled run.bridge.store failing deviceId
  · have storeEq :=
      (handleState_ignored readers now failing run.bridge deviceId incoming isPartial ignored).1
    rw [storeEq] at found
    simpa [StateBridge.stored, storeEq] using truthful other device found
  · obtain ⟨isSome, handled⟩ := not_or.mp ignored
    obtain ⟨payload, isObject⟩ := Option.ne_none_iff_exists'.mp isSome
    obtain ⟨after, _, _, idEq, _, stampsEq, storeEq, _⟩ :=
      handleState_handled readers now failing run.bridge deviceId incoming isPartial isObject
        (not_not.mp handled)
    rw [storeEq, getDevice_upsert, idEq] at found
    simp only [StateBridge.stored, storeEq, getDevice_upsert, idEq, if_true, Option.map_some,
      Option.getD_some]
    by_cases isSubject : deviceId = other
    · subst isSubject
      rw [if_pos rfl] at found
      cases found
      have timedBefore : Timed
          (fun key => (lastAltered run.log deviceId key).or (start.stampAtStart deviceId key))
          (recordBefore now deviceId run.bridge.store) := by
        unfold recordBefore
        cases known : run.bridge.store.getDevice deviceId with
        | some record => exact truthful deviceId record known
        | none => refine ⟨?_, ?_⟩ <;> simp [StateBridge.newDevice, DeviceState.new]
      refine timed_stampChanged now timedBefore stampsEq ?_
      intro key
      rw [recordBefore_attributes]
      split <;> simp_all
    · rw [if_neg isSubject] at found
      simpa [isSubject] using truthful other device found

theorem stampsTrue_step (readers : ChangeReaders) (start : StateBridge) (run : ReportRun)
    (input : BridgeInput) (truthful : StampsTrue start run) :
    StampsTrue start (run.step readers input) := by
  cases input with
  | command now deviceId payload =>
    have storeEq : (run.step readers (.command now deviceId payload)).bridge.store =
        run.bridge.store := processed_step readers run (.command now deviceId payload)
    intro other device found
    rw [storeEq] at found
    exact truthful other device found
  | report now failing deviceId incoming isPartial =>
    exact stampsTrue_report readers now failing start run deviceId incoming isPartial truthful

/-- From any store whose records time only attributes they have, as registration
leaves them: over every run of full and partial reports each one stores,
announces and times exactly what it altered. -/
theorem reports_processed (readers : ChangeReaders) (start : StateBridge)
    (stamped : ∀ deviceId device, start.store.getDevice deviceId = some device →
      ∀ key ∈ device.attributesChangedAt, key ∈ device.attributes)
    (inputs : List BridgeInput) :
    Runs.EachStep (ReportRun.step readers) (Processed readers) ⟨start, []⟩ inputs ∧
      Runs.Always (ReportRun.step readers) (StampsTrue start) ⟨start, []⟩ inputs := by
  have truthful : StampsTrue start ⟨start, []⟩ := by
    intro deviceId device found
    refine ⟨stamped deviceId device found, ?_⟩
    intro key _
    simp [lastAltered, StateBridge.stampAtStart, found]
  have always := Runs.kept (StampsTrue start) (stampsTrue_step readers start) truthful inputs
  exact ⟨always.eachStep fun run input _ => processed_step readers run input, always⟩

/-- A sensor as its plugin registers it. -/
def registeredSensor : StateBridge :=
  ⟨DeviceStore.upsert ⟨∅, [], DeviceStore.none_keyed⟩ (.new "sensor" "sensor" "shelly" 0), ∅⟩

/-- It reports in full, then removes one reading and adds another under its own
provenance. -/
def sensorReports : List BridgeInput :=
  [.report 5 none "sensor" (.obj [("on", .bool true), ("lux", .num (.posInt 7))]) false,
   .report 9 none "sensor"
     (.obj [("lux", .null), ("battery", .num (.posInt 50)), ("origin", .str "shelly")]) true]

theorem sensor_reports_processed :
    let readers : ChangeReaders := ⟨fun _ _ => none, fun _ => none⟩
    let run := sensorReports.foldl (ReportRun.step readers) ⟨registeredSensor, []⟩
    (((run.bridge.store.getDevice "sensor").map (·.attributesChangedAt.toList)) =
      some [("battery", 9), ("on", 5)]) ∧
    Runs.EachStep (ReportRun.step readers) (Processed readers) ⟨registeredSensor, []⟩ sensorReports ∧
      Runs.Always (ReportRun.step readers) (StampsTrue registeredSensor) ⟨registeredSensor, []⟩
        sensorReports := by
  intro readers run
  refine ⟨by decide +kernel, reports_processed readers registeredSensor ?_ sensorReports⟩
  intro deviceId device found
  simp only [registeredSensor, getDevice_upsert] at found
  split at found
  · cases found
    simp [DeviceState.new]
  · simp [DeviceStore.getDevice] at found

end HomeCore
