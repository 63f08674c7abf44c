import HomeCore.Alerts.Batteries
import HomeCore.Devices.StateReports

/-! The low batteries that a pass finds, worked out for each device alone, and what the steps of a
house do to them and to the latches. -/
namespace HomeCore.Alerts
variable {words : Words} {house : House} {active : AlertMap} {memory : Memory} {alert : ActiveAlert}
  {device : DeviceState} {deviceId : String}

/-! ## The low batteries of a pass -/

theorem lowBatteryAlert_id (raised : lowBatteryAlert words house active device = some alert) :
    alert.id = Batteries.lowId device.deviceId ∧ alert.kind = .lowBattery ∧
      alert.deviceId = device.deviceId := by
  simp only [lowBatteryAlert, Option.ite_none_right_eq_some, Option.some.injEq] at raised
  obtain ⟨_, rfl⟩ := raised
  exact ⟨rfl, rfl, rfl⟩

theorem raised_low_by_visitDevice
    (visited : alert ∈ (visitDevice words house active memory device).2) (isLow : alert.kind = .lowBattery) :
    lowBatteryAlert words house active device = some alert := by
  simp only [visitDevice, List.mem_append, Option.mem_toList] at visited
  rcases visited with (((offline | wet) | smoke) | jammed) | low
  · simp only [offlineAlert, Option.ite_none_right_eq_some, Option.some.injEq] at offline
    obtain ⟨_, rfl⟩ := offline
    cases isLow
  · obtain ⟨attr, _, rfl⟩ := Option.map_eq_some_iff.mp wet
    cases isLow
  · obtain ⟨attr, _, rfl⟩ := Option.map_eq_some_iff.mp smoke
    cases isLow
  · simp only [jammedAlert, Option.ite_none_right_eq_some, Option.some.injEq] at jammed
    obtain ⟨_, rfl⟩ := jammed
    cases isLow
  · exact low

/-- The id of a low battery is no other alert's. -/
theorem kind_of_lowId (origin : Origin words house active alert)
    (same : alert.id = Batteries.lowId deviceId) : alert.kind = .lowBattery := by
  obtain ⟨_, joined⟩ := shaped_of_origin origin
  have lowJoined : joinedId ({ alert.toAlert with
      kind := .lowBattery, deviceId := deviceId, ruleId := none, pluginId := none, topic := none, key := none }) =
        (Batteries.lowId deviceId).toList := by
    simp [joinedId, about, Batteries.lowId, AlertKind.asStr]
  rw [same, ← lowJoined] at joined
  exact ((joinedId_eq_iff _ _).mp joined.symm).1

/-- An alert under the id of a low battery is that device's. -/
theorem low_of_origin (origin : Origin words house active alert)
    (same : alert.id = Batteries.lowId deviceId) :
    alert.deviceId = deviceId ∧ ∃ device ∈ house.devices.listDevices, device.deviceId = deviceId ∧
      (lowBatteryAlert words house active device).isSome := by
  have isLow := kind_of_lowId origin same
  cases origin with
  | own memory device raisedAs stored visited kept =>
    subst kept
    have raised := raised_low_by_visitDevice visited isLow
    have ids : Batteries.lowId device.deviceId = Batteries.lowId deviceId :=
      (lowBatteryAlert_id raised).1.symm.trans same
    have isDevice : device.deviceId = deviceId := by simpa [Batteries.lowId] using ids
    refine ⟨?_, device, stored, isDevice, Option.isSome_of_eq_some raised⟩
    exact (lowBatteryAlert_id raised).2.2.trans isDevice
  | timed memory rule deviceId raisedAs stored enabled named visited kept =>
    obtain ⟨device, start, found, rfl⟩ := ruleAlert_of_visitRule visited
    subst kept
    cases isLow
  | reported report last built =>
    subst built
    cases isLow

theorem mem_visitAll_of {α : Type} {visit : Memory → α → Memory × List ActiveAlert} {items : List α}
    {item : α} (member : item ∈ items) (visited : ∀ memory, alert ∈ (visit memory item).2) :
    alert ∈ (visitAll visit memory items).2 := by
  induction items generalizing memory with
  | nil => cases member
  | cons first rest ih =>
    refine List.mem_append.mpr ?_
    rcases List.mem_cons.mp member with rfl | later
    · exact .inl (visited memory)
    · exact .inr (ih later)

theorem desired_of_low (stored : device ∈ house.devices.listDevices)
    (raised : lowBatteryAlert words house active device = some alert) :
    ∃ found, (desired words house active memory).2[Batteries.lowId device.deviceId]? = some found := by
  have own : alert ∈ (visitAll (visitDevice words house active) memory house.devices.listDevices).2 := by
    refine mem_visitAll_of stored fun memory => ?_
    simp only [visitDevice, List.mem_append, Option.mem_toList]
    exact .inr raised
  have listed : ∃ a ∈ ((visitAll (visitDevice words house active) memory house.devices.listDevices).2 ++
      (visitAll (visitRule words house)
        (visitAll (visitDevice words house active) memory house.devices.listDevices).1
        ((house.rules.filter (·.enabled)).flatMap fun rule => rule.deviceIds.map (rule, ·))).2).map
          (keepRaisedAt active), a.id = Batteries.lowId device.deviceId :=
    ⟨keepRaisedAt active alert, List.mem_map_of_mem (List.mem_append_left _ own), (lowBatteryAlert_id raised).1⟩
  obtain ⟨a, member, same⟩ := listed
  simp only [desired, getElem?_collect]
  rw [← Option.isSome_iff_exists, List.findRev?_eq_find?_reverse, List.find?_isSome]
  exact ⟨a, List.mem_reverse.mpr member, beq_iff_eq.mpr same⟩

/-- A pass that hides no low battery of a device has one active exactly where the device calls for it. -/
theorem contains_workOut_iff (hides : Batteries.HidesNone deviceId house) :
    (workOut words house active memory).2.contains (Batteries.lowId deviceId) = true ↔
      ∃ device ∈ house.devices.listDevices, device.deviceId = deviceId ∧
        (lowBatteryAlert words house active device).isSome := by
  rw [Std.ExtTreeMap.contains_iff_mem, Std.ExtTreeMap.mem_iff_isSome_getElem?, Option.isSome_iff_exists]
  constructor
  · rintro ⟨alert, found⟩
    obtain ⟨same, origin⟩ := origin_of_workOut found
    exact (low_of_origin origin same).2
  · rintro ⟨device, stored, rfl, raised⟩
    obtain ⟨alert, raised⟩ := Option.isSome_iff_exists.mp raised
    obtain ⟨known, found⟩ : ∃ known,
        (desired words house active memory).2[Batteries.lowId device.deviceId]? = some known :=
      desired_of_low stored raised
    obtain ⟨both, foundBoth⟩ : ∃ both, ((desired words house active memory).2 ∪
        fromPlugins words house active)[Batteries.lowId device.deviceId]? = some both := by
      rw [Std.ExtTreeMap.getElem?_union, found]
      cases (fromPlugins words house active)[Batteries.lowId device.deviceId]? with
      | none => exact ⟨known, rfl⟩
      | some other => exact ⟨other, rfl⟩
    have origin : both.id = Batteries.lowId device.deviceId ∧ Origin words house active both := by
      rw [Std.ExtTreeMap.getElem?_union] at foundBoth
      rcases Option.or_eq_some_iff.mp foundBoth with plugin | ⟨_, own⟩
      · exact origin_of_fromPlugins plugin
      · exact origin_of_desired own
    have isLow := kind_of_lowId origin.2 origin.1
    refine ⟨both, ?_⟩
    rw [workOut, getElem?_unignored, foundBoth, Option.filter_some, if_pos]
    rw [Bool.not_eq_true', List.any_eq_false]
    intro ignore member covers
    rw [hides ignore member both.toAlert isLow (low_of_origin origin.2 origin.1).1] at covers
    cases covers

namespace Batteries
variable {s : Batteries} {now : DateTime}

/-- What the alert engine makes of a device. -/
def callsLow (words : Words) (s : Batteries) (device : DeviceState) : Bool :=
  isTrue device "battery_low" ||
    (batteryPct device).any (Hysteresis.answer s.battery.thresholdPct
      (words.add s.battery.thresholdPct s.battery.recoverBandPct) (s.active.contains (lowId device.deviceId)))

theorem lowBatteryAlert_isSome (house : House) (device : DeviceState) :
    (lowBatteryAlert words (s.seenIn house) s.active device).isSome = s.callsLow words device := by
  have reads : callsLow words s device = (isTrue device "battery_low" || (batteryPct device).any fun p =>
      p ≤ s.battery.thresholdPct || (s.active.contains ("low_battery:" ++ device.deviceId) &&
        p < words.add s.battery.thresholdPct s.battery.recoverBandPct)) := rfl
  rw [reads, lowBatteryAlert, Bool.eq_iff_iff]
  exact Option.isSome_ite

/-- What a pass leaves active of a device. -/
theorem pass_low (hides : HidesNone deviceId house) :
    (s.pass words house).active.contains (lowId deviceId) =
      (s.devices.getDevice deviceId).any (s.callsLow words) := by
  have hidesToo : HidesNone deviceId (s.seenIn house) := hides
  rw [Bool.eq_iff_iff, pass, contains_workOut_iff hidesToo, Option.any_eq_true]
  constructor
  · rintro ⟨device, stored, rfl, raised⟩
    rw [lowBatteryAlert_isSome] at raised
    exact ⟨device, DeviceStore.mem_listDevices.mp stored, raised⟩
  · rintro ⟨device, found, low⟩
    obtain rfl := s.devices.keyed _ _ found
    exact ⟨device, DeviceStore.mem_listDevices.mpr found, rfl, by rwa [lowBatteryAlert_isSome]⟩

/-- A pass that ignores nothing. -/
def plainPass : House where
  devices := ⟨∅, [], DeviceStore.none_keyed⟩
  rules := []
  oneToAnId := List.nodup_nil
  topics := []
  ignores := []
  plugins := ⟨∅, ∅⟩
  battery := {}
  now := 0
  localTime := 0

theorem hidesNone_plainPass : HidesNone deviceId plainPass := fun _ impossible => by cases impossible

theorem agree_iff : Agree deviceId words s ↔
    s.latched deviceId = (s.devices.getDevice deviceId).any (s.callsLow words) := by
  constructor
  · intro agree
    rw [← agree plainPass hidesNone_plainPass, pass_low hidesNone_plainPass]
  · intro same house hides
    rw [pass_low hides, same]

/-- The device does not call itself low. -/
def Unflagged (deviceId : String) (s : Batteries) : Prop :=
  ∀ device, s.devices.getDevice deviceId = some device →
    device.attributes["battery_low"]? ≠ some (.bool true)

theorem Unflagged.callsLow (unflagged : Unflagged deviceId s) (found : s.devices.getDevice deviceId = some device) :
    s.callsLow words device = (batteryPct device).any (Hysteresis.answer s.battery.thresholdPct
      (words.add s.battery.thresholdPct s.battery.recoverBandPct) (s.active.contains (lowId deviceId))) := by
  obtain rfl := s.devices.keyed _ _ found
  have unset : isTrue device "battery_low" = false := beq_eq_false_iff_ne.mpr (unflagged _ found)
  rw [Batteries.callsLow, unset, Bool.false_or]

/-! ## What a step does to them -/

/-- The watcher turns a latch as a latch turns. -/
theorem evaluateBattery_latch (prior : Option BatteryRecord) (pct threshold recoverBand : Rat) :
    (evaluateBattery words prior pct threshold recoverBand now).1.inLow =
      Hysteresis.latch threshold (words.add threshold recoverBand) ((prior.map (·.inLow)).getD false) pct := by
  cases was : (prior.map (·.inLow)).getD false
  · by_cases low : pct ≤ threshold <;> simp [evaluateBattery, Hysteresis.latch, was, low]
  · by_cases high : words.add threshold recoverBand ≤ pct
    · simp [evaluateBattery, Hysteresis.latch, was, high, not_lt_of_ge high]
    · simp [evaluateBattery, Hysteresis.latch, was, high, lt_of_not_ge high]

/-- An edge is logged as the latch turns. -/
theorem evaluateBattery_logged {prior : Option BatteryRecord} {log : List BatteryEdge}
    (logged : Hysteresis.Logged .wentLow log ((prior.map (·.inLow)).getD false))
    (pct threshold recoverBand : Rat) :
    Hysteresis.Logged .wentLow
      (log ++ (evaluateBattery words prior pct threshold recoverBand now).2.toList)
      (evaluateBattery words prior pct threshold recoverBand now).1.inLow := by
  cases was : (prior.map (·.inLow)).getD false
  · rw [was] at logged
    by_cases low : pct ≤ threshold
    · simpa [evaluateBattery, was, low] using logged.switchOn
    · simpa [evaluateBattery, was, low] using logged
  · rw [was] at logged
    by_cases high : words.add threshold recoverBand ≤ pct
    · have cleared : Hysteresis.Logged .wentLow (log ++ [.recovered]) false := logged.switchOff (by decide)
      simpa [evaluateBattery, was, high] using cleared
    · simpa [evaluateBattery, was, high] using logged

section Watch
variable (words : Words) (s : Batteries) (device : DeviceState) (now : DateTime)

theorem watch_devices (deviceId : String) (current : AttrMap) (changed : List String) :
    (s.watch words deviceId current changed now).devices = s.devices ∧
      (s.watch words deviceId current changed now).battery = s.battery ∧
      (s.watch words deviceId current changed now).active = s.active := by
  rw [watch]
  split
  · split <;> exact ⟨rfl, rfl, rfl⟩
  · exact ⟨rfl, rfl, rfl⟩

theorem latched_watch_other {deviceId other : String} (differs : deviceId ≠ other) (current : AttrMap)
    (changed : List String) :
    (s.watch words deviceId current changed now).latched other = s.latched other := by
  rw [watch]
  split
  · split
    · rfl
    · simp only [latched, Std.ExtTreeMap.getElem?_insert, Std.compare_eq_iff_eq, if_neg differs]
  · rfl

theorem latched_watch (deviceId : String) (current : AttrMap) {changed : List String}
    (touched : touchesBattery changed = true) :
    (s.watch words deviceId current changed now).latched deviceId =
      (watchedPct current).elim (s.latched deviceId) (Hysteresis.latch s.battery.thresholdPct
        (words.add s.battery.thresholdPct s.battery.recoverBandPct) (s.latched deviceId)) := by
  rw [watch, if_pos touched]
  cases watchedPct current with
  | none => rfl
  | some pct =>
    simp only [latched, Std.ExtTreeMap.getElem?_insert_self, Option.map_some, Option.getD_some,
      evaluateBattery_latch, Option.elim_some]

theorem logged_watch (alternate : s.EdgesAlternate) (deviceId : String) (current : AttrMap)
    (changed : List String) : (s.watch words deviceId current changed now).EdgesAlternate := by
  intro other
  rw [watch]
  split
  · split
    · exact alternate other
    · next pct read =>
      by_cases same : deviceId = other
      · subst same
        simpa only [latched, Std.ExtTreeMap.getElem?_insert_self, Option.map_some, Option.getD_some,
          Function.update_self] using evaluateBattery_logged (alternate deviceId) pct
            s.battery.thresholdPct s.battery.recoverBandPct
      · simpa only [latched, Std.ExtTreeMap.getElem?_insert, Std.compare_eq_iff_eq, if_neg same,
          Function.update_of_ne (Ne.symm same)] using alternate other
  · exact alternate other

end Watch

/-- Where no battery key changed, the level did not. -/
theorem batteryPct_of_untouched {before : AttrMap}
    (untouched : touchesBattery (changedKeys before device.attributes) = false) :
    batteryPct device = ["battery_pct", "battery", "battery_level"].findSome? fun k =>
      before[k]?.bind Json.asF64 := by
  have same (key : String) (isKey : key = "battery" ∨ key = "battery_pct" ∨ key = "battery_level") :
      device.attributes[key]? = before[key]? := by
    by_contra differs
    have changed : key ∈ changedKeys before device.attributes := mem_changedKeys.mpr (Ne.symm differs)
    have touches : touchesBattery (changedKeys before device.attributes) = true := by
      rw [touchesBattery, List.any_eq_true]
      refine ⟨key, changed, ?_⟩
      rcases isKey with rfl | rfl | rfl <;> rfl
    rw [untouched] at touches
    cases touches
  simp only [batteryPct, List.findSome?_cons, List.findSome?_nil, same "battery_pct" (by simp),
    same "battery" (by simp), same "battery_level" (by simp)]

theorem callsLow_congr {other : Batteries} (battery : other.battery = s.battery)
    (active : other.active = s.active) (device : DeviceState) :
    other.callsLow words device = s.callsLow words device := by
  rw [callsLow, callsLow, battery, active]

theorem Unflagged.report (unflagged : Unflagged deviceId s) (plain : Plain deviceId (.report device now)) :
    Unflagged deviceId (s.report words device now) := by
  intro found stored
  rw [Batteries.report, (watch_devices _ _ _ _ _ _).1, getDevice_upsert] at stored
  split at stored
  · next same =>
    cases stored
    exact (plain same).1
  · exact unflagged found stored

/-- A report says nothing of other devices. -/
theorem agree_report_iff (agree : Agree deviceId words s) :
    Agree deviceId words (s.report words device now) ↔ (device.deviceId = deviceId →
      (s.report words device now).latched deviceId = s.callsLow words device) := by
  obtain ⟨devices, battery, active⟩ := watch_devices words { s with devices := s.devices.upsert device } now
    device.deviceId device.attributes
    (changedKeys (((s.devices.getDevice device.deviceId).map (·.attributes)).getD ∅) device.attributes)
  rw [agree_iff] at agree ⊢
  rw [report, devices, getDevice_upsert]
  by_cases same : device.deviceId = deviceId
  · rw [if_pos same, Option.any_some]
    exact ⟨fun after _ => after.trans (callsLow_congr battery active device),
      fun own => (own same).trans (callsLow_congr battery active device).symm⟩
  · have latch : (s.report words device now).latched deviceId = s.latched deviceId :=
      latched_watch_other words _ now same _ _
    rw [if_neg same]
    refine iff_of_true ?_ fun isDevice => absurd isDevice same
    refine latch.trans (agree.trans ?_)
    congr 1
    funext other
    exact (callsLow_congr battery active other).symm

theorem steady_report (unflagged : Unflagged deviceId s) (agree : Agree deviceId words s)
    (plain : Plain deviceId (.report device now)) :
    Agree deviceId words (s.report words device now) ↔ Steady deviceId words s (.report device now) := by
  rw [agree_report_iff agree]
  refine forall_congr' fun same => ?_
  subst same
  have plain := plain rfl
  have level : s.callsLow words device = (batteryPct device).any (Hysteresis.answer s.battery.thresholdPct
      (words.add s.battery.thresholdPct s.battery.recoverBandPct) (s.active.contains (lowId device.deviceId))) := by
    have unset : isTrue device "battery_low" = false := beq_eq_false_iff_ne.mpr plain.1
    rw [callsLow, unset, Bool.false_or]
  rw [level]
  cases touched : touchesBattery
      (changedKeys (((s.devices.getDevice device.deviceId).map (·.attributes)).getD ∅) device.attributes) with
  | false =>
    -- the device says what it said, and its latch is as it was
    have latch : (s.report words device now).latched device.deviceId = s.latched device.deviceId := by
      rw [report, watch, touched]
      rfl
    refine iff_of_true ?_ nofun
    rw [latch, agree_iff.mp agree, batteryPct_of_untouched touched]
    cases stored : s.devices.getDevice device.deviceId with
    | none => simp
    | some before => rw [Option.any_some, unflagged.callsLow stored, Option.map_some, Option.getD_some, batteryPct]
  | true =>
    have latch : (s.report words device now).latched device.deviceId =
        (batteryPct device).elim (s.latched device.deviceId) (Hysteresis.latch s.battery.thresholdPct
          (words.add s.battery.thresholdPct s.battery.recoverBandPct) (s.latched device.deviceId)) := by
      rw [← plain.2]
      exact latched_watch words _ now _ _ touched
    simp only [forall_const, latch]
    cases batteryPct device with
    | none => rfl
    | some pct => exact Hysteresis.latch_eq_answer_iff _ _ _ _ _

/-- The level that a stored device last gave. -/
def level (s : Batteries) (deviceId : String) : Option Rat := (s.devices.getDevice deviceId).bind batteryPct

/-- Where the device does not call itself low, its level alone decides. -/
theorem Unflagged.agree_iff (unflagged : Unflagged deviceId s) : Agree deviceId words s ↔
    s.latched deviceId = (s.level deviceId).any (Hysteresis.answer s.battery.thresholdPct
      (words.add s.battery.thresholdPct s.battery.recoverBandPct) (s.active.contains (lowId deviceId))) := by
  rw [Batteries.agree_iff]
  cases stored : s.devices.getDevice deviceId with
  | none => simp [level, stored]
  | some device => rw [Option.any_some, unflagged.callsLow stored, level, stored, Option.bind_some]

theorem level_eq_some {pct : Rat} : s.level deviceId = some pct ↔
    ∃ device, s.devices.getDevice deviceId = some device ∧ pct ∈ batteryPct device := by
  rw [level, Option.bind_eq_some_iff]
  rfl

theorem steady_configure (unflagged : Unflagged deviceId s) (agree : Agree deviceId words s)
    (battery : BatteryConfig) :
    Agree deviceId words { s with battery := battery } ↔ Steady deviceId words s (.configure battery) := by
  rw [unflagged.agree_iff] at agree
  have unflaggedToo : Unflagged deviceId { s with battery := battery } := unflagged
  rw [unflaggedToo.agree_iff]
  constructor
  · intro after device stored pct reads
    have latch : s.latched deviceId = (s.level deviceId).any _ := after
    rwa [level_eq_some.mpr ⟨device, stored, reads⟩] at latch
  · intro steady
    change s.latched deviceId = (s.level deviceId).any _
    cases reads : s.level deviceId with
    | none => rw [agree, reads, Option.any_none, Option.any_none]
    | some pct =>
      obtain ⟨device, stored, reads⟩ := level_eq_some.mp reads
      exact steady device stored pct reads

/-- After a restart the alert engine has only the threshold to go by. -/
theorem steady_restart (unflagged : Unflagged deviceId s) (agree : Agree deviceId words s) :
    Agree deviceId words { s with active := ∅, memory := ⟨∅, ∅⟩ } ↔ Steady deviceId words s .restart := by
  rw [unflagged.agree_iff] at agree
  have unflaggedToo : Unflagged deviceId { s with active := ∅, memory := ⟨∅, ∅⟩ } := unflagged
  rw [unflaggedToo.agree_iff]
  have forgotten : (∅ : AlertMap).contains (lowId deviceId) = false := Std.ExtTreeMap.contains_empty
  constructor
  · intro after device stored pct reads isLatched
    have latch : s.latched deviceId = (s.level deviceId).any _ := after
    rw [level_eq_some.mpr ⟨device, stored, reads⟩, isLatched] at latch
    simpa [Hysteresis.answer, forgotten] using latch.symm
  · intro steady
    change s.latched deviceId = (s.level deviceId).any _
    cases reads : s.level deviceId with
    | none => rw [agree, reads, Option.any_none, Option.any_none]
    | some pct =>
      rw [reads] at agree
      obtain ⟨device, stored, reads⟩ := level_eq_some.mp reads
      have below := steady device stored pct reads
      by_cases low : pct ≤ s.battery.thresholdPct
      · simp [agree, Hysteresis.answer, low]
      · have off : s.latched deviceId = false := Bool.eq_false_iff.mpr fun isLatched => low (below isLatched)
        simp [off, Hysteresis.answer, forgotten, low]

theorem getDevice_delete (devices : DeviceStore) (gone deviceId : String) :
    (devices.delete gone).getDevice deviceId = if gone = deviceId then none else devices.getDevice deviceId := by
  simp only [DeviceStore.getDevice, DeviceStore.delete, Std.ExtTreeMap.getElem?_erase, Std.compare_eq_iff_eq]

theorem latched_erase (gone deviceId : String) (devices : DeviceStore) (edges : String → List BatteryEdge) :
    ({ s with devices := devices, records := s.records.erase gone, edges := edges } : Batteries).latched deviceId =
      if gone = deviceId then false else s.latched deviceId := by
  simp only [latched, Std.ExtTreeMap.getElem?_erase, Std.compare_eq_iff_eq]
  split <;> rfl

/-- A device that goes takes its latch along. -/
theorem agree_remove (agree : Agree deviceId words s) (gone : String) : Agree deviceId words (s.remove gone) := by
  rw [remove]
  split
  · rw [agree_iff] at agree ⊢
    rw [latched_erase, getDevice_delete]
    split
    · rfl
    · rw [agree]
      rfl
  · exact agree

theorem Unflagged.remove (unflagged : Unflagged deviceId s) (gone : String) : Unflagged deviceId (s.remove gone) := by
  rw [Batteries.remove]
  split
  · intro device stored
    rw [getDevice_delete] at stored
    split at stored
    · cases stored
    · exact unflagged device stored
  · exact unflagged

/-- A pass finds again what it found. -/
theorem agree_pass (unflagged : Unflagged deviceId s) (agree : Agree deviceId words s)
    (hides : HidesNone deviceId house) : Agree deviceId words (s.pass words house) := by
  have unflaggedToo : Unflagged deviceId (s.pass words house) := unflagged
  rw [unflaggedToo.agree_iff, agree house hides]
  have latch := unflagged.agree_iff.mp agree
  change s.latched deviceId = (s.level deviceId).any _
  cases reads : s.level deviceId with
  | none => rw [latch, reads, Option.any_none, Option.any_none]
  | some pct =>
    rw [reads, Option.any_some] at latch
    rw [latch, Option.any_some]
    exact (Hysteresis.answer_answer _ _ _ pct).symm

/-! ## Runs -/

theorem steady_step {input : BatteryInput} (unflagged : Unflagged deviceId s) (plain : Plain deviceId input)
    (agree : Agree deviceId words s) : Agree deviceId words (s.step words input) ↔ Steady deviceId words s input := by
  cases input with
  | report device now => exact steady_report unflagged agree plain
  | configure battery => exact steady_configure unflagged agree battery
  | remove gone => exact iff_of_true (agree_remove agree gone) trivial
  | restart => exact steady_restart unflagged agree
  | pass house => exact iff_of_true (agree_pass unflagged agree plain) trivial

theorem Unflagged.step {input : BatteryInput} (unflagged : Unflagged deviceId s) (plain : Plain deviceId input) :
    Unflagged deviceId (s.step words input) := by
  cases input with
  | report device now => exact unflagged.report plain
  | configure battery => exact unflagged
  | remove gone => exact unflagged.remove gone
  | restart => exact unflagged
  | pass house => exact unflagged

/-- The edges go by turns, whatever happens. -/
theorem EdgesAlternate.step (alternate : s.EdgesAlternate) (words : Words) (input : BatteryInput) :
    (s.step words input).EdgesAlternate := by
  cases input with
  | report device now =>
    have placed : ({ s with devices := s.devices.upsert device } : Batteries).EdgesAlternate := alternate
    exact logged_watch words _ now placed _ _ _
  | configure battery => exact alternate
  | remove gone =>
    simp only [Batteries.step, remove]
    split
    · intro deviceId
      rw [latched_erase]
      by_cases same : gone = deviceId
      · simpa [same] using Hysteresis.Logged.nil
      · simpa [same, Function.update_of_ne (Ne.symm same)] using alternate deviceId
    · exact alternate
  | restart => exact alternate
  | pass house => exact alternate

theorem start_unflagged (deviceId : String) (battery : BatteryConfig) : Unflagged deviceId (start battery) := by
  intro device stored
  simp [start, DeviceStore.getDevice] at stored

theorem start_agree (deviceId : String) (words : Words) (battery : BatteryConfig) :
    Agree deviceId words (start battery) := by
  rw [agree_iff]
  simp [start, latched, DeviceStore.getDevice]

theorem start_alternate (battery : BatteryConfig) : (start battery).EdgesAlternate := by
  intro deviceId
  simpa [start, latched] using Hysteresis.Logged.nil

/-- In a run whose reports of a device and whose passes are plain, every pass finds its battery low where
it is latched exactly where every step is steady. -/
theorem agree_iff_steady (words : Words) (battery : BatteryConfig) {inputs : List BatteryInput}
    (plain : Runs.EachStep (step words) (fun _ => Plain deviceId) (start battery) inputs) :
    Runs.Always (step words) (Agree deviceId words) (start battery) inputs ↔
      Runs.EachStep (step words) (Steady deviceId words) (start battery) inputs :=
  Runs.always_iff_calm (Unflagged deviceId) (fun _ _ unflagged isPlain => unflagged.step isPlain)
    (fun _ _ unflagged isPlain agree => steady_step unflagged isPlain agree)
    (start_unflagged deviceId battery) (start_agree deviceId words battery) plain

/-- For every run of reports, changed thresholds, removals, restarts and passes: the edges of every
device go by turns from its last removal on; and where the steps are plain and steady for a device, every
pass finds its battery low where it is latched. -/
theorem latches_and_alerts (words : Words) (battery : BatteryConfig) (inputs : List BatteryInput) :
    Runs.Always (step words) EdgesAlternate (start battery) inputs ∧ ∀ deviceId : String,
      Runs.EachStep (step words) (fun s input => Plain deviceId input ∧ Steady deviceId words s input)
          (start battery) inputs →
        Runs.Always (step words) (Agree deviceId words) (start battery) inputs := by
  constructor
  · exact Runs.kept EdgesAlternate (fun _ input alternate => alternate.step words input)
      (start_alternate battery) inputs
  · intro deviceId both
    have plain := both.mono fun _ _ isBoth => isBoth.1
    exact (agree_iff_steady words battery plain).mpr (both.mono fun _ _ isBoth => isBoth.2)

/-- A device that gives its level in percent. -/
def cell (deviceId : String) (percent : Rat) : DeviceState :=
  { DeviceState.new deviceId "Sensor" "plugin.zigbee" 0 with
    attributes := (∅ : AttrMap).insert "battery" (.num (.float percent)) }

theorem attribute_cell (percent : Rat) (key : String) :
    (cell deviceId percent).attributes[key]? = if key = "battery" then some (.num (.float percent)) else none := by
  simp only [cell, Std.ExtTreeMap.getElem?_insert, Std.compare_eq_iff_eq, Std.ExtTreeMap.getElem?_empty]
  exact if_congr eq_comm rfl rfl

theorem batteryPct_cell (percent : Rat) : batteryPct (cell deviceId percent) = some percent := by
  simp [batteryPct, attribute_cell, Json.asF64, Number.asF64]

theorem plain_cell {other : String} {percent : Rat} : Plain deviceId (.report (cell other percent) now) := by
  intro _
  constructor
  · simp [attribute_cell]
  · simp [watchedPct, batteryPct_cell, attribute_cell, Json.asF64, Number.asF64]

theorem steady_cell {percent : Rat}
    (seen : s.latched deviceId = s.active.contains (lowId deviceId) ∨ percent ≤ s.battery.thresholdPct ∨
      words.add s.battery.thresholdPct s.battery.recoverBandPct ≤ percent)
    (low : s.latched deviceId = true → percent ≤ s.battery.thresholdPct →
      percent < words.add s.battery.thresholdPct s.battery.recoverBandPct) :
    Steady deviceId words s (.report (cell deviceId percent) now) := by
  intro _ _
  rw [batteryPct_cell]
  exact ⟨seen, low⟩

/-- A sensor runs low and hovers in the band, is low again over a restart, and is removed and comes back.
A lock reads inside the band before a pass has seen it low. -/
def sensorDays : List BatteryInput :=
  [.report (cell "sensor" 15) 0, .pass plainPass, .report (cell "sensor" 22) 1, .report (cell "lock" 15) 2,
    .report (cell "lock" 22) 3, .pass plainPass, .report (cell "sensor" 18) 4, .restart, .pass plainPass,
    .remove "sensor", .pass plainPass, .report (cell "sensor" 19) 5, .pass plainPass]

/-- The lock's reading is nothing to the sensor. -/
theorem low_sensor_agrees : Runs.Always (step english) (Agree "sensor" english) (start {}) sensorDays := by
  have restart (s : Batteries) (low : ∀ device ∈ s.devices.getDevice "sensor", ∀ pct ∈ batteryPct device,
      pct ≤ s.battery.thresholdPct) : Steady "sensor" english s .restart :=
    fun device stored pct reads _ => low device stored pct reads
  have pass : ∀ s, Plain "sensor" (.pass plainPass) ∧ Steady "sensor" english s (.pass plainPass) :=
    fun _ => ⟨hidesNone_plainPass, trivial⟩
  have lock (s : Batteries) (percent : Rat) (now : DateTime) :
      Plain "sensor" (.report (cell "lock" percent) now) ∧
        Steady "sensor" english s (.report (cell "lock" percent) now) :=
    ⟨plain_cell, fun isSensor => absurd (show "lock" = "sensor" from isSensor) (by decide)⟩
  refine (latches_and_alerts english {} sensorDays).2 "sensor"
    ⟨⟨plain_cell, steady_cell ?_ ?_⟩, pass _, ⟨plain_cell, steady_cell ?_ ?_⟩, lock _ _ _, lock _ _ _, pass _,
      ⟨plain_cell, steady_cell ?_ ?_⟩, ⟨trivial, restart _ ?_⟩, pass _, ⟨trivial, trivial⟩, pass _,
      ⟨plain_cell, steady_cell ?_ ?_⟩, pass _, trivial⟩
  all_goals decide +kernel

/-- A raised threshold: the pass counts a sensor as low that no reading has latched yet; and a sensor
that is removed comes in low a second time. -/
theorem threshold_read_at_once :
    (¬ ∀ (words : Words) (battery : BatteryConfig) (inputs : List BatteryInput) (deviceId : String),
      Runs.EachStep (step words) (fun _ => Plain deviceId) (start battery) inputs →
        Runs.Always (step words) (Agree deviceId words) (start battery) inputs) ∧
    (let low := (start {}).step english (.report (cell "sensor" 15) 0)
     let again := (low.step english (.remove "sensor")).step english (.report (cell "sensor" 15) 1)
     low.edges "sensor" ++ again.edges "sensor" = [.wentLow, .wentLow]) := by
  constructor
  · intro claim
    have plain : Runs.EachStep (step english) (fun _ => Plain "sensor") (start {})
        [.report (cell "sensor" 30) 0, .configure ⟨40, 5⟩] := ⟨plain_cell, trivial, trivial⟩
    obtain ⟨-, steady, -⟩ := (agree_iff_steady english {} plain).mp (claim english {} _ "sensor" plain)
    have stored : ((start {}).step english (.report (cell "sensor" 30) 0)).devices.getDevice "sensor" =
        some (cell "sensor" 30) := by
      rw [step, report, (watch_devices _ _ _ _ _ _).1, getDevice_upsert]
      rfl
    have latch := steady (cell "sensor" 30) stored 30 (batteryPct_cell 30)
    have unlatched : ((start {}).step english (.report (cell "sensor" 30) 0)).latched "sensor" = false := by
      decide +kernel
    have below : decide ((30 : Rat) ≤ 40) = true := by decide
    rw [unlatched, Hysteresis.answer, below, Bool.true_or] at latch
    cases latch
  · decide +kernel

end Batteries
end HomeCore.Alerts
