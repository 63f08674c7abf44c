import HomeCore.Alerts.LinksProofs

/-! Ignoring alerts: what an automation's IgnoreAlerts saves of its filter, and what the
battery watcher keeps to itself. -/
namespace HomeCore.Alerts

def isBlank (text : String) : Bool := (trim text.toList).isEmpty

/-- What a person must fix before an ignore can be saved. -/
def AlertIgnore.validate (ignore : AlertIgnore) : Except String Unit :=
  if ignore.kind.isNone && ignore.deviceId.isNone && ignore.ruleId.isNone && ignore.pluginId.isNone then
    .error "say which alerts: a kind, a device, a rule or a plugin"
  else if (ignore.topic.isSome || ignore.key.isSome) && ignore.pluginId.isNone then
    .error "a `topic` or `key` belongs to a plugin: say which `plugin_id`"
  else if ignore.deviceId.any isBlank then .error "`device_id` is empty"
  else .ok ()

/-- How the action ends. It reports an invalid ignore in the log alone. -/
inductive IgnoreOutcome where
  | done
  | notSaved (message : String)
  | failed
  deriving DecidableEq

def ignoreFor (filter : AlertFilter) (untilTime : Option DateTime) (deviceId : Option String) :
    AlertIgnore where
  kind := filter.kind
  deviceId := deviceId
  ruleId := filter.ruleId
  pluginId := filter.pluginId
  topic := filter.topic
  key := filter.key
  untilTime := untilTime

/-- An ignore for each device that the filter names, or one for all. -/
def ignoresFor (filter : AlertFilter) (untilTime : Option DateTime) : List AlertIgnore :=
  let devices := if filter.deviceIds.isEmpty then [none] else filter.deviceIds.map some
  devices.map (ignoreFor filter untilTime)

/-- Each ignore is checked and saved before the next; `takes` is whether the store could. -/
def saveIgnores (takes : AlertIgnore → Bool) : List AlertIgnore → List AlertIgnore × IgnoreOutcome
  | [] => ([], .done)
  | ignore :: rest => match ignore.validate with
    | .error message => ([], .notSaved message)
    | .ok () =>
      if takes ignore then
        let (saved, outcome) := saveIgnores takes rest
        (ignore :: saved, outcome)
      else ([], .failed)

def runOut (now : DateTime) (minutes : Option Nat) : Option DateTime :=
  minutes.map fun m => now + m * (60 * second)

/-- `Action::IgnoreAlerts`: what it saves, and how it ends. -/
def ignoreAlerts (takes : AlertIgnore → Bool) (now : DateTime) (filter : AlertFilter)
    (minutes : Option Nat) : List AlertIgnore × IgnoreOutcome :=
  saveIgnores takes (ignoresFor filter (runOut now minutes))

/-! ## The battery watcher -/

inductive BatteryEdge where
  | wentLow
  | recovered

/-- A low battery someone chose to ignore isn't told of. Ignores that cannot be read ignore nothing. -/
def batteryIgnored (ignores : Option (List AlertIgnore)) (deviceId : String) (now : DateTime) : Bool :=
  ignores.any fun all => all.any (·.coversParts .lowBattery deviceId none now)

/-- Whether the watcher sends its notice of an edge, where it has a channel. -/
def sendsNotice (notifyOnRecovered : Bool) (edge : BatteryEdge) (ignores : Option (List AlertIgnore))
    (deviceId : String) (now : DateTime) : Bool :=
  let send := match edge with
    | .wentLow => true
    | .recovered => notifyOnRecovered
  send && !batteryIgnored ignores deviceId now

end HomeCore.Alerts

/-! What the saved ignores of a filter cover, beside what the filter selects: the plugin that a
filter names may own the device, and that of an ignore must have raised the alert. And where
saving stops at an invalid one. -/
namespace HomeCore.Alerts
variable {takes : AlertIgnore → Bool} {now t : DateTime} {filter : AlertFilter} {minutes : Option Nat}
  {alert : Alert}

/-! ## Coverage -/

/-- The kind, topic, key, rule and devices that the filter names are the alert's. -/
def asksAlike (filter : AlertFilter) (alert : Alert) : Bool :=
  filter.kind.all (· == alert.kind) && AlertFilter.sameText filter.topic alert.topic
    && AlertFilter.sameText filter.key alert.key && AlertFilter.sameText filter.ruleId alert.ruleId
    && (filter.deviceIds.isEmpty || filter.deviceIds.contains alert.deviceId)

/-- The filter names the plugin of the alert's device, and no plugin raised the alert. -/
def OwnAlertOfPlugin (filter : AlertFilter) (alert : Alert) : Prop :=
  alert.pluginId = none ∧ ∃ plugin, filter.pluginId = some plugin ∧ alert.devicePluginId = some plugin

theorem selects_eq :
    { filter with minSeverity := none }.selects alert =
      (asksAlike filter alert &&
        filter.pluginId.all fun w => (alert.pluginId <|> alert.devicePluginId) == some w) := by
  simp only [asksAlike, AlertFilter.selects, Option.all_none, Bool.and_true]
  grind

/-- The ignores of a filter cover what it asks alike of alerts that its plugin raised. -/
theorem any_covers (untilTime : Option DateTime) :
    (ignoresFor filter untilTime).any (·.covers alert t) =
      (untilTime.all (fun bound => t < bound) && asksAlike filter alert &&
        AlertFilter.sameText filter.pluginId alert.pluginId) := by
  have each (deviceId : Option String) :
      (ignoreFor filter untilTime deviceId).covers alert t =
      (deviceId.all (· == alert.deviceId) && (untilTime.all (fun bound => t < bound) &&
        filter.kind.all (· == alert.kind) && AlertFilter.sameText filter.ruleId alert.ruleId &&
        AlertFilter.sameText filter.pluginId alert.pluginId &&
        AlertFilter.sameText filter.topic alert.topic && AlertFilter.sameText filter.key alert.key)) := by
    simp only [ignoreFor, AlertIgnore.covers, AlertIgnore.coversParts, AlertIgnore.active,
      AlertFilter.sameText]
    grind
  by_cases anyDevice : filter.deviceIds = []
  · simp only [ignoresFor, asksAlike, anyDevice, List.isEmpty_nil, if_true,
      List.map_cons, List.map_nil, List.any_cons, List.any_nil, Bool.or_false, each, Option.all_none,
      Bool.true_and, Bool.true_or, Bool.and_true]
    grind
  · have listed : filter.deviceIds.isEmpty = false := by simpa using anyDevice
    rw [Bool.eq_iff_iff, List.any_eq_true]
    simp only [ignoresFor, asksAlike, listed, Bool.false_eq_true, if_false,
      List.mem_map, exists_exists_and_eq_and, each, Option.all_some, Bool.false_or, Bool.and_eq_true,
      beq_iff_eq, List.contains_iff_mem]
    constructor
    · rintro ⟨deviceId, member, rfl, asks⟩
      grind
    · intro asks
      refine ⟨alert.deviceId, ?_, rfl, ?_⟩ <;> grind

/-- They cover what the filter selects, exactly but for the alerts of homeCore's own about devices
of the plugin that the filter names. -/
theorem covers_selected_iff {untilTime : Option DateTime} (inForce : ∀ bound ∈ untilTime, t < bound) :
    ((ignoresFor filter untilTime).any (·.covers alert t) = true ↔
      { filter with minSeverity := none }.selects alert = true) ↔
    ¬ (asksAlike filter alert = true ∧ OwnAlertOfPlugin filter alert) := by
  have active : untilTime.all (fun bound => t < bound) = true := by
    cases untilTime with
    | none => rfl
    | some bound => simpa using inForce bound rfl
  rw [any_covers, selects_eq, active, OwnAlertOfPlugin, AlertFilter.sameText]
  cases filter.pluginId with
  | none => simp
  | some plugin =>
    cases raiser : alert.pluginId with
    | some other => simp
    | none =>
      cases asksAlike filter alert with
      | false => simp
      | true => simp [@eq_comm _ plugin]

/-! ## Saving -/

theorem saveIgnores_done {ignores : List AlertIgnore}
    (done : (saveIgnores takes ignores).2 = .done) : (saveIgnores takes ignores).1 = ignores := by
  induction ignores with
  | nil => rfl
  | cons ignore rest ih =>
    simp only [saveIgnores] at done ⊢
    cases valid : ignore.validate with
    | error message =>
      rw [valid] at done
      cases done
    | ok =>
      simp only [valid] at done ⊢
      split at done
      · rename_i taken
        rw [if_pos taken]
        exact congrArg _ (ih done)
      · cases done

/-- Something is saved where the first ignore is valid and taken. -/
theorem saved_nonempty_iff {ignores : List AlertIgnore} :
    (saveIgnores takes ignores).1 ≠ [] ↔
      ∃ first rest, ignores = first :: rest ∧ first.validate = .ok () ∧ takes first = true := by
  cases ignores with
  | nil => simp [saveIgnores]
  | cons ignore rest =>
    simp only [saveIgnores, List.cons.injEq]
    cases valid : ignore.validate with
    | error message =>
      constructor
      · exact fun some => absurd rfl some
      · rintro ⟨_, _, ⟨rfl, rfl⟩, isValid, _⟩
        rw [valid] at isValid
        cases isValid
    | ok =>
      cases taken : takes ignore with
      | true =>
        simp only [if_true]
        exact iff_of_true (List.cons_ne_nil _ _) ⟨ignore, rest, ⟨rfl, rfl⟩, valid, taken⟩
      | false =>
        simp only [Bool.false_eq_true, if_false, ne_eq, not_true_eq_false, false_iff]
        rintro ⟨_, _, ⟨rfl, rfl⟩, _, isTaken⟩
        rw [taken] at isTaken
        cases isTaken

/-- A topic or a key comes with its plugin. -/
def TopicsOwned (filter : AlertFilter) : Prop :=
  filter.topic.isSome ∨ filter.key.isSome → filter.pluginId.isSome

theorem valid_iff {ignore : AlertIgnore} {deviceId : String} (named : ignore.deviceId = some deviceId) :
    ignore.validate = .ok () ↔
      (ignore.topic.isSome ∨ ignore.key.isSome → ignore.pluginId.isSome) ∧
        isBlank deviceId = false := by
  have opposite : (!ignore.pluginId.isSome) = ignore.pluginId.isNone := Option.not_isSome _
  rw [AlertIgnore.validate, named, if_neg (by simp)]
  split
  · rename_i unowned
    constructor
    · intro impossible
      cases impossible
    · rintro ⟨owned, _⟩
      grind
  · rename_i owned
    have isOwned : ignore.topic.isSome ∨ ignore.key.isSome → ignore.pluginId.isSome := by grind
    cases blank : isBlank deviceId with
    | false => simpa [blank] using isOwned
    | true => simp [blank]

theorem valid_device_iff {untilTime : Option DateTime} {deviceId : String} :
    (ignoreFor filter untilTime (some deviceId)).validate = .ok () ↔
      TopicsOwned filter ∧ isBlank deviceId = false :=
  valid_iff rfl

/-- The first device has an id that is not blank, and is saved, and one after it has not. -/
def SavesHalf (takes : AlertIgnore → Bool) (filter : AlertFilter) (untilTime : Option DateTime) :
    Prop :=
  TopicsOwned filter ∧ ∃ first rest, filter.deviceIds = first :: rest ∧ isBlank first = false ∧
    takes (ignoreFor filter untilTime (some first)) = true ∧ ∃ later ∈ rest, isBlank later = true

/-- With an invalid ignore among them none is saved, exactly unless saving stops half way. -/
theorem none_saved_iff {untilTime : Option DateTime} :
    ((∃ ignore ∈ ignoresFor filter untilTime, ignore.validate ≠ .ok ()) →
      (saveIgnores takes (ignoresFor filter untilTime)).1 = []) ↔
    ¬ SavesHalf takes filter untilTime := by
  rw [← not_iff_not, not_not, Classical.not_imp, ← ne_eq, saved_nonempty_iff]
  constructor
  · rintro ⟨⟨ignore, listed, invalid⟩, head, tail, split, valid, taken⟩
    cases devices : filter.deviceIds with
    | nil =>
      have single : ignoresFor filter untilTime = [ignoreFor filter untilTime none] := by
        simp [ignoresFor, devices]
      rw [single, List.mem_singleton] at listed
      rw [single] at split
      obtain ⟨rfl, rfl⟩ := List.cons.inj split
      rw [listed] at invalid
      exact absurd valid invalid
    | cons first rest =>
      have each : ignoresFor filter untilTime =
          (first :: rest).map fun device => ignoreFor filter untilTime (some device) := by
        simp [ignoresFor, devices]
      rw [each, List.map_cons] at split
      obtain ⟨rfl, rfl⟩ := List.cons.inj split
      obtain ⟨owned, named⟩ := valid_device_iff.mp valid
      rw [each] at listed
      obtain ⟨device, member, rfl⟩ := List.mem_map.mp listed
      have blank : isBlank device = true := by
        by_contra named
        exact invalid (valid_device_iff.mpr ⟨owned, Bool.eq_false_iff.mpr named⟩)
      refine ⟨owned, first, rest, devices, named, taken, device, ?_, blank⟩
      rcases List.mem_cons.mp member with rfl | later
      · rw [named] at blank
        cases blank
      · exact later
  · rintro ⟨owned, first, rest, devices, named, taken, later, member, blank⟩
    have each : ignoresFor filter untilTime =
        (first :: rest).map fun device => ignoreFor filter untilTime (some device) := by
      simp [ignoresFor, devices]
    rw [each]
    refine ⟨⟨ignoreFor filter untilTime (some later), ?_, ?_⟩, _, _, List.map_cons,
      valid_device_iff.mpr ⟨owned, named⟩, taken⟩
    · exact List.mem_map.mpr ⟨later, List.mem_cons_of_mem _ member, rfl⟩
    · intro valid
      have named := (valid_device_iff.mp valid).2
      rw [blank] at named
      cases named

/-- For every filter and alert: once the action has saved its ignores they cover, for as long as
they last, the alerts that the filter selects, exactly but for homeCore's own about devices of the
filter's plugin; and an invalid ignore keeps all from being saved, exactly unless the first device
of the filter is saved before a blank one. -/
theorem ignore_alerts_iff (takes : AlertIgnore → Bool) (now : DateTime) (filter : AlertFilter)
    (minutes : Option Nat) (alert : Alert) :
    (((ignoreAlerts takes now filter minutes).2 = .done → ∀ t, (∀ bound ∈ runOut now minutes, t < bound) →
        ((ignoreAlerts takes now filter minutes).1.any (·.covers alert t) = true ↔
          { filter with minSeverity := none }.selects alert = true)) ↔
      ((ignoreAlerts takes now filter minutes).2 = .done →
        ¬ (asksAlike filter alert = true ∧ OwnAlertOfPlugin filter alert))) ∧
    (((∃ ignore ∈ ignoresFor filter (runOut now minutes), ignore.validate ≠ .ok ()) →
        (ignoreAlerts takes now filter minutes).1 = []) ↔
      ¬ SavesHalf takes filter (runOut now minutes)) := by
  constructor
  · refine imp_congr_right fun done => ?_
    rw [ignoreAlerts, saveIgnores_done done]
    constructor
    · intro covers
      cases bound : runOut now minutes with
      | none =>
        rw [bound] at covers
        exact (covers_selected_iff fun _ impossible => by cases impossible).mp
          (covers 0 fun _ impossible => by cases impossible)
      | some bound' =>
        rw [bound] at covers
        have before : ∀ bound ∈ some bound', bound' - 1 < bound := by
          intro other same
          obtain rfl := Option.some.inj same
          exact Int.sub_one_lt_of_le le_rfl
        exact (covers_selected_iff before).mp (covers (bound' - 1) before)
    · intro apart t inForce
      exact (covers_selected_iff inForce).mpr apart
  · exact none_saved_iff

/-- A leak that homeCore found on a sensor of a plugin. -/
def sensorLeak : Alert := (builtIn english (hubHouse none)
  (DeviceState.new "leak" "Cellar" "plugin.yolink" 0) .wet .critical "Wet" none).toAlert

/-- Leaks on any sensor of the plugin. -/
def pluginLeaks : AlertFilter := { kind := some .wet, pluginId := some "plugin.yolink" }

/-- The filter selects the leak and what it saves does not cover it; and of two devices the first
is ignored though the second is blank. -/
theorem leak_still_raised :
    (ignoreAlerts (fun _ => true) 0 pluginLeaks none).2 = .done ∧
      (ignoreAlerts (fun _ => true) 0 pluginLeaks none).1.any (·.covers sensorLeak 1) = false ∧
      pluginLeaks.selects sensorLeak = true ∧
      (ignoreAlerts (fun _ => true) 0 { deviceIds := ["leak", " "] } none).1.length = 1 ∧
      (ignoreAlerts (fun _ => true) 0 { deviceIds := ["leak", " "] } none).2 =
        .notSaved "`device_id` is empty" := by
  decide

/-! ## Low batteries -/

/-- The ignore is in force and asks for nothing but a low battery of the device, except that it
asks for a plugin's alerts. -/
def PluginsButFits (ignore : AlertIgnore) (deviceId : String) (now : DateTime) : Prop :=
  (∀ bound ∈ ignore.untilTime, now < bound) ∧ (∀ kind ∈ ignore.kind, kind = .lowBattery) ∧
    (∀ device ∈ ignore.deviceId, device = deviceId) ∧ ignore.ruleId = none ∧
    (ignore.pluginId.isSome ∨ ignore.topic.isSome ∨ ignore.key.isSome)

theorem batteryIgnored_iff {ignore : AlertIgnore} {deviceId : String} :
    batteryIgnored (some [ignore]) deviceId now = true ↔
      (∀ bound ∈ ignore.untilTime, now < bound) ∧ (∀ kind ∈ ignore.kind, kind = .lowBattery) ∧
        (∀ device ∈ ignore.deviceId, device = deviceId) ∧ ignore.ruleId = none := by
  simp only [batteryIgnored, Option.any_some, List.any_cons, List.any_nil, Bool.or_false,
    AlertIgnore.coversParts, AlertIgnore.active, Bool.and_eq_true, Option.all_eq_true, Option.mem_def,
    decide_eq_true_eq, beq_iff_eq, and_assoc]
  cases ignore.ruleId <;> simp

theorem covers_low_iff {ignore : AlertIgnore} (low : alert.kind = .lowBattery)
    (ownKind : alert.ruleId = none ∧ alert.pluginId = none ∧ alert.topic = none ∧ alert.key = none) :
    ignore.covers alert now = true ↔ batteryIgnored (some [ignore]) alert.deviceId now = true ∧
      ignore.pluginId = none ∧ ignore.topic = none ∧ ignore.key = none := by
  obtain ⟨noRule, noPlugin, noTopic, noKey⟩ := ownKind
  simp only [AlertIgnore.covers, batteryIgnored, low, noRule, noPlugin, noTopic, noKey, sameText_none,
    Option.any_some, List.any_cons, List.any_nil, Bool.or_false, Bool.and_eq_true,
    Option.isNone_iff_eq_none, and_assoc]

/-- For every ignore, and every low-battery alert that a pass works out: the watcher keeps the
device's notice to itself where the ignore covers the alert, exactly unless the ignore asks for a
plugin's alerts and otherwise fits. -/
theorem battery_silenced_iff (words : Words) (house : House) (active : AlertMap) (memory : Memory)
    (id : String) (alert : ActiveAlert) (raised : (desired words house active memory).2[id]? = some alert)
    (low : alert.kind = .lowBattery) (ignore : AlertIgnore) (now : DateTime) :
    (batteryIgnored (some [ignore]) alert.deviceId now = true ↔
      ignore.covers alert.toAlert now = true) ↔ ¬ PluginsButFits ignore alert.deviceId now := by
  have ownKind : alert.ruleId = none ∧ alert.pluginId = none ∧ alert.topic = none ∧ alert.key = none := by
    cases (origin_of_desired raised).2 with
    | own memory device raisedAs stored visited kept =>
      obtain ⟨own, known, about⟩ := about_of_visitDevice visited
      subst kept
      exact ⟨about.ruleId, about.pluginId, about.topic, about.key⟩
    | timed memory rule deviceId raisedAs stored enabled named visited kept =>
      obtain ⟨device, start, found, rfl⟩ := ruleAlert_of_visitRule visited
      subst kept
      cases low
    | reported report last built =>
      subst built
      cases low
  rw [covers_low_iff low ownKind, batteryIgnored_iff, PluginsButFits]
  simp only [← Option.not_isSome_iff_eq_none]
  tauto

/-- A house with a lock whose battery is low. -/
def lockHouse : House where
  devices := (⟨∅, [], DeviceStore.none_keyed⟩ : DeviceStore).upsert
    { DeviceState.new "lock" "Lock" "plugin.zwave" 0 with
      available := true
      attributes := (∅ : AttrMap).insert "battery_low" (.bool true) }
  rules := []
  oneToAnId := List.nodup_nil
  topics := []
  ignores := []
  plugins := ⟨∅, ∅⟩
  battery := {}
  now := 0
  localTime := 0

def lockLow : Option ActiveAlert := (desired english lockHouse ∅ ⟨∅, ∅⟩).2["low_battery:lock"]?

def ignoreOf (deviceId pluginId : Option String) : AlertIgnore :=
  ⟨none, deviceId, none, pluginId, none, none, none⟩

/-- Whoever ignores the alerts of one plugin hears of no low battery, though the alerts of those
are not covered. -/
theorem bridge_ignored_lock_silent :
    let ignore := ignoreOf none (some "plugin.hue")
    ignore.validate = .ok () ∧
      lockLow.map (fun alert => (decide (alert.kind = .lowBattery), alert.deviceId,
        ignore.covers alert.toAlert 1)) = some (true, "lock", false) ∧
      batteryIgnored (some [ignore]) "lock" 1 = true ∧
      sendsNotice false .wentLow (some []) "lock" 1 = true ∧
      sendsNotice false .wentLow (some [ignore]) "lock" 1 = false := by
  decide

/-- Ignoring the lock covers its alert and silences its notice. -/
theorem lock_ignored :
    ∃ alert, lockLow = some alert ∧ (batteryIgnored (some [ignoreOf (some "lock") none]) alert.deviceId 1 =
      true ↔ (ignoreOf (some "lock") none).covers alert.toAlert 1 = true) := by
  have low : lockLow.map (·.kind) = some .lowBattery := by decide
  obtain ⟨alert, raised, isLow⟩ := Option.map_eq_some_iff.mp low
  refine ⟨alert, raised, (battery_silenced_iff english lockHouse ∅ ⟨∅, ∅⟩ _ alert raised isLow
    (ignoreOf (some "lock") none) 1).mpr ?_⟩
  rintro ⟨_, _, _, _, plugin | topic | key⟩
  · cases plugin
  · cases topic
  · cases key

end HomeCore.Alerts
