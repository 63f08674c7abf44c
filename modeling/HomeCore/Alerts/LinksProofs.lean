import HomeCore.Alerts.Links
import HomeCore.Alerts.EvaluatorProofs
import HomeCore.Devices.StateBridgeProofs

/-! The links against the evaluator: which alerts that it can raise are foreseen
by the sources a trigger is linked to. -/
namespace HomeCore.Alerts
variable {words : Words} {house : House} {active : AlertMap} {memory : Memory} {filter : AlertFilter}
  {alert : ActiveAlert} {device : DeviceState} {rule : AlertRule} {report : Report}
  {kind : PluginAlertKind}

@[simp] theorem sameText_none (want : Option String) :
    AlertFilter.sameText want none = want.isNone := by
  cases want <;> rfl

@[simp] theorem sameText_some (want : Option String) (text : String) :
    AlertFilter.sameText want (some text) = want.all (· == text) := by
  cases want with
  | none => rfl
  | some w => simp [AlertFilter.sameText, eq_comm]

theorem pluginOf_eq (house : House) (id : String) :
    house.sources.pluginOf id = (house.devices.getDevice id).map (·.pluginId) := by
  rw [Sources.pluginOf, House.sources, DeviceStore.find?_listDevices]

theorem ofPlugin_of_mem {ids : List String} {id pluginId : String} (member : id ∈ ids)
    (owned : id = pluginId ∨ house.sources.pluginOf id = some pluginId) :
    house.sources.ofPlugin ids pluginId = true := by
  rw [Sources.ofPlugin, List.any_eq_true]
  refine ⟨id, member, ?_⟩
  simpa only [Bool.or_eq_true, beq_iff_eq] using owned

/-- The plugin that a filter asks for is the one of a device among these. -/
theorem ofPlugin_wanted {ids : List String}
    (found : house.devices.getDevice device.deviceId = some device)
    (owner : filter.pluginId.all (· == device.pluginId) = true) (member : device.deviceId ∈ ids) :
    filter.pluginId.all (house.sources.ofPlugin ids) = true := by
  cases wanted : filter.pluginId with
  | none => rfl
  | some w =>
    have same : w = device.pluginId := by simpa [wanted] using owner
    refine ofPlugin_of_mem member (.inr ?_)
    rw [pluginOf_eq, found, same]
    rfl

/-! ## What the alerts look like -/

/-- An alert about a stored device that no plugin raised. -/
structure About (device : DeviceState) (kind : AlertKind) (severity : AlertSeverity)
    (ruleId : Option String) (alert : Alert) : Prop where
  kind : alert.kind = kind
  severity : alert.severity = severity
  deviceId : alert.deviceId = device.deviceId
  devicePluginId : alert.devicePluginId = some device.pluginId
  ruleId : alert.ruleId = ruleId
  pluginId : alert.pluginId = none
  topic : alert.topic = none
  key : alert.key = none

theorem About.selects {kind : AlertKind} {severity : AlertSeverity} {ruleId : Option String}
    {alert : Alert} (about : About device kind severity ruleId alert) (filter : AlertFilter) :
    filter.selects alert =
      (filter.kind.all (· == kind) && filter.pluginId.all (· == device.pluginId)
        && filter.topic.isNone && filter.key.isNone && AlertFilter.sameText filter.ruleId ruleId
        && (filter.deviceIds.isEmpty || filter.deviceIds.contains device.deviceId)
        && severeEnough filter severity) := by
  have owner : filter.pluginId.all (fun w => (none <|> some device.pluginId : Option String) == some w) =
      filter.pluginId.all (· == device.pluginId) := by
    cases filter.pluginId with
    | none => rfl
    | some w => simp [eq_comm]
  simp only [AlertFilter.selects, about.kind, about.severity, about.deviceId, about.devicePluginId,
    about.ruleId, about.pluginId, about.topic, about.key, sameText_none, severeEnough, owner]

theorem About.keepRaisedAt {kind : AlertKind} {severity : AlertSeverity} {ruleId : Option String}
    (about : About device kind severity ruleId alert.toAlert) (active : AlertMap) :
    About device kind severity ruleId (keepRaisedAt active alert).toAlert :=
  ⟨about.kind, about.severity, about.deviceId, about.devicePluginId, about.ruleId, about.pluginId,
    about.topic, about.key⟩

/-- What `builtIn` fills in, whatever else of it is replaced. -/
theorem about_builtIn (words : Words) (house : House) (kind : AlertKind) (severity : AlertSeverity)
    (reason message : String) (start : Option DateTime) :
    About device kind severity none
      { builtIn words house device kind severity reason start with message := message }.toAlert :=
  ⟨rfl, rfl, rfl, rfl, rfl, rfl, rfl, rfl⟩

/-- An alert of a device's own is a built-in one of a known kind, in its own words. -/
theorem builtIn_of_visitDevice (visited : alert ∈ (visitDevice words house active memory device).2) :
    ∃ own ∈ ownKinds, ∃ reason message start,
      alert = { builtIn words house device own.1 own.2 reason start with message := message } := by
  simp only [visitDevice, List.mem_append, Option.mem_toList] at visited
  rcases visited with (((offline | wet) | smoke) | jammed) | low
  · simp only [offlineAlert, Option.ite_none_right_eq_some, Option.some.injEq] at offline
    obtain ⟨_, rfl⟩ := offline
    exact ⟨(.offline, .warning), by decide, _, _, _, rfl⟩
  · obtain ⟨attr, _, rfl⟩ := Option.map_eq_some_iff.mp wet
    exact ⟨(.wet, .critical), by decide, _, _, _, rfl⟩
  · obtain ⟨attr, _, rfl⟩ := Option.map_eq_some_iff.mp smoke
    exact ⟨(.smoke, .critical), by decide, _, _, _, rfl⟩
  · simp only [jammedAlert, Option.ite_none_right_eq_some, Option.some.injEq] at jammed
    obtain ⟨_, rfl⟩ := jammed
    exact ⟨(.jammed, .critical), by decide, _, _, _, rfl⟩
  · simp only [lowBatteryAlert, Option.ite_none_right_eq_some, Option.some.injEq] at low
    obtain ⟨_, rfl⟩ := low
    exact ⟨(.lowBattery, .warning), by decide, _, _, _, rfl⟩

theorem about_of_visitDevice (visited : alert ∈ (visitDevice words house active memory device).2) :
    ∃ own ∈ ownKinds, About device own.1 own.2 none alert.toAlert := by
  obtain ⟨own, known, reason, message, start, rfl⟩ := builtIn_of_visitDevice visited
  exact ⟨own, known, about_builtIn words house own.1 own.2 reason message start⟩

/-- An alert of a time rule is the rule's, about a stored device it names. -/
theorem ruleAlert_of_visitRule {deviceId : String}
    (visited : alert ∈ (visitRule words house memory (rule, deviceId)).2) :
    ∃ device start, house.devices.getDevice deviceId = some device ∧
      alert = ruleAlert words rule device start := by
  simp only [visitRule] at visited
  split at visited
  · cases visited
  · rename_i device found
    split at visited
    · split at visited
      · exact ⟨device, _, found, List.mem_singleton.mp visited⟩
      · cases visited
    · cases visited

theorem about_of_visitRule {deviceId : String}
    (visited : alert ∈ (visitRule words house memory (rule, deviceId)).2) :
    ∃ device, house.devices.getDevice deviceId = some device ∧
      About device .rule rule.severity (some rule.id) alert.toAlert := by
  obtain ⟨device, start, found, rfl⟩ := ruleAlert_of_visitRule visited
  exact ⟨device, found, ⟨rfl, rfl, rfl, rfl, rfl, rfl, rfl, rfl⟩⟩

/-! ## The source of an alert -/

/-- What raised an alert, as far as it is stored or declared. -/
def House.sourceOf (house : House) (alert : Alert) : Option Source :=
  match alert.kind with
  | .rule => (house.rules.find? fun rule => alert.ruleId == some rule.id).map .rule
  | .plugin => alert.pluginId.bind fun pluginId => alert.topic.bind fun topic =>
      (house.plugins.kind pluginId topic).map (.plugin pluginId)
  | kind => (ownKinds.find? (·.1 == kind)).map fun own => .own own.1 own.2

/-- Whether the filter fits an alert that a plugin reports. -/
def House.fitsReport (house : House) (filter : AlertFilter) (report : Report) : Bool :=
  filter.kind.all (· == .plugin) && filter.pluginId.all (· == report.pluginId)
    && filter.topic.all (· == report.alert.topic)
    && AlertFilter.sameText filter.key report.alert.key && filter.ruleId.isNone
    && (filter.deviceIds.isEmpty || filter.deviceIds.contains report.deviceId)
    && severeEnough filter (house.reportedSeverity report)

theorem find?_rule (house : House) (stored : rule ∈ house.rules) :
    house.rules.find? (fun other => some rule.id == some other.id) = some rule := by
  cases found : house.rules.find? fun other => some rule.id == some other.id with
  | some other =>
    have same : rule.id = other.id := by simpa using List.find?_some found
    have listed := List.mem_of_find?_eq_some found
    rw [List.inj_on_of_nodup_map house.oneToAnId stored listed same]
  | none =>
    have missing := List.find?_eq_none.mp found rule stored
    exact absurd (beq_self_eq_true _) missing

theorem sourceOf_rule {alert : Alert} {severity : AlertSeverity} (stored : rule ∈ house.rules)
    (about : About device .rule severity (some rule.id) alert) :
    house.sourceOf alert = some (.rule rule) := by
  simp only [House.sourceOf, about.kind, about.ruleId, find?_rule house stored, Option.map_some]

theorem sourceOf_own {alert : Alert} {own : AlertKind × AlertSeverity} (known : own ∈ ownKinds)
    (about : About device own.1 own.2 none alert) :
    house.sourceOf alert = some (.own own.1 own.2) := by
  simp only [House.sourceOf, about.kind]
  fin_cases known <;> rfl

theorem selects_pluginAlert (filter : AlertFilter) (report : Report) :
    filter.selects (pluginAlert words house active report).toAlert = house.fitsReport filter report := by
  have owner : ((some report.pluginId : Option String) <|> some report.pluginId) =
      some report.pluginId := rfl
  simp only [AlertFilter.selects, pluginAlert, House.fitsReport, severeEnough, sameText_none,
    sameText_some, owner]
  congr 6
  cases filter.pluginId with
  | none => rfl
  | some w => simp [eq_comm]

/-! ## What the links foresee -/

theorem topic_of_kind {pluginId topic : String}
    (declared : house.plugins.kind pluginId topic = some kind) : kind.topic = topic := by
  obtain ⟨kinds, _, found⟩ := Option.bind_eq_some_iff.mp declared
  simpa using List.find?_some found

theorem couldMatch_rule {alert : Alert} (named : device.deviceId ∈ rule.deviceIds)
    (found : house.devices.getDevice device.deviceId = some device)
    (about : About device .rule rule.severity (some rule.id) alert)
    (selected : filter.selects alert = true) :
    house.sources.couldMatch filter (.rule rule) = true := by
  simp only [about.selects, sameText_some, Bool.and_eq_true] at selected
  obtain ⟨⟨⟨⟨⟨⟨ofKind, owner⟩, topic⟩, key⟩, ruleId⟩, devices⟩, severe⟩ := selected
  simp only [Sources.couldMatch, ofKind, topic, key, ruleId, severe, Bool.and_true, Bool.true_and]
  generalize listing : (if filter.deviceIds.isEmpty then rule.deviceIds
    else rule.deviceIds.filter filter.deviceIds.contains) = ids
  have member : device.deviceId ∈ ids := by
    rw [← listing]
    split
    · exact named
    · rename_i some
      exact List.mem_filter.mpr ⟨named, by simpa [some] using devices⟩
  have nonempty : ids.isEmpty = false := List.isEmpty_eq_false_iff.mpr (List.ne_nil_of_mem member)
  rw [nonempty, Bool.not_false, Bool.true_and]
  exact ofPlugin_wanted found owner member

theorem couldMatch_own {alert : Alert} {own : AlertKind × AlertSeverity}
    (found : house.devices.getDevice device.deviceId = some device)
    (about : About device own.1 own.2 none alert) (selected : filter.selects alert = true) :
    house.sources.couldMatch filter (.own own.1 own.2) = true := by
  simp only [about.selects, sameText_none, Bool.and_eq_true] at selected
  obtain ⟨⟨⟨⟨⟨⟨ofKind, owner⟩, topic⟩, key⟩, ruleId⟩, devices⟩, severe⟩ := selected
  simp only [Sources.couldMatch, ofKind, topic, key, ruleId, severe, Bool.and_true, Bool.true_and]
  rw [Bool.or_eq_true] at devices ⊢
  exact devices.imp_right fun member => ofPlugin_wanted found owner (List.contains_iff_mem.mp member)

/-- A plugin that may speak for a device owns it, or is what it speaks for. -/
theorem owned_of_spokenName {deviceId pluginId name : String}
    (spoken : house.spokenName words deviceId pluginId = some name) :
    deviceId = pluginId ∨ house.sources.pluginOf deviceId = some pluginId := by
  rw [pluginOf_eq]
  unfold House.spokenName at spoken
  split at spoken
  · rename_i device found
    simp only [Option.ite_none_right_eq_some] at spoken
    rw [found]
    exact .inr (congrArg some spoken.1)
  · simp only [Option.ite_none_right_eq_some] at spoken
    exact .inl spoken.1

theorem spoken_of_mem_reports (member : report ∈ house.reports words) :
    house.spokenName words report.deviceId report.pluginId = some report.name ∧
      house.shown report.pluginId report.alert.topic = true := by
  obtain ⟨entry, _, listed⟩ := List.mem_flatMap.mp member
  simp only at listed
  split at listed
  · cases listed
  · rename_i name spoken
    obtain ⟨alert, told, rfl⟩ := List.mem_map.mp listed
    exact ⟨spoken, (List.mem_filter.mp told).2⟩

theorem couldMatch_plugin (listed : report ∈ house.reports words)
    (declared : house.plugins.kind report.pluginId report.alert.topic = some kind)
    (fitting : house.fitsReport filter report = true)
    (severe : severeEnough filter (pluginSeverity kind.severity) = true) :
    house.sources.couldMatch filter (.plugin report.pluginId kind) = true := by
  simp only [House.fitsReport, Bool.and_eq_true] at fitting
  obtain ⟨⟨⟨⟨⟨⟨ofKind, owner⟩, topic⟩, key⟩, ruleId⟩, devices⟩, _⟩ := fitting
  have owned : (filter.deviceIds.isEmpty ||
      house.sources.ofPlugin filter.deviceIds report.pluginId) = true := by
    rw [Bool.or_eq_true] at devices ⊢
    refine devices.imp_right fun member => ?_
    exact ofPlugin_of_mem (List.contains_iff_mem.mp member)
      (owned_of_spokenName (spoken_of_mem_reports listed).1)
  have same : kind.topic = report.alert.topic := topic_of_kind declared
  simp only [Sources.couldMatch, ofKind, owner, same, topic, ruleId, owned, severe, Bool.and_self]

/-! ## What the links say nothing can start -/

/-- Where every alert so pinned is ignored, an alert that is so pinned is. -/
theorem covered_of_ignored (alert : Alert) {pinned : Pinned}
    (ignored : house.sources.ignored pinned = true) (ofKind : alert.kind = pinned.kind)
    (ruleId : alert.ruleId = pinned.ruleId) (pluginId : alert.pluginId = pinned.pluginId)
    (topic : alert.topic = pinned.topic)
    (key : ∀ wanted, pinned.key = some wanted → alert.key = some wanted)
    (ofDevice : pinned.devices = [] ∨ alert.deviceId ∈ pinned.devices) :
    house.ignores.any (·.covers alert house.now) = true := by
  have found : ∃ ignore ∈ house.ignores, house.sources.fits pinned ignore = true ∧
      ignore.deviceId.all (· == alert.deviceId) = true := by
    unfold Sources.ignored at ignored
    split at ignored
    · obtain ⟨ignore, member, holds⟩ := List.any_eq_true.mp ignored
      simp only [Bool.and_eq_true, Option.isNone_iff_eq_none] at holds
      exact ⟨ignore, member, holds.1, by rw [holds.2]; rfl⟩
    · -- Every device named is ignored, the alert's own among them.
      rename_i some
      have member := ofDevice.resolve_left (by simpa using some)
      obtain ⟨ignore, member, holds⟩ := List.any_eq_true.mp (List.all_eq_true.mp ignored _ member)
      exact ⟨ignore, member, Bool.and_eq_true_iff.mp holds⟩
  obtain ⟨ignore, member, fits, onDevice⟩ := found
  refine List.any_eq_true.mpr ⟨ignore, member, ?_⟩
  simp only [Sources.fits, ← ofKind, ← ruleId, ← pluginId, ← topic, Bool.and_eq_true] at fits
  obtain ⟨⟨⟨⟨⟨inForce, byKind⟩, byRule⟩, byPlugin⟩, byTopic⟩, byKey⟩ := fits
  have sameKey : AlertFilter.sameText ignore.key alert.key = true := by
    cases wanted : ignore.key with
    | none => rfl
    | some w =>
      rw [wanted] at byKey
      have pinnedKey : pinned.key = some w := by simpa [AlertFilter.sameText] using byKey
      simp [AlertFilter.sameText, key w pinnedKey]
  simp only [AlertFilter.sameText] at byRule
  simp only [AlertIgnore.covers, AlertIgnore.coversParts, Bool.and_eq_true]
  exact ⟨⟨⟨⟨⟨⟨inForce, byKind⟩, onDevice⟩, byRule⟩, byPlugin⟩, byTopic⟩, sameKey⟩

theorem not_ignored (alert : Alert) (pinned : Pinned)
    (seen : house.ignores.any (·.covers alert house.now) = false) (ofKind : alert.kind = pinned.kind)
    (ruleId : alert.ruleId = pinned.ruleId) (pluginId : alert.pluginId = pinned.pluginId)
    (topic : alert.topic = pinned.topic)
    (key : ∀ wanted, pinned.key = some wanted → alert.key = some wanted)
    (ofDevice : pinned.devices = [] ∨ alert.deviceId ∈ pinned.devices) :
    house.sources.ignored pinned = false := by
  rw [Bool.eq_false_iff]
  intro ignored
  have covered := covered_of_ignored alert ignored ofKind ruleId pluginId topic key ofDevice
  rw [covered] at seen
  cases seen

theorem waitingOn_rule {alert : Alert} (enabled : rule.enabled = true)
    (named : device.deviceId ∈ rule.deviceIds)
    (about : About device .rule rule.severity (some rule.id) alert)
    (selected : filter.selects alert = true)
    (seen : house.ignores.any (·.covers alert house.now) = false) :
    house.sources.waitingOn filter (.rule rule) = none := by
  simp only [about.selects, Bool.and_eq_true] at selected
  have devices := selected.1.2
  have member : device.deviceId ∈
      (if filter.deviceIds.isEmpty then rule.deviceIds else filter.deviceIds) := by
    split
    · exact named
    · rename_i some
      simpa [some] using devices
  simp only [Sources.waitingOn, enabled, Bool.not_true, Bool.false_eq_true, if_false]
  generalize (if filter.deviceIds.isEmpty then rule.deviceIds else filter.deviceIds) = ids at member ⊢
  have notIgnored := not_ignored alert ⟨.rule, some rule.id, none, none, none, ids⟩ seen about.kind
    about.ruleId about.pluginId about.topic (by rintro wanted ⟨⟩) (.inr (about.deviceId ▸ member))
  simp only [notIgnored, Bool.false_eq_true, if_false]

theorem waitingOn_own {alert : Alert} {own : AlertKind × AlertSeverity}
    (stored : device ∈ house.devices.listDevices) (about : About device own.1 own.2 none alert)
    (selected : filter.selects alert = true)
    (seen : house.ignores.any (·.covers alert house.now) = false) :
    house.sources.waitingOn filter (.own own.1 own.2) = none := by
  simp only [about.selects, Bool.and_eq_true] at selected
  obtain ⟨⟨⟨⟨⟨⟨_, owner⟩, _⟩, _⟩, _⟩, devices⟩, _⟩ := selected
  have member : house.sources.meant filter = [] ∨ device.deviceId ∈ house.sources.meant filter := by
    unfold Sources.meant
    split
    · rename_i p wanted empty
      have same : p = device.pluginId := by simpa [wanted] using owner
      have plugged : (device.pluginId == p) = true := beq_iff_eq.mpr same.symm
      exact .inr (List.mem_map.mpr ⟨device, List.mem_filter.mpr ⟨stored, plugged⟩, rfl⟩)
    · rwa [Bool.or_eq_true, List.isEmpty_iff, List.contains_iff_mem] at devices
  have notIgnored := not_ignored alert ⟨own.1, none, none, none, none, house.sources.meant filter⟩ seen
    about.kind about.ruleId about.pluginId about.topic (by rintro wanted ⟨⟩) (about.deviceId ▸ member)
  simp only [Sources.waitingOn, notIgnored, Bool.false_eq_true, if_false]

theorem waitingOn_plugin (listed : report ∈ house.reports words)
    (declared : house.plugins.kind report.pluginId report.alert.topic = some kind)
    (fitting : house.fitsReport filter report = true)
    (seen : house.ignores.any
      (·.covers (pluginAlert words house active report).toAlert house.now) = false) :
    house.sources.waitingOn filter (.plugin report.pluginId kind) = none := by
  simp only [House.fitsReport, Bool.and_eq_true] at fitting
  obtain ⟨⟨⟨⟨_, key⟩, _⟩, devices⟩, _⟩ := fitting
  have same : kind.topic = report.alert.topic := topic_of_kind declared
  have shown := (spoken_of_mem_reports listed).2
  have on : ((house.topics.find? fun t => t.pluginId == report.pluginId &&
      t.topic == report.alert.topic).bind (·.enabled)).getD kind.defaultOn = true := by
    simp only [House.shown, declared, Option.map_some] at shown
    cases chosen : (house.topics.find? fun t => t.pluginId == report.pluginId &&
        t.topic == report.alert.topic).bind (·.enabled) with
    | none => simpa [chosen] using shown
    | some choice => simpa [chosen] using shown
  rw [Bool.or_eq_true, List.isEmpty_iff, List.contains_iff_mem] at devices
  have sameKey : ∀ wanted, filter.key = some wanted → report.alert.key = some wanted := by
    intro wanted pinned
    simpa [pinned, AlertFilter.sameText] using key
  have notIgnored := not_ignored (pluginAlert words house active report).toAlert
    ⟨.plugin, none, some report.pluginId, some report.alert.topic, filter.key, filter.deviceIds⟩ seen
    rfl rfl rfl rfl sameKey devices
  simp only [Sources.waitingOn, same, notIgnored, Bool.false_eq_true, if_false]
  exact if_neg (by simpa [House.sources] using on)

/-! ## The alerts that are foreseen -/

/-- Every alert that a plugin reports and the filter fits is of a kind that the
plugin declares, which is as serious as the filter asks. -/
def House.Declared (words : Words) (house : House) (filter : AlertFilter) : Prop :=
  ∀ report, (house.reports words).findRev? (·.id == report.id) = some report →
    house.fitsReport filter report = true →
    ∃ kind, house.plugins.kind report.pluginId report.alert.topic = some kind ∧
      severeEnough filter (pluginSeverity kind.severity) = true

theorem mem_all_plugin {pluginId topic : String}
    (declared : house.plugins.kind pluginId topic = some kind) :
    .plugin pluginId kind ∈ house.sources.all := by
  obtain ⟨kinds, listed, found⟩ := Option.bind_eq_some_iff.mp declared
  refine List.mem_append_right _ (List.mem_flatMap.mpr ⟨(pluginId, kinds), ?_, ?_⟩)
  · exact Std.ExtTreeMap.mem_toList_iff_getElem?_eq_some.mpr listed
  · exact List.mem_map.mpr ⟨kind, List.mem_of_find?_eq_some found, rfl⟩

/-- An alert that the filter selects has a linked source, on which the trigger
does not wait unless the alert is ignored. -/
theorem foreseen (declared : house.Declared words filter) (origin : Origin words house active alert)
    (selected : filter.selects alert.toAlert = true) :
    ∃ source ∈ house.sources.all, house.sourceOf alert.toAlert = some source ∧
      house.sources.couldMatch filter source = true ∧
      (house.ignores.any (·.covers alert.toAlert house.now) = false →
        house.sources.waitingOn filter source = none) := by
  cases origin with
  | own memory device raisedAs stored visited kept =>
    subst kept
    obtain ⟨own, known, about⟩ := about_of_visitDevice visited
    have about := about.keepRaisedAt active
    have found := DeviceStore.mem_listDevices.mp stored
    refine ⟨.own own.1 own.2, ?_, ?_, couldMatch_own found about selected,
      waitingOn_own stored about selected⟩
    · exact List.mem_append_left _ (List.mem_append_right _ (List.mem_map.mpr ⟨own, known, rfl⟩))
    · exact sourceOf_own known about
  | timed memory rule deviceId raisedAs stored enabled named visited kept =>
    subst kept
    obtain ⟨device, found, about⟩ := about_of_visitRule visited
    have about := about.keepRaisedAt active
    obtain rfl := house.devices.keyed deviceId device found
    refine ⟨.rule rule, ?_, ?_, couldMatch_rule named found about selected,
      waitingOn_rule enabled named about selected⟩
    · exact List.mem_append_left _ (List.mem_append_left _ (List.mem_map.mpr ⟨rule, stored, rfl⟩))
    · exact sourceOf_rule stored about
  | reported report last built =>
    subst built
    rw [selects_pluginAlert] at selected
    have listed := (mem_of_findRev? last).1
    obtain ⟨kind, known, severe⟩ := declared report last selected
    refine ⟨.plugin report.pluginId kind, mem_all_plugin known, ?_,
      couldMatch_plugin listed known selected severe, waitingOn_plugin listed known selected⟩
    exact congrArg (Option.map (Source.plugin report.pluginId)) known

/-- The links of a trigger against one pass: whatever the filter selects of the
alerts that are worked out comes from a source it could match, and a trigger said
to wait is matched by nothing that is left after ignoring. -/
def House.LinksSound (words : Words) (house : House) (active : AlertMap) (memory : Memory)
    (link : AlertLink) : Prop :=
  (∀ (id : String) (alert : ActiveAlert),
    (desired words house active memory).2[id]? = some alert ∨
      (fromPlugins words house active)[id]? = some alert →
    link.filter.selects alert.toAlert = true →
    ∃ source ∈ house.sources.all, house.sourceOf alert.toAlert = some source ∧
      house.sources.couldMatch link.filter source = true) ∧
  (link.waiting.isSome = true → ∀ (id : String) (alert : ActiveAlert),
    (workOut words house active memory).2[id]? = some alert →
    link.filter.selects alert.toAlert = false)

/-- A trigger that has a linked source which it does not wait on is not said to wait. -/
theorem waiting_none {sources : Sources} {index : Nat} {trigger : Trigger} {link : AlertLink}
    {source : Source} (linked : sources.link index trigger = some link) (listed : source ∈ sources.all)
    (matched : sources.couldMatch link.filter source = true)
    (ready : sources.waitingOn link.filter source = none) : link.waiting = none := by
  obtain ⟨moment, _, rfl⟩ := Option.map_eq_some_iff.mp linked
  have member := List.mem_filter.mpr ⟨listed, matched⟩
  simp only [Sources.waitingFor] at member ⊢
  split
  · rename_i empty
    rw [empty] at member
    cases member
  · rw [if_neg]
    intro waits
    have waiting := List.all_eq_true.mp waits source member
    rw [ready] at waiting
    cases waiting

/-- A trigger said to wait is matched by nothing that a pass leaves after ignoring. -/
theorem waiting_unmatched {index : Nat} {trigger : Trigger} {link : AlertLink} {id : String}
    (declared : house.Declared words link.filter)
    (linked : house.sources.link index trigger = some link) (waits : link.waiting.isSome = true)
    (raised : (workOut words house active memory).2[id]? = some alert) :
    link.filter.selects alert.toAlert = false := by
  by_contra selected
  rw [Bool.not_eq_false] at selected
  obtain ⟨source, listed, _, matched, ready⟩ :=
    foreseen declared (origin_of_workOut raised).2 selected
  rw [waiting_none linked listed matched (ready (uncovered_of_workOut raised))] at waits
  cases waits

/-- The links of an alert trigger are sound for what a pass works out exactly
where each alert that a plugin reports, and the trigger's filter fits, is of a
kind it declared, and one as serious as the filter asks. -/
theorem links_sound_iff (words : Words) (house : House) (active : AlertMap) (memory : Memory)
    {index : Nat} {trigger : Trigger} {link : AlertLink}
    (linked : house.sources.link index trigger = some link) :
    house.LinksSound words active memory link ↔ house.Declared words link.filter := by
  constructor
  · rintro ⟨foreseen, _⟩ report last fitting
    have raised : (fromPlugins words house active)[report.id]? =
        some (pluginAlert words house active report) := by
      rw [getElem?_fromPlugins, last, Option.map_some]
    have selected : link.filter.selects (pluginAlert words house active report).toAlert = true := by
      rw [selects_pluginAlert]
      exact fitting
    obtain ⟨source, _, isSource, matched⟩ := foreseen _ _ (.inr raised) selected
    obtain ⟨kind, known, rfl⟩ := Option.map_eq_some_iff.mp isSource
    simp only [Sources.couldMatch, Bool.and_eq_true] at matched
    exact ⟨kind, known, matched.2⟩
  · intro declared
    refine ⟨?_, ?_⟩
    · intro id alert raised selected
      have origin : Origin words house active alert := by
        rcases raised with own | plugin
        · exact (origin_of_desired own).2
        · exact (origin_of_fromPlugins plugin).2
      obtain ⟨source, listed, isSource, matched, _⟩ := foreseen declared origin selected
      exact ⟨source, listed, isSource, matched⟩
    · intro waits id alert raised
      exact waiting_unmatched declared linked waits raised

/-- A house with one hub, whose plugin declares an update as news and a fault
that is off until someone turns it on. -/
def hubHouse (severity : Option AlertSeverity) : House where
  devices := (⟨∅, [], DeviceStore.none_keyed⟩ : DeviceStore).upsert
    (DeviceState.new "hub" "Hub" "plugin.hue" 0)
  rules := []
  oneToAnId := List.nodup_nil
  topics := []
  ignores := []
  plugins :=
    { kinds := (∅ : Std.ExtTreeMap String (List PluginAlertKind)).insert "plugin.hue"
        [⟨"firmware_update", .info, true⟩, ⟨"radio_fault", .warning, false⟩]
      reported := (∅ : Std.ExtTreeMap String Reported).insert "hub"
        ⟨"plugin.hue", [⟨"firmware_update", none, "Firmware is out", none, severity, none, none⟩]⟩ }
  battery := {}
  now := 0
  localTime := 0

/-- Any alert of the hub's plugin. -/
def hubFilter : AlertFilter := { kind := some .plugin, pluginId := some "plugin.hue" }

theorem declared_update_foreseen :
    ∃ link, (hubHouse none).sources.link 0 (.alertRaised hubFilter) = some link ∧
      (hubHouse none).LinksSound english ∅ ⟨∅, ∅⟩ link := by
  have linked : (hubHouse none).sources.link 0 (.alertRaised hubFilter) = some _ := rfl
  refine ⟨_, linked, (links_sound_iff english (hubHouse none) ∅ ⟨∅, ∅⟩ linked).mpr ?_⟩
  intro report last _
  have reports : (hubHouse none).reports english =
      [⟨"hub", "plugin.hue", "Hub", "firmware_update", none, "Firmware is out", none, none, none,
        none⟩] := by
    decide
  rw [reports] at last
  obtain rfl := List.mem_singleton.mp (mem_of_findRev? last).1
  exact ⟨⟨"firmware_update", .info, true⟩, by decide, by decide⟩

/-- The plugin reports one update as an error. A trigger on its alerts from
warnings on is linked to the fault alone, and said to wait because that is off;
the update is raised, not ignored, and matches it. -/
theorem urgent_update_unforeseen :
    let house := hubHouse (some .error)
    let filter := { hubFilter with minSeverity := some .warning }
    let raised := (workOut english house ∅ ⟨∅, ∅⟩).2["plugin:plugin.hue:firmware_update:hub"]?
    (house.sources.link 0 (.alertRaised filter)).map (fun link => (link.sources, link.waiting)) =
        some (["plugin:plugin.hue/radio_fault"], some .off) ∧
      raised.map (fun alert => filter.selects alert.toAlert) = some true ∧
      (raised.bind fun alert => house.sourceOf alert.toAlert).map
        (house.sources.couldMatch filter) = some false := by
  decide +kernel

end HomeCore.Alerts
