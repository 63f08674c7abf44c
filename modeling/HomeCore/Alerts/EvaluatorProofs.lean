import HomeCore.Alerts.Evaluator

/-! What a pass works out: every alert stands under its id, and one that was
active keeps when it was raised. -/
namespace HomeCore.Alerts
variable {words : Words} {house : House} {active : AlertMap} {memory : Memory} {id : String}
  {alert was : ActiveAlert}

theorem getElem?_collect (alerts : List ActiveAlert) (id : String) :
    (collect alerts)[id]? = alerts.findRev? (·.id == id) := by
  rw [collect, Std.ExtTreeMap.getElem?_insertMany_list, Std.ExtTreeMap.getElem?_empty,
    Option.or_none]
  induction alerts with
  | nil => rfl
  | cons alert rest ih =>
    rw [List.map_cons, List.findSomeRev?, ih]
    simp only [List.findRev?, Std.compare_eq_iff_eq, beq_iff_eq]

theorem mem_of_findRev? {α : Type} {p : α → Bool} {l : List α} {a : α}
    (found : l.findRev? p = some a) : a ∈ l ∧ p a = true := by
  rw [List.findRev?_eq_find?_reverse] at found
  exact ⟨List.mem_reverse.mp (List.mem_of_find?_eq_some found), List.find?_some found⟩

theorem mem_collect {alerts : List ActiveAlert} (found : (collect alerts)[id]? = some alert) :
    alert ∈ alerts ∧ alert.id = id := by
  rw [getElem?_collect] at found
  obtain ⟨member, same⟩ := mem_of_findRev? found
  exact ⟨member, beq_iff_eq.mp same⟩

theorem mem_visitAll {α : Type} {visit : Memory → α → Memory × List ActiveAlert} {items : List α}
    (member : alert ∈ (visitAll visit memory items).2) :
    ∃ memory item, item ∈ items ∧ alert ∈ (visit memory item).2 := by
  induction items generalizing memory with
  | nil => cases member
  | cons item rest ih =>
    rcases List.mem_append.mp member with here | later
    · exact ⟨memory, item, List.mem_cons_self, here⟩
    · obtain ⟨memory, item, member, found⟩ := ih later
      exact ⟨memory, item, List.mem_cons_of_mem _ member, found⟩

/-- An alert that a pass works out comes from a device, a time rule or a report. -/
inductive Origin (words : Words) (house : House) (active : AlertMap) (alert : ActiveAlert) : Prop
  | own (memory : Memory) (device : DeviceState) (raisedAs : ActiveAlert)
      (stored : device ∈ house.devices.listDevices)
      (visited : raisedAs ∈ (visitDevice words house active memory device).2)
      (kept : alert = keepRaisedAt active raisedAs)
  | timed (memory : Memory) (rule : AlertRule) (deviceId : String) (raisedAs : ActiveAlert)
      (stored : rule ∈ house.rules) (enabled : rule.enabled = true)
      (named : deviceId ∈ rule.deviceIds)
      (visited : raisedAs ∈ (visitRule words house memory (rule, deviceId)).2)
      (kept : alert = keepRaisedAt active raisedAs)
  | reported (report : Report)
      (last : (house.reports words).findRev? (·.id == report.id) = some report)
      (built : alert = pluginAlert words house active report)

theorem origin_of_desired (found : (desired words house active memory).2[id]? = some alert) :
    alert.id = id ∧ Origin words house active alert := by
  obtain ⟨member, same⟩ := mem_collect found
  obtain ⟨raisedAs, listed, rfl⟩ := List.mem_map.mp member
  refine ⟨same, ?_⟩
  rcases List.mem_append.mp listed with own | timed
  · obtain ⟨memory, device, stored, visited⟩ := mem_visitAll own
    exact .own memory device raisedAs stored visited rfl
  · obtain ⟨memory, item, listed, visited⟩ := mem_visitAll timed
    obtain ⟨rule, stored, listed⟩ := List.mem_flatMap.mp listed
    obtain ⟨deviceId, named, rfl⟩ := List.mem_map.mp listed
    obtain ⟨stored, enabled⟩ := List.mem_filter.mp stored
    exact .timed memory rule deviceId raisedAs stored enabled named visited rfl

theorem getElem?_fromPlugins (id : String) :
    (fromPlugins words house active)[id]? =
      ((house.reports words).findRev? (·.id == id)).map (pluginAlert words house active) := by
  rw [fromPlugins, getElem?_collect, List.findRev?_eq_find?_reverse, ← List.map_reverse,
    List.find?_map, List.findRev?_eq_find?_reverse]
  rfl

theorem origin_of_fromPlugins (found : (fromPlugins words house active)[id]? = some alert) :
    alert.id = id ∧ Origin words house active alert := by
  rw [getElem?_fromPlugins] at found
  obtain ⟨report, last, rfl⟩ := Option.map_eq_some_iff.mp found
  have same : report.id = id := beq_iff_eq.mp (mem_of_findRev? last).2
  exact ⟨same, .reported report (same ▸ last) rfl⟩

theorem getElem?_unignored (alerts : AlertMap) (ignores : List AlertIgnore) (now : DateTime) :
    (unignored alerts ignores now)[id]? =
      alerts[id]?.filter fun alert => !ignores.any (·.covers alert.toAlert now) := by
  simp only [unignored, Std.ExtTreeMap.getElem?_filter']

theorem uncovered_of_workOut (found : (workOut words house active memory).2[id]? = some alert) :
    house.ignores.any (·.covers alert.toAlert house.now) = false := by
  rw [workOut, getElem?_unignored] at found
  simpa using (Option.filter_eq_some_iff.mp found).2

theorem origin_of_workOut (found : (workOut words house active memory).2[id]? = some alert) :
    alert.id = id ∧ Origin words house active alert := by
  rw [workOut, getElem?_unignored] at found
  obtain ⟨found, _⟩ := Option.filter_eq_some_iff.mp found
  rw [Std.ExtTreeMap.getElem?_union] at found
  rcases Option.or_eq_some_iff.mp found with plugin | ⟨_, desired⟩
  · exact origin_of_fromPlugins plugin
  · exact origin_of_desired desired

theorem keepRaisedAt_raisedAt (known : active[alert.id]? = some was) :
    (keepRaisedAt active alert).raisedAt = was.raisedAt := by
  simp only [keepRaisedAt, known, Option.map_some, Option.getD_some]

theorem Origin.raisedAt (origin : Origin words house active alert)
    (known : active[alert.id]? = some was) : alert.raisedAt = was.raisedAt := by
  cases origin with
  | own memory device raisedAs stored visited kept =>
    subst kept
    exact keepRaisedAt_raisedAt known
  | timed memory rule deviceId raisedAs stored enabled named visited kept =>
    subst kept
    exact keepRaisedAt_raisedAt known
  | reported report last built =>
    subst built
    change active[report.id]? = some was at known
    simp only [pluginAlert, known, Option.map_some, Option.orElse_eq_orElse, Option.orElse_some,
      Option.getD_some]

/-- Letters and numbers as an English house has them. -/
def english : Words where
  isUppercase := Char.isUpper
  isAlphabetic := Char.isAlpha
  toLowercase := fun c => [c.toLower]
  toUppercase := fun c => [c.toUpper]
  json := fun _ => ""
  rounded := fun p => toString p.floor
  add := (· + ·)
  compare := fun _ _ => none
  timeOfDay := fun _ => none

end HomeCore.Alerts
