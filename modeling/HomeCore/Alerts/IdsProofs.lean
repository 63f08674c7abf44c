import HomeCore.Alerts.LinksProofs

/-! The ids of alerts. An id is the alert's kind and what it is about, joined with
colons that are not escaped, so it names one alert as long as no two of the same kind
fall into the same pieces. -/
namespace HomeCore.Alerts
variable {words : Words} {a b : ActiveAlert}

/-- What an alert is about, in the order that its id has it. -/
def about (alert : Alert) : List String :=
  alert.ruleId.toList ++ alert.pluginId.toList ++ alert.topic.toList ++
    alert.deviceId :: alert.key.toList

/-- The pieces of texts cut at their colons. -/
def pieces (texts : List String) : List (List Char) := texts.flatMap (·.toList.splitOn ':')

/-- Two alerts of a kind, about different things, that fall into the same pieces. -/
def Regrouped (a b : Alert) : Prop :=
  a.kind = b.kind ∧ about a ≠ about b ∧ pieces (about a) = pieces (about b)

/-- A pass over some house works the alert out, or a plugin's report calls for it. -/
def Produced (words : Words) (alert : ActiveAlert) : Prop :=
  ∃ house active memory, ∃ id : String, (desired words house active memory).2[id]? = some alert ∨
    (fromPlugins words house active)[id]? = some alert

/-- What the alerts of each kind have of a rule, a plugin, a topic and a key. -/
def Shaped (alert : Alert) : Prop :=
  match alert.kind with
  | .rule => alert.ruleId.isSome ∧ alert.pluginId = none ∧ alert.topic = none ∧ alert.key = none
  | .plugin => alert.ruleId = none ∧ alert.pluginId.isSome ∧ alert.topic.isSome
  | _ => alert.ruleId = none ∧ alert.pluginId = none ∧ alert.topic = none ∧ alert.key = none

/-- The kind and then what the alert is about, with a colon between each two. -/
def joinedId (alert : Alert) : List Char :=
  List.intercalate [':'] ((alert.kind.asStr :: about alert).map String.toList)

theorem shaped_of_origin {house : House} {active : AlertMap}
    (origin : Origin words house active a) : Shaped a.toAlert ∧ a.id.toList = joinedId a.toAlert := by
  cases origin with
  | own memory device raisedAs stored visited kept =>
    obtain ⟨own, known, reason, message, start, rfl⟩ := builtIn_of_visitDevice visited
    subst kept
    simp only [ownKinds, List.mem_cons, List.not_mem_nil, or_false] at known
    rcases known with rfl | rfl | rfl | rfl | rfl <;>
      exact ⟨⟨rfl, rfl, rfl, rfl⟩, by simp [keepRaisedAt, builtIn, joinedId, about, AlertKind.asStr]⟩
  | timed memory rule deviceId raisedAs stored enabled named visited kept =>
    obtain ⟨device, start, found, rfl⟩ := ruleAlert_of_visitRule visited
    subst kept
    refine ⟨⟨rfl, rfl, rfl, rfl⟩, ?_⟩
    simp [keepRaisedAt, ruleAlert, joinedId, about, AlertKind.asStr]
  | reported report last built =>
    subst built
    refine ⟨⟨rfl, rfl, rfl⟩, ?_⟩
    cases key : report.alert.key <;>
      simp [pluginAlert, Report.id, joinedId, about, AlertKind.asStr, key]

theorem Produced.shaped (produced : Produced words a) :
    Shaped a.toAlert ∧ a.id.toList = joinedId a.toAlert := by
  obtain ⟨house, active, memory, id, found | found⟩ := produced
  · exact shaped_of_origin (origin_of_desired found).2
  · exact shaped_of_origin (origin_of_fromPlugins found).2

/-- A kind's name is one piece, and no other kind's. -/
theorem kind_piece (kind : AlertKind) : kind.asStr.toList.splitOn ':' = [kind.asStr.toList] := by
  refine List.splitOn_eq_singleton ?_
  cases kind <;> decide

theorem asStr_inj {kind other : AlertKind} (same : kind.asStr.toList = other.asStr.toList) :
    kind = other := by
  revert same
  cases kind <;> cases other <;> decide

theorem joinedId_eq_iff (a b : Alert) :
    joinedId a = joinedId b ↔ a.kind = b.kind ∧ pieces (about a) = pieces (about b) := by
  rw [joinedId, joinedId, Splitting.intercalate_eq_iff (by simp) (by simp), List.flatMap_map,
    List.flatMap_map, List.flatMap_cons, List.flatMap_cons, kind_piece, kind_piece,
    List.singleton_append, List.singleton_append, List.cons.injEq]
  constructor
  · rintro ⟨kinds, rest⟩
    exact ⟨asStr_inj kinds, rest⟩
  · rintro ⟨kinds, rest⟩
    exact ⟨by rw [kinds], rest⟩

theorem toList_inj {α : Type} {one other : Option α} (same : one.toList = other.toList) :
    one = other := by
  cases one <;> cases other <;> simp_all

/-- Of one kind, what alerts are about says which rule, plugin, topic, device and key. -/
theorem about_inj {a b : Alert} (shaped : Shaped a) (shapedToo : Shaped b) (kinds : a.kind = b.kind)
    (same : about a = about b) :
    a.ruleId = b.ruleId ∧ a.pluginId = b.pluginId ∧ a.topic = b.topic ∧ a.deviceId = b.deviceId ∧
      a.key = b.key := by
  rw [Shaped, ← kinds] at shapedToo
  rw [Shaped] at shaped
  rw [about, about] at same
  cases kind : a.kind <;> simp only [kind] at shaped shapedToo
  case rule =>
    obtain ⟨rule, noPlugin, noTopic, noKey⟩ := shaped
    obtain ⟨ruleToo, noPluginToo, noTopicToo, noKeyToo⟩ := shapedToo
    obtain ⟨r, isRule⟩ := Option.isSome_iff_exists.mp rule
    obtain ⟨r', isRuleToo⟩ := Option.isSome_iff_exists.mp ruleToo
    simp_all
  case plugin =>
    obtain ⟨noRule, plugin, topic⟩ := shaped
    obtain ⟨noRuleToo, pluginToo, topicToo⟩ := shapedToo
    obtain ⟨p, isPlugin⟩ := Option.isSome_iff_exists.mp plugin
    obtain ⟨p', isPluginToo⟩ := Option.isSome_iff_exists.mp pluginToo
    obtain ⟨t, isTopic⟩ := Option.isSome_iff_exists.mp topic
    obtain ⟨t', isTopicToo⟩ := Option.isSome_iff_exists.mp topicToo
    simp only [noRule, noRuleToo, isPlugin, isPluginToo, isTopic, isTopicToo, Option.toList_some,
      Option.toList_none, List.nil_append, List.cons_append, List.cons.injEq] at same ⊢
    obtain ⟨rfl, rfl, devices, keys⟩ := same
    exact ⟨trivial, rfl, rfl, devices, toList_inj keys⟩
  all_goals simp_all

/-- For every two alerts that the evaluator can produce: equal ids mean one source,
exactly unless the two are of a kind and regroup each other's pieces. -/
theorem ids_name_sources_iff (produced : Produced words a) (producedToo : Produced words b) :
    (a.id = b.id → a.kind = b.kind ∧ a.ruleId = b.ruleId ∧ a.pluginId = b.pluginId ∧
        a.topic = b.topic ∧ a.deviceId = b.deviceId ∧ a.key = b.key) ↔
      ¬ Regrouped a.toAlert b.toAlert := by
  obtain ⟨shaped, joined⟩ := produced.shaped
  obtain ⟨shapedToo, joinedToo⟩ := producedToo.shaped
  have ids : a.id = b.id ↔ a.kind = b.kind ∧ pieces (about a.toAlert) = pieces (about b.toAlert) := by
    rw [← joinedId_eq_iff, ← joined, ← joinedToo, String.toList_inj]
  rw [ids]
  constructor
  · rintro named ⟨kinds, differ, same⟩
    obtain ⟨_, rules, plugins, topics, devices, keys⟩ := named ⟨kinds, same⟩
    exact differ (by rw [about, about, rules, plugins, topics, devices, keys])
  · rintro apart ⟨kinds, same⟩
    have abouts : about a.toAlert = about b.toAlert := by
      by_contra differ
      exact apart ⟨kinds, differ, same⟩
    exact ⟨kinds, about_inj shaped shapedToo kinds abouts⟩

/-- A node of a radio network and one of its endpoints, two devices of one plugin. -/
def radioHouse (reported : List (String × Option String)) : House where
  devices := ((⟨∅, [], DeviceStore.none_keyed⟩ : DeviceStore).upsert
      (DeviceState.new "node" "Node" "plugin.zwave" 0)).upsert
    (DeviceState.new "node:3" "Endpoint" "plugin.zwave" 0)
  rules := []
  oneToAnId := List.nodup_nil
  topics := []
  ignores := []
  plugins :=
    { kinds := ∅
      reported := (∅ : Std.ExtTreeMap String Reported).insertMany <| reported.map fun (device, key) =>
        (device, ⟨"plugin.zwave", [⟨"fault", key, "Faulty", none, none, none, none⟩]⟩) }
  battery := {}
  now := 0
  localTime := 0

def radioAlert (device : String) (key : Option String) (name : String) : ActiveAlert :=
  pluginAlert english (radioHouse []) ∅ ⟨device, "plugin.zwave", name,
    ⟨"fault", key, "Faulty", none, none, none, none⟩⟩

/-- Each of the faults is produced on its own, and of two that have one id only one is kept. -/
theorem radio_faults : Produced english (radioAlert "node" (some "3:low") "Node") ∧
    Produced english (radioAlert "node:3" (some "low") "Endpoint") ∧
    Produced english (radioAlert "node" none "Node") ∧
    ((radioHouse [("node", some "3:low"), ("node:3", some "low")]).reports english).length = 2 ∧
    (fromPlugins english (radioHouse [("node", some "3:low"), ("node:3", some "low")]) ∅).size = 1 := by
  refine ⟨⟨radioHouse [("node", some "3:low")], ∅, ⟨∅, ∅⟩, "plugin:plugin.zwave:fault:node:3:low",
      .inr ?_⟩,
    ⟨radioHouse [("node:3", some "low")], ∅, ⟨∅, ∅⟩, "plugin:plugin.zwave:fault:node:3:low", .inr ?_⟩,
    ⟨radioHouse [("node", none)], ∅, ⟨∅, ∅⟩, "plugin:plugin.zwave:fault:node", .inr ?_⟩, ?_, ?_⟩
  all_goals decide

/-- The two faults have one id, and where both are reported one of them is lost. -/
theorem fault_lost :
    let node := radioAlert "node" (some "3:low") "Node"
    let endpoint := radioAlert "node:3" (some "low") "Endpoint"
    let house := radioHouse [("node", some "3:low"), ("node:3", some "low")]
    Produced english node ∧ Produced english endpoint ∧ node.id = endpoint.id ∧
      node.deviceId ≠ endpoint.deviceId ∧ node.key ≠ endpoint.key ∧
      (house.reports english).length = 2 ∧ (fromPlugins english house ∅).size = 1 := by
  obtain ⟨node, endpoint, _, two, one⟩ := radio_faults
  exact ⟨node, endpoint, rfl, by decide, by decide, two, one⟩

/-- A fault of the node as a whole has an id of its own. -/
theorem faults_apart :
    let node := radioAlert "node" none "Node"
    let endpoint := radioAlert "node:3" (some "low") "Endpoint"
    node.id = endpoint.id → node.kind = endpoint.kind ∧ node.ruleId = endpoint.ruleId ∧
      node.pluginId = endpoint.pluginId ∧ node.topic = endpoint.topic ∧
        node.deviceId = endpoint.deviceId ∧ node.key = endpoint.key := by
  intro node endpoint
  obtain ⟨_, endpointProduced, nodeProduced, _⟩ := radio_faults
  refine (ids_name_sources_iff nodeProduced endpointProduced).mpr fun regrouped => ?_
  exact absurd (congrArg List.length regrouped.2.2) (by decide)

end HomeCore.Alerts
