import HomeCore.Alerts.LinksProofs
import HomeCore.Since

/-! Alerts that wait until their condition has lasted. The engine's memory is of the
first pass that saw the condition; every pass since that evaluated it saw it too. What
a pass does not evaluate (a rule turned off, a device that is gone) it does not deny. -/
namespace HomeCore.Alerts
open Since
variable {words : Words} {house : House} {active : AlertMap} {memory : Memory} {alert : ActiveAlert}

/-! ## What a pass evaluates -/

/-- The rule's condition on the device's attribute. -/
def condition (words : Words) (rule : AlertRule) (device : DeviceState) : Bool :=
  (device.attributes[rule.attributeName]?).any (rule.holds words)

/-- An enabled rule of the id lists the device, which exists, and its condition has the value. -/
def House.Finds (words : Words) (house : House) (ruleId deviceId : String) (value : Bool) : Prop :=
  ∃ rule ∈ house.rules, rule.enabled = true ∧ rule.id = ruleId ∧ deviceId ∈ rule.deviceIds ∧
    ∃ device, house.devices.getDevice deviceId = some device ∧ condition words rule device = value

/-- The device exists, and is available or not. -/
def House.Reaches (house : House) (deviceId : String) (available : Bool) : Prop :=
  ∃ device, house.devices.getDevice deviceId = some device ∧ device.available = available

/-- What one pass finds, with the alerts active by then. The id that each time rule is given is
a UUID, with no colon in it. -/
structure HousePass where
  house : House
  active : AlertMap
  plain : ∀ rule ∈ house.rules, ':' ∉ rule.id.toList

/-- The memory that passes leave, one after another. -/
def memoryAfter (words : Words) (passes : List HousePass) : Memory :=
  passes.foldl (fun memory pass => (desired words pass.house pass.active memory).1) ⟨∅, ∅⟩

/-- The condition was found to hold for the rule and device by a pass so long ago, and
no pass since then found it not to. -/
def HeldFor (words : Words) (passes : List HousePass) (now : DateTime) (duration : Int)
    (ruleId deviceId : String) : Prop :=
  ∃ start, start + duration ≤ now ∧
    SeenSince (·.house.now) (·.house.Finds words ruleId deviceId true)
      (·.house.Finds words ruleId deviceId false) passes start

/-- The same of a device that was found unavailable. -/
def OfflineFor (passes : List HousePass) (now : DateTime) (duration : Int)
    (deviceId : String) : Prop :=
  ∃ start, start + duration ≤ now ∧
    SeenSince (·.house.now) (·.house.Reaches deviceId false) (·.house.Reaches deviceId true)
      passes start

/-! ## Visits -/

theorem visitAll_memory {α : Type} (visit : Memory → α → Memory × List ActiveAlert)
    (memory : Memory) (items : List α) :
    (visitAll visit memory items).1 = items.foldl (fun memory item => (visit memory item).1) memory := by
  induction items generalizing memory with
  | nil => rfl
  | cons item rest ih => exact ih _

/-- An alert of a round of visits is of one visit, with the memory of those before it. -/
theorem mem_visitAll_earlier {α : Type} {visit : Memory → α → Memory × List ActiveAlert}
    {items : List α} (member : alert ∈ (visitAll visit memory items).2) :
    ∃ earlier item later, items = earlier ++ item :: later ∧
      alert ∈ (visit (earlier.foldl (fun memory item => (visit memory item).1) memory) item).2 := by
  induction items generalizing memory with
  | nil => cases member
  | cons item rest ih =>
    rcases List.mem_append.mp member with here | later
    · exact ⟨[], item, rest, rfl, here⟩
    · obtain ⟨earlier, found, after, rfl, visited⟩ := ih later
      exact ⟨item :: earlier, found, after, rfl, visited⟩

def heldKey (ruleId deviceId : String) : String := "rule:" ++ ruleId ++ ":" ++ deviceId

/-- A visit to the key finds the device, with the rule's condition as said. -/
def Visits (words : Words) (house : House) (key : String) (value : Bool) (item : AlertRule × String) :
    Prop :=
  heldKey item.1.id item.2 = key ∧ ∃ device, house.devices.getDevice item.2 = some device ∧
    condition words item.1 device = value

/-- What a visit leaves in memory. -/
theorem visitRule_memory (item : AlertRule × String) :
    (visitRule words house memory item).1.heldSince =
      match house.devices.getDevice item.2 with
      | none => memory.heldSince
      | some device =>
        if condition words item.1 device then
          if (changedAt item.1 device).isSome then memory.heldSince
          else memory.heldSince.insertIfNew (heldKey item.1.id item.2) house.now
        else memory.heldSince.erase (heldKey item.1.id item.2) := by
  obtain ⟨rule, deviceId⟩ := item
  simp only [visitRule, condition, heldKey]
  cases house.devices.getDevice deviceId with
  | none => rfl
  | some device =>
    by_cases satisfied : (device.attributes[rule.attributeName]?).any (rule.holds words) = true
    · simp only [satisfied, if_true]
      split <;> split <;> rfl
    · simp only [satisfied, if_false, Bool.false_eq_true]

theorem visitRule_remembers (words : Words) (house : House) (key : String) :
    Remembers (fun memory : Memory => memory.heldSince[key]?)
      (fun memory item => (visitRule words house memory item).1) (fun _ => house.now)
      (Visits words house key true) (Visits words house key false) where
  origin := by
    intro memory item start found
    rw [visitRule_memory] at found
    cases stored : house.devices.getDevice item.2 with
    | none =>
      simp only [stored] at found
      exact .inl found
    | some device =>
      simp only [stored] at found
      split at found
      · rename_i satisfied
        split at found
        · exact .inl found
        · rw [Std.ExtTreeMap.getElem?_insertIfNew] at found
          split at found
          · rename_i new
            exact .inr ⟨Option.some.inj found, Std.LawfulEqCmp.eq_of_compare new.1, device, stored,
              satisfied⟩
          · exact .inl found
      · rw [Std.ExtTreeMap.getElem?_erase] at found
        split at found
        · cases found
        · exact .inl found
  kept := by
    rintro memory item start found ⟨rfl, device, stored, ended⟩
    simp only [visitRule_memory, stored, ended, Bool.false_eq_true, if_false,
      Std.ExtTreeMap.getElem?_erase_self] at found
    cases found

/-- A visit to a device finds it available or not. -/
def Meets (deviceId : String) (available : Bool) (device : DeviceState) : Prop :=
  device.deviceId = deviceId ∧ device.available = available

theorem visitDevice_remembers (words : Words) (house : House) (active : AlertMap) (deviceId : String) :
    Remembers (fun memory : Memory => memory.offlineSince[deviceId]?)
      (fun memory device => (visitDevice words house active memory device).1) (fun _ => house.now)
      (Meets deviceId false) (Meets deviceId true) where
  origin := by
    intro memory device start found
    simp only [visitDevice, noticeOffline] at found
    split at found
    · rw [Std.ExtTreeMap.getElem?_erase] at found
      split at found
      · cases found
      · exact .inl found
    · rename_i unavailable
      rw [Std.ExtTreeMap.getElem?_insertIfNew] at found
      split at found
      · rename_i new
        exact .inr ⟨Option.some.inj found, Std.LawfulEqCmp.eq_of_compare new.1,
          Bool.not_eq_true _ ▸ unavailable⟩
      · exact .inl found
  kept := by
    rintro memory device start found ⟨rfl, available⟩
    simp only [visitDevice, noticeOffline, available, if_true,
      Std.ExtTreeMap.getElem?_erase_self] at found
    cases found

/-! ## Passes -/

theorem visitDevice_held (device : DeviceState) :
    (visitDevice words house active memory device).1.heldSince = memory.heldSince := rfl

theorem visitRule_offline (item : AlertRule × String) :
    (visitRule words house memory item).1.offlineSince = memory.offlineSince := by
  obtain ⟨rule, deviceId⟩ := item
  simp only [visitRule]
  split
  · rfl
  · split
    · split <;> split <;> rfl
    · rfl

/-- Visits that each leave a part of the memory leave it altogether. -/
theorem foldl_frame {α β : Type} {visit : Memory → α → Memory} (part : Memory → β)
    (frame : ∀ memory item, part (visit memory item) = part memory) (items : List α)
    (memory : Memory) : part (items.foldl visit memory) = part memory := by
  induction items generalizing memory with
  | nil => rfl
  | cons item rest ih => exact (ih _).trans (frame memory item)

/-- The visits that a pass pays to time rules. -/
def House.ruleVisits (house : House) : List (AlertRule × String) :=
  (house.rules.filter (·.enabled)).flatMap fun rule => rule.deviceIds.map (rule, ·)

theorem mem_ruleVisits {item : AlertRule × String} :
    item ∈ house.ruleVisits ↔
      item.1 ∈ house.rules ∧ item.1.enabled = true ∧ item.2 ∈ item.1.deviceIds := by
  obtain ⟨rule, deviceId⟩ := item
  simp only [House.ruleVisits, List.mem_flatMap, List.mem_filter, List.mem_map, Prod.mk.injEq]
  constructor
  · rintro ⟨_, ⟨stored, enabled⟩, _, named, rfl, rfl⟩
    exact ⟨stored, enabled, named⟩
  · rintro ⟨stored, enabled, named⟩
    exact ⟨rule, ⟨stored, enabled⟩, deviceId, named, rfl, rfl⟩

def afterDevices (words : Words) (house : House) (active : AlertMap) (memory : Memory) : Memory :=
  house.devices.listDevices.foldl
    (fun memory device => (visitDevice words house active memory device).1) memory

theorem desired_memory :
    (desired words house active memory).1 = house.ruleVisits.foldl
      (fun memory item => (visitRule words house memory item).1)
      (afterDevices words house active memory) := by
  simp only [desired, afterDevices, House.ruleVisits]
  rw [visitAll_memory, visitAll_memory]

theorem held_afterDevices :
    (afterDevices words house active memory).heldSince = memory.heldSince :=
  foldl_frame (·.heldSince) (fun _ device => visitDevice_held device) _ _

theorem offline_desired :
    (desired words house active memory).1.offlineSince =
      (afterDevices words house active memory).offlineSince := by
  rw [desired_memory]
  exact foldl_frame (·.offlineSince) (fun _ item => visitRule_offline item) _ _

/-- Where ids of rules have no colon, a key is of one rule and device. -/
theorem heldKey_inj {ruleId deviceId otherId otherDevice : String} (plain : ':' ∉ ruleId.toList)
    (plainToo : ':' ∉ otherId.toList) (same : heldKey ruleId deviceId = heldKey otherId otherDevice) :
    ruleId = otherId ∧ deviceId = otherDevice := by
  have texts : ruleId.toList ++ ':' :: deviceId.toList = otherId.toList ++ ':' :: otherDevice.toList := by
    have whole := congrArg String.toList same
    simpa [heldKey] using whole
  have parts := congrArg (List.splitOn ':') texts
  rw [List.splitOn_append_cons_self_of_not_mem plain,
    List.splitOn_append_cons_self_of_not_mem plainToo] at parts
  have rules : ruleId.toList = otherId.toList := (List.cons.inj parts).1
  rw [rules] at texts
  exact ⟨String.toList_inj.mp rules,
    String.toList_inj.mp (List.cons.inj (List.append_cancel_left texts)).2⟩

section Keys
variable {ruleId deviceId : String}

/-- A visit to the key, in a house whose rules have plain ids, is to the rule and device. -/
theorem visits_iff {value : Bool} (plain : ':' ∉ ruleId.toList)
    (plainRules : ∀ rule ∈ house.rules, ':' ∉ rule.id.toList) :
    (∃ item ∈ house.ruleVisits, Visits words house (heldKey ruleId deviceId) value item) ↔
      house.Finds words ruleId deviceId value := by
  constructor
  · rintro ⟨⟨rule, _⟩, listed, keyed, device, found, is⟩
    obtain ⟨stored, enabled, named⟩ := mem_ruleVisits.mp listed
    obtain ⟨sameRule, rfl⟩ := heldKey_inj (plainRules rule stored) plain keyed
    exact ⟨rule, stored, enabled, sameRule, named, device, found, is⟩
  · rintro ⟨rule, stored, enabled, rfl, named, device, found, is⟩
    exact ⟨(rule, deviceId), mem_ruleVisits.mpr ⟨stored, enabled, named⟩, rfl, device, found, is⟩

/-- A house has one rule of an id and one device of an id, so its visits agree. -/
theorem not_found_both (sees : house.Finds words ruleId deviceId true) :
    ¬ house.Finds words ruleId deviceId false := by
  rintro ⟨other, storedToo, _, sameId, _, otherDevice, foundToo, ended⟩
  obtain ⟨rule, stored, _, rfl, _, device, found, satisfied⟩ := sees
  obtain rfl := List.inj_on_of_nodup_map house.oneToAnId storedToo stored sameId
  obtain rfl := Option.some.inj (foundToo.symm.trans found)
  rw [satisfied] at ended
  cases ended

theorem heldSince_remembers (plain : ':' ∉ ruleId.toList) :
    Remembers (fun memory : Memory => memory.heldSince[heldKey ruleId deviceId]?)
      (fun memory (pass : HousePass) => (desired words pass.house pass.active memory).1) (·.house.now)
      (·.house.Finds words ruleId deviceId true) (·.house.Finds words ruleId deviceId false) := by
  refine .of_visits (fun pass => visitRule_remembers words pass.house _) (fun memory pass => ?_)
    (fun pass => visits_iff plain pass.plain) (fun pass => visits_iff plain pass.plain)
    (fun pass => not_found_both)
  refine ⟨afterDevices words pass.house pass.active memory, ?_, ?_⟩
  · rw [held_afterDevices]
  · rw [desired_memory]

end Keys

theorem meets_iff {deviceId : String} {available : Bool} :
    (∃ device ∈ house.devices.listDevices, Meets deviceId available device) ↔
      house.Reaches deviceId available := by
  constructor
  · rintro ⟨device, listed, rfl, is⟩
    exact ⟨device, DeviceStore.mem_listDevices.mp listed, is⟩
  · rintro ⟨device, found, is⟩
    have keyed := house.devices.keyed deviceId device found
    exact ⟨device, DeviceStore.mem_listDevices.mpr (keyed ▸ found), keyed, is⟩

theorem offlineSince_remembers (words : Words) (deviceId : String) :
    Remembers (fun memory : Memory => memory.offlineSince[deviceId]?)
      (fun memory (pass : HousePass) => (desired words pass.house pass.active memory).1) (·.house.now)
      (·.house.Reaches deviceId false) (·.house.Reaches deviceId true) := by
  refine .of_visits (fun pass => visitDevice_remembers words pass.house pass.active deviceId)
    (fun memory pass => ⟨memory, rfl, by rw [offline_desired]; rfl⟩) (fun pass => meets_iff)
    (fun pass => meets_iff) ?_
  rintro pass ⟨same, foundDevice, unavailable⟩ ⟨other, foundOther, available⟩
  obtain rfl := Option.some.inj (foundOther.symm.trans foundDevice)
  rw [unavailable] at available
  cases available

/-- A time that the memory of some passes has is of one of them. -/
theorem seen_of_memoryAfter {passes : List HousePass} {lookup : Memory → Option DateTime}
    {sees denies : HousePass → Prop} {start : DateTime}
    (remembers : Remembers lookup
      (fun memory pass => (desired words pass.house pass.active memory).1) (·.house.now) sees denies)
    (empty : lookup ⟨∅, ∅⟩ = none) (found : lookup (memoryAfter words passes) = some start) :
    SeenSince (·.house.now) sees denies passes start := by
  rcases remembers.run found with ⟨impossible, _⟩ | seen
  · rw [empty] at impossible
    cases impossible
  · exact seen

/-! ## Raised alerts -/

/-- What a visit that raises the rule's alert has found. -/
theorem raised_by_visitRule {rule : AlertRule} {deviceId : String}
    (visited : alert ∈ (visitRule words house memory (rule, deviceId)).2) :
    ∃ device start, house.devices.getDevice deviceId = some device ∧
      condition words rule device = true ∧ alert = ruleAlert words rule device start ∧
      start = (changedAt rule device).getD
        (memory.heldSince[heldKey rule.id deviceId]?.getD house.now) ∧
      ∀ m, rule.forMinutes = some m → (m : Int) * 60 ≤ (house.now - start).tdiv second := by
  simp only [visitRule] at visited
  split at visited
  · cases visited
  · rename_i device found
    split at visited
    · rename_i satisfied
      split at visited
      · rename_i held
        rw [Bool.and_eq_true] at held
        refine ⟨device, _, found, satisfied, List.mem_singleton.mp visited, rfl, fun m minutes => ?_⟩
        have lasted := held.1
        rw [minutes, Option.all_some, decide_eq_true_eq] at lasted
        exact lasted
      · cases visited
    · cases visited

/-- Some whole minutes have passed since a time, which is before the present. -/
theorem minutes_before {now start : DateTime} {m : Nat} (some : 0 < m)
    (lasted : (m : Int) * 60 ≤ (now - start).tdiv second) :
    start + m * (60 * second) ≤ now ∧ start ≠ now := by
  rcases Int.le_total 0 (now - start) with forward | backward
  · rw [Int.tdiv_eq_ediv_of_nonneg forward] at lasted
    simp only [second] at lasted ⊢
    constructor
    · exact Int.add_le_of_le_sub_left (by omega)
    · rintro rfl
      omega
  · have turned : now - start = -(start - now) := (Int.neg_sub _ _).symm
    rw [turned, Int.neg_tdiv, Int.tdiv_eq_ediv_of_nonneg (by omega)] at lasted
    simp only [second] at lasted
    omega

/-- A device's alert of being offline is raised by a visit that finds it so for long enough. -/
theorem raised_by_visitDevice {device : DeviceState}
    (visited : alert ∈ (visitDevice words house active memory device).2)
    (isOffline : alert.kind = .offline) :
    device.available = false ∧ alert.deviceId = device.deviceId ∧
      offlineAfter ≤
        (house.now - (memory.offlineSince[device.deviceId]?.getD house.now)).toNat := by
  simp only [visitDevice, List.mem_append, Option.mem_toList] at visited
  rcases visited with (((offline | wet) | smoke) | jammed) | low
  · simp only [offlineAlert, Option.ite_none_right_eq_some, Option.some.injEq, Bool.and_eq_true,
      Bool.not_eq_true', decide_eq_true_eq] at offline
    obtain ⟨⟨unavailable, long⟩, rfl⟩ := offline
    exact ⟨unavailable, rfl, long⟩
  · obtain ⟨attr, _, rfl⟩ := Option.map_eq_some_iff.mp wet
    cases isOffline
  · obtain ⟨attr, _, rfl⟩ := Option.map_eq_some_iff.mp smoke
    cases isOffline
  · simp only [jammedAlert, Option.ite_none_right_eq_some, Option.some.injEq] at jammed
    obtain ⟨_, rfl⟩ := jammed
    cases isOffline
  · simp only [lowBatteryAlert, Option.ite_none_right_eq_some, Option.some.injEq] at low
    obtain ⟨_, rfl⟩ := low
    cases isOffline

/-- A raised alert is a plugin's, or of a visit to a device or a rule, with the memory that the
visits before it left. -/
theorem visit_of_workOut {id : String} (raised : (workOut words house active memory).2[id]? = some alert) :
    alert.kind = .plugin ∧ alert.ruleId = none ∨
    ∃ raisedAs, alert = keepRaisedAt active raisedAs ∧
      ((∃ earlier device later, house.devices.listDevices = earlier ++ device :: later ∧
        raisedAs ∈ (visitDevice words house active (earlier.foldl
          (fun memory device => (visitDevice words house active memory device).1) memory) device).2) ∨
      ∃ earlier item later, house.ruleVisits = earlier ++ item :: later ∧
        raisedAs ∈ (visitRule words house (earlier.foldl
          (fun memory item => (visitRule words house memory item).1)
            (afterDevices words house active memory)) item).2) := by
  rw [workOut, getElem?_unignored] at raised
  obtain ⟨found, _⟩ := Option.filter_eq_some_iff.mp raised
  rw [Std.ExtTreeMap.getElem?_union] at found
  rcases Option.or_eq_some_iff.mp found with plugin | ⟨_, desired⟩
  · rw [getElem?_fromPlugins] at plugin
    obtain ⟨report, _, rfl⟩ := Option.map_eq_some_iff.mp plugin
    exact .inl ⟨rfl, rfl⟩
  · obtain ⟨member, _⟩ := mem_collect desired
    obtain ⟨raisedAs, listed, rfl⟩ := List.mem_map.mp member
    refine .inr ⟨raisedAs, rfl, ?_⟩
    rcases List.mem_append.mp listed with own | timed
    · exact .inl (mem_visitAll_earlier own)
    · rw [visitAll_memory] at timed
      exact .inr (mem_visitAll_earlier timed)

theorem rule_held {passes : List HousePass} {pass : HousePass} {id ruleId : String}
    (raised : (workOut words pass.house pass.active (memoryAfter words passes)).2[id]? = some alert)
    (ofRule : alert.ruleId = some ruleId) :
    ∃ rule ∈ pass.house.rules, rule.enabled = true ∧ rule.id = ruleId ∧
      alert.deviceId ∈ rule.deviceIds ∧
      ∃ device, pass.house.devices.getDevice alert.deviceId = some device ∧
        condition words rule device = true ∧ ∀ m : Nat, rule.forMinutes = some m → 0 < m →
          (∃ changed, changedAt rule device = some changed ∧
            changed + m * (60 * second) ≤ pass.house.now) ∨
          HeldFor words passes pass.house.now (m * (60 * second)) ruleId alert.deviceId := by
  rcases visit_of_workOut raised with ⟨_, noRule⟩ | ⟨raisedAs, rfl, own | timed⟩
  · rw [noRule] at ofRule
    cases ofRule
  · obtain ⟨_, device, _, _, visited⟩ := own
    obtain ⟨kind, _, about⟩ := about_of_visitDevice visited
    have noRule : raisedAs.ruleId = none := about.ruleId
    exact absurd (ofRule.symm.trans noRule) (by simp)
  · obtain ⟨earlier, ⟨rule, deviceId⟩, later, split, visited⟩ := timed
    obtain ⟨device, start, found, satisfied, rfl, counted, lasted⟩ := raised_by_visitRule visited
    obtain rfl : rule.id = ruleId := Option.some.inj ofRule
    have listed : (rule, deviceId) ∈ pass.house.ruleVisits := by
      rw [split]
      exact List.mem_append_right _ List.mem_cons_self
    obtain ⟨stored, enabled, named⟩ := mem_ruleVisits.mp listed
    obtain rfl : device.deviceId = deviceId := pass.house.devices.keyed deviceId device found
    refine ⟨rule, stored, enabled, rfl, named, device, found, satisfied, fun m minutes some => ?_⟩
    obtain ⟨reached, past⟩ := minutes_before some (lasted m minutes)
    cases changed : changedAt rule device with
    | some moment =>
      rw [changed, Option.getD_some] at counted
      exact .inl ⟨moment, rfl, counted ▸ reached⟩
    | none =>
      rw [changed, Option.getD_none] at counted
      cases noted : (earlier.foldl (fun memory item => (visitRule words pass.house memory item).1)
          (afterDevices words pass.house pass.active
            (memoryAfter words passes))).heldSince[heldKey rule.id device.deviceId]? with
      | none =>
        rw [noted, Option.getD_none] at counted
        exact absurd counted past
      | some since =>
        rw [noted, Option.getD_some] at counted
        subst counted
        rcases (visitRule_remembers words pass.house _).run noted with
          ⟨before, _⟩ | ⟨_, _, _, _, now, _⟩
        · rw [held_afterDevices] at before
          exact .inr ⟨start, reached,
            seen_of_memoryAfter (heldSince_remembers (pass.plain rule stored)) rfl before⟩
        · exact absurd now.symm past

theorem offline_held {passes : List HousePass} {pass : HousePass} {id : String}
    (raised : (workOut words pass.house pass.active (memoryAfter words passes)).2[id]? = some alert)
    (isOffline : alert.kind = .offline) :
    pass.house.Reaches alert.deviceId false ∧
      OfflineFor passes pass.house.now offlineAfter alert.deviceId := by
  rcases visit_of_workOut raised with ⟨plugin, _⟩ | ⟨raisedAs, rfl, own | timed⟩
  · rw [plugin] at isOffline
    cases isOffline
  · obtain ⟨earlier, device, later, split, visited⟩ := own
    obtain ⟨unavailable, same, long⟩ := raised_by_visitDevice visited isOffline
    have sameDevice : (keepRaisedAt pass.active raisedAs).deviceId = device.deviceId := same
    have listed : device ∈ pass.house.devices.listDevices := by
      rw [split]
      exact List.mem_append_right _ List.mem_cons_self
    rw [sameDevice]
    refine ⟨⟨device, DeviceStore.mem_listDevices.mp listed, unavailable⟩, ?_⟩
    cases noted : (earlier.foldl (fun memory device =>
        (visitDevice words pass.house pass.active memory device).1)
          (memoryAfter words passes)).offlineSince[device.deviceId]? with
    | none =>
      rw [noted, Option.getD_none] at long
      simp only [offlineAfter] at long
      omega
    | some start =>
      rw [noted, Option.getD_some] at long
      rcases (visitDevice_remembers words pass.house pass.active device.deviceId).run noted with
        ⟨before, _⟩ | ⟨_, _, _, _, now, _⟩
      · refine ⟨start, ?_, seen_of_memoryAfter (offlineSince_remembers words device.deviceId) rfl before⟩
        simp only [offlineAfter] at long ⊢
        exact Int.add_le_of_le_sub_left (by omega)
      · simp only [now, offlineAfter] at long
        omega
  · obtain ⟨earlier, item, later, split, visited⟩ := timed
    obtain ⟨device, start, found, rfl⟩ := ruleAlert_of_visitRule visited
    cases isOffline

/-- For every sequence of passes: an alert of a time rule that waits some minutes is raised only
where the enabled rule's condition holds of the device, and either its attribute is said to have
had the wanted value for so long, or a pass so long ago found the condition to hold and none since
found it not to; and an alert of being offline only where the device is unavailable, was found so
that long ago and has not been found available since. -/
theorem raised_only_after (words : Words) (passes : List HousePass) (pass : HousePass)
    (id : String) (alert : ActiveAlert)
    (raised : (workOut words pass.house pass.active (memoryAfter words passes)).2[id]? = some alert) :
    (∀ ruleId, alert.ruleId = some ruleId → ∃ rule ∈ pass.house.rules, rule.enabled = true ∧
      rule.id = ruleId ∧ alert.deviceId ∈ rule.deviceIds ∧
      ∃ device, pass.house.devices.getDevice alert.deviceId = some device ∧
        condition words rule device = true ∧ ∀ m : Nat, rule.forMinutes = some m → 0 < m →
          (∃ changed, changedAt rule device = some changed ∧
            changed + m * (60 * second) ≤ pass.house.now) ∨
          HeldFor words passes pass.house.now (m * (60 * second)) ruleId alert.deviceId) ∧
    (alert.kind = .offline → pass.house.Reaches alert.deviceId false ∧
      OfflineFor passes pass.house.now offlineAfter alert.deviceId) := by
  constructor
  · exact fun ruleId ofRule => rule_held raised ofRule
  · exact offline_held raised

/-- A house with a door that has been open since an hour before zero, and a rule that it is not to
be open for half an hour. -/
def doorHouse (rules : List AlertRule) (oneToAnId : (rules.map (·.id)).Nodup) (now : DateTime) : House where
  devices := (⟨∅, [], DeviceStore.none_keyed⟩ : DeviceStore).upsert
    { DeviceState.new "door" "Door" "plugin.yolink" 0 with
      available := true
      attributes := (∅ : AttrMap).insert "open" (.bool true)
      attributesChangedAt := (∅ : Std.ExtTreeMap String DateTime).insert "open" (-3600 * second) }
  rules := rules
  oneToAnId := oneToAnId
  topics := []
  ignores := []
  plugins := ⟨∅, ∅⟩
  battery := {}
  now := now
  localTime := 0

def leftOpen : AlertRule where
  id := "7"
  enabled := true
  deviceIds := ["door"]
  attributeName := "open"
  value := .bool true
  op := .eq
  stateLabel := none
  after := none
  untilTime := none
  forMinutes := some 30
  severity := .warning

def beforeRule : HousePass := ⟨doorHouse [] List.nodup_nil 0, ∅, by simp [doorHouse]⟩

def afterRule : HousePass :=
  ⟨doorHouse [leftOpen] (List.nodup_singleton _) (60 * second), ∅, by
    intro rule stored
    obtain rfl := List.mem_singleton.mp stored
    decide⟩

theorem door_alert :
    (workOut english afterRule.house ∅ (memoryAfter english [beforeRule])).2["rule:7:door"]?.map
      (fun alert => (alert.ruleId, alert.deviceId)) = some (some "7", "door") := by
  decide +kernel

/-- A minute after a pass that knew no rule, the new rule's alert is raised. -/
theorem new_rule_raises_at_once :
    beforeRule.house.rules = [] ∧ afterRule.house.now - 30 * (60 * second) < beforeRule.house.now ∧
      leftOpen.forMinutes = some 30 ∧
      (workOut english afterRule.house ∅ (memoryAfter english [beforeRule])).2["rule:7:door"]?.map
        (fun alert => (alert.ruleId, alert.deviceId)) = some (some "7", "door") :=
  ⟨rfl, by decide, rfl, door_alert⟩

/-- The rule is enabled then, and the door open. -/
theorem open_door_raised :
    ∃ rule ∈ afterRule.house.rules, rule.enabled = true ∧ rule.id = "7" ∧
      ∃ device, afterRule.house.devices.getDevice "door" = some device ∧
        condition english rule device = true := by
  obtain ⟨alert, raised, same⟩ := Option.map_eq_some_iff.mp door_alert
  obtain ⟨ofRule, ofDevice⟩ := Prod.mk.inj same
  obtain ⟨rule, stored, enabled, isRule, _, device, found, satisfied, _⟩ :=
    (raised_only_after english [beforeRule] afterRule _ alert raised).1 "7" ofRule
  rw [ofDevice] at found
  exact ⟨rule, stored, enabled, isRule, device, found, satisfied⟩

end HomeCore.Alerts
