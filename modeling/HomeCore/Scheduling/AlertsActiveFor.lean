import HomeCore.Once
import HomeCore.Scheduling.Scheduler
import HomeCore.Alerts.EngineProofs

/-! `AlertActiveFor`: at its ticks the scheduler reads the active alerts and fires
the rules that one has lasted long enough for, once per alert. It remembers which by
the alert's id, and forgets an id only at a tick that finds it gone. -/
namespace HomeCore.Alerts

/-- Active alerts, most serious first, then newest. -/
def AlertEngine.list (engine : AlertEngine) : List ActiveAlert :=
  (engine.active.toList.map (·.2)).mergeSort fun a b =>
    severityRank b.severity < severityRank a.severity
      || a.severity == b.severity && b.raisedAt ≤ a.raisedAt

/-- The id that an event announces as new. -/
def AlertEvent.newId : AlertEvent → Option String
  | .raised _ alert update => if update then none else some alert.id
  | .cleared .. => none

/-- How many times an alert has been raised. -/
def AlertEngine.raises (engine : AlertEngine) (id : String) : Nat :=
  (engine.published.filterMap AlertEvent.newId).count id

end HomeCore.Alerts

namespace HomeCore.Scheduler
open Alerts

/-- `num_minutes`, which leaves out a part of a minute. -/
def lasted (now : DateTime) (alert : Alert) : Int := ((now - alert.raisedAt).tdiv second).tdiv 60

section
variable (active : List ActiveAlert) (now : DateTime)

/-- The alerts that a trigger fires for, were there no memory. -/
def longActive : Trigger → List ActiveAlert
  | .alertActiveFor filter minutes =>
    active.filter fun alert => filter.selects alert.toAlert && minutes ≤ lasted now alert.toAlert
  | _ => []

/-- The pairs of a rule and an alert that a tick comes to. -/
def alertPairs (rules : List Rule) : List (Uuid × ActiveAlert) :=
  (rules.filter (·.enabled)).flatMap fun rule =>
    rule.allTriggers.flatMap fun trigger => (longActive active now trigger).map (rule.id, ·)

def firedKey (pair : Uuid × ActiveAlert) : Uuid × String := (pair.1, pair.2.id)

/-- The memory after a tick, and the pairs it published. -/
def fireAlertsActiveFor (rules : List Rule) (alertFired : List (Uuid × String)) :
    List (Uuid × String) × List (Uuid × ActiveAlert) :=
  Once.round firedKey (alertFired.filter fun key => active.any (·.id == key.2))
    (alertPairs active now rules)

end

/-- A published tick. `raise` counts how many times its alert had been raised by then. -/
structure AlertFire where
  ruleId : Uuid
  alert : ActiveAlert
  timestamp : DateTime
  raise : Nat

/-- The alert engine and the scheduler, with all that the scheduler has published. -/
structure AlertWatch where
  alerts : AlertEngine
  alertFired : List (Uuid × String)
  fires : List AlertFire

inductive AlertWatch.Input where
  | alerts (input : Alerts.Input)
  /-- A tick, with the rules as loaded by then. -/
  | tick (rules : List Rule) (now : DateTime)

namespace AlertWatch

def fresh : AlertWatch := ⟨.fresh, [], []⟩

def tick (watch : AlertWatch) (rules : List Rule) (now : DateTime) : AlertWatch :=
  let (alertFired, published) := fireAlertsActiveFor watch.alerts.list now rules watch.alertFired
  { watch with
    alertFired := alertFired
    fires := watch.fires ++ published.map fun pair =>
      ⟨pair.1, pair.2, now, watch.alerts.raises pair.2.id⟩ }

def step (words : Words) (watch : AlertWatch) : Input → AlertWatch
  | .alerts input => { watch with alerts := watch.alerts.step words input }
  | .tick rules now => watch.tick rules now

def run (words : Words) (inputs : List Input) : AlertWatch := inputs.foldl (step words) fresh

/-! ## What the ticks are for -/

/-- Some enabled rule of the id has a trigger that matches the alert of the id, which
has been active for the trigger's minutes. -/
def Due (watch : AlertWatch) (rules : List Rule) (now : DateTime) (ruleId : Uuid) (alertId : String) :
    Prop :=
  ∃ alert, watch.alerts.active[alertId]? = some alert ∧
    ∃ rule ∈ rules, rule.enabled = true ∧ rule.id = ruleId ∧
      ∃ filter minutes, Trigger.alertActiveFor filter minutes ∈ rule.allTriggers ∧
        filter.selects alert.toAlert = true ∧ minutes * minute ≤ now - alert.raisedAt

/-- At some tick of a run the rule was due for a raise of an alert. -/
def Entitled (words : Words) (inputs : List Input) (ruleId : Uuid) (alertId : String) (raise : Nat) :
    Prop :=
  ∃ earlier rules now later, inputs = earlier ++ .tick rules now :: later ∧
    (run words earlier).Due rules now ruleId alertId ∧
    (run words earlier).alerts.raises alertId = raise

/-- How often a rule was fired for a raise of an alert. -/
def count (watch : AlertWatch) (ruleId : Uuid) (alertId : String) (raise : Nat) : Nat :=
  watch.fires.countP fun fire => fire.ruleId = ruleId ∧ fire.alert.id = alertId ∧ fire.raise = raise

/-- No alert is raised while the scheduler still remembers its id, that is, before a
tick has found it gone; and no tick takes an alert that is to be raised within the next
minute, by the clock, for one that has lasted. -/
def Heeds (watch : AlertWatch) : Input → Prop
  | .alerts .finish => ∀ pass, watch.alerts.pass = some pass → pass.settled = true →
      ∀ key ∈ watch.alertFired, key.2 ∈ pass.after → key.2 ∈ watch.alerts.active
  | .alerts _ => True
  | .tick rules now => ∀ rule ∈ rules, ∀ filter, Trigger.alertActiveFor filter 0 ∈ rule.allTriggers →
      ∀ (id : String) (alert : ActiveAlert), watch.alerts.active[id]? = some alert →
        alert.raisedAt ≤ now ∨ now + minute ≤ alert.raisedAt

end AlertWatch
end HomeCore.Scheduler

/-! A rule is fired once for each raise of an alert that lasts, as long as a tick comes
between an alert's end and its return. The induction over a run carries what the
scheduler's memory says of the alerts that are active: the pairs it holds are those
fired for the present raise. -/
namespace HomeCore.Alerts
variable {words : Words} {engine after : AlertEngine} {input : Input} {id : String}

theorem mem_list {alert : ActiveAlert} :
    alert ∈ engine.list ↔ ∃ id : String, engine.active[id]? = some alert := by
  rw [AlertEngine.list, List.mem_mergeSort, List.mem_map]
  constructor
  · rintro ⟨⟨id, found⟩, listed, rfl⟩
    exact ⟨id, Std.ExtTreeMap.mem_toList_iff_getElem?_eq_some.mp listed⟩
  · rintro ⟨id, found⟩
    exact ⟨(id, alert), Std.ExtTreeMap.mem_toList_iff_getElem?_eq_some.mpr found, rfl⟩

/-- The ids that one difference announces as new. -/
theorem newIds_announce (before : AlertMap) {after : AlertMap} (now : DateTime)
    (keyed : ∀ (id : String) (alert : ActiveAlert), after[id]? = some alert → alert.id = id) :
    (announce before after now).filterMap AlertEvent.newId =
      (after.toList.filter fun entry => !before.contains entry.1).map (·.1) := by
  have cleared : ((before.toList.filter fun entry => !after.contains entry.1).map fun entry =>
      AlertEvent.cleared now entry.1 entry.2.deviceId entry.2).filterMap AlertEvent.newId = [] := by
    rw [List.filterMap_map, List.filterMap_eq_nil_iff]
    intro entry _
    rfl
  have fresh (entries : List (String × ActiveAlert))
      (found : ∀ entry ∈ entries, after[entry.1]? = some entry.2) :
      ((entries.filter fun entry => before[entry.1]? ≠ some entry.2).map fun entry =>
        AlertEvent.raised now entry.2 (before.contains entry.1)).filterMap AlertEvent.newId =
          (entries.filter fun entry => !before.contains entry.1).map (·.1) := by
    induction entries with
    | nil => rfl
    | cons entry rest ih =>
      have later := ih fun other member => found other (List.mem_cons_of_mem _ member)
      have own : entry.2.id = entry.1 := keyed _ _ (found entry List.mem_cons_self)
      by_cases known : before.contains entry.1 = true
      · by_cases same : before[entry.1]? = some entry.2
        · simp only [List.filter_cons, same, known, ne_eq, not_true_eq_false, decide_false,
            Bool.false_eq_true, if_false, Bool.not_true]
          exact later
        · simp only [List.filter_cons, same, known, ne_eq, not_false_eq_true, decide_true, if_true,
            Bool.not_true, Bool.false_eq_true, if_false, List.map_cons, List.filterMap_cons,
            AlertEvent.newId]
          exact later
      · have absent : before[entry.1]? = none := by
          rwa [Std.ExtTreeMap.contains_iff_mem, Std.ExtTreeMap.mem_iff_isSome_getElem?,
            Option.not_isSome_iff_eq_none] at known
        simp only [Bool.not_eq_true] at known
        simp only [List.filter_cons, absent, known, ne_eq, reduceCtorEq, not_false_eq_true,
          decide_true, if_true, Bool.not_false, Bool.false_eq_true, if_false, List.map_cons,
          List.filterMap_cons, AlertEvent.newId, own]
        exact congrArg _ later
  rw [announce, List.filterMap_append, cleared, List.append_nil]
  exact fresh after.toList fun entry member => Std.ExtTreeMap.mem_toList_iff_getElem?_eq_some.mp member

theorem raises_finish {pass : Pass} (fits : pass.Fits engine.active) :
    (engine.finish pass).raises id =
      engine.raises id + if id ∈ pass.after ∧ id ∉ engine.active then 1 else 0 := by
  have began : id ∈ pass.before ↔ id ∈ engine.active := by
    rw [← mem_keys_iff, fits.began, mem_keys_iff]
  have distinct := nodup_filtered pass.after fun entry => !pass.before.contains entry.1
  rw [AlertEngine.raises, AlertEngine.finish, List.filterMap_append, List.count_append,
    newIds_announce _ _ fits.keyed, distinct.count, ← AlertEngine.raises]
  congr 2
  rw [eq_iff_iff, List.mem_map, ← began]
  simp only [List.mem_filter, Bool.not_eq_true', ← Bool.not_eq_true, Std.ExtTreeMap.contains_iff_mem]
  constructor
  · rintro ⟨entry, ⟨listed, isNew⟩, rfl⟩
    have found := Std.ExtTreeMap.mem_toList_iff_getElem?_eq_some.mp listed
    exact ⟨Std.ExtTreeMap.mem_iff_isSome_getElem?.mpr (found ▸ rfl), isNew⟩
  · rintro ⟨member, isNew⟩
    obtain ⟨alert, found⟩ :=
      Option.isSome_iff_exists.mp (Std.ExtTreeMap.mem_iff_isSome_getElem?.mp member)
    exact ⟨(id, alert), ⟨Std.ExtTreeMap.mem_toList_iff_getElem?_eq_some.mpr found, isNew⟩, rfl⟩

/-- An input leaves an id's raises as they were and brings none in, or it is the end of a
pass that raises it. -/
inductive Presence (engine after : AlertEngine) (input : Input) (id : String) : Prop
  | stays (same : after.raises id = engine.raises id) (known : id ∈ after.active → id ∈ engine.active)
  | raised (pass : Pass) (running : engine.pass = some pass) (settled : pass.settled = true)
      (finishes : input = .finish) (new : id ∈ pass.after) (absent : id ∉ engine.active)
      (counted : after.raises id = engine.raises id + 1)

theorem presence_step (words : Words) (announced : engine.Announced) (input : Input) (id : String) :
    Presence engine (engine.step words input) input id := by
  have one := stepped words engine input
  generalize engine.step words input = after at one ⊢
  cases one with
  | idle | look | settle => exact .stays rfl fun member => member
  | finish pass running settled =>
    have counted := @raises_finish engine id pass (announced.fits pass running)
    by_cases new : id ∈ pass.after ∧ id ∉ engine.active
    · rw [if_pos new] at counted
      exact .raised pass running settled rfl new.1 new.2 counted
    · rw [if_neg new, Nat.add_zero] at counted
      exact .stays counted fun member => not_not.mp fun absent => new ⟨member, absent⟩
  | acknowledge other who now alert known unseen =>
    refine .stays rfl fun member => ?_
    rwa [← mem_keys_iff, keys_acknowledged known, mem_keys_iff] at member

/-- The active set is kept under the alerts' own ids. -/
def AlertEngine.Keyed (engine : AlertEngine) : Prop :=
  ∀ (id : String) (alert : ActiveAlert), engine.active[id]? = some alert → alert.id = id

theorem keyed_step (words : Words) (announced : engine.Announced) (keyed : engine.Keyed)
    (input : Input) : (engine.step words input).Keyed := by
  have one := stepped words engine input
  generalize engine.step words input = after at one ⊢
  cases one with
  | idle | look | settle => exact keyed
  | finish pass running settled => exact (announced.fits pass running).keyed
  | acknowledge other who now alert known unseen =>
    intro id found there
    rw [Std.ExtTreeMap.getElem?_insert] at there
    split at there
    · rename_i same
      obtain rfl := Std.LawfulEqCmp.eq_of_compare same
      cases there
      exact keyed other alert known
    · exact keyed id found there

end HomeCore.Alerts

namespace HomeCore.Scheduler
open Alerts Runs

/-! ## One tick -/

/-- The whole minutes of a duration that is not negative. -/
theorem numMinutes_eq {duration : Int} (forward : 0 ≤ duration) :
    (duration.tdiv second).tdiv 60 = duration / second / 60 := by
  rw [Int.tdiv_eq_ediv_of_nonneg forward, Int.tdiv_eq_ediv_of_nonneg]
  exact Int.ediv_nonneg forward (by decide)

theorem lasted_iff {now : DateTime} {alert : Alert} {minutes : Nat}
    (heeds : minutes = 0 → alert.raisedAt ≤ now ∨ now + minute ≤ alert.raisedAt) :
    (minutes : Int) ≤ lasted now alert ↔ minutes * minute ≤ now - alert.raisedAt := by
  rw [lasted]
  rcases Int.le_total 0 (now - alert.raisedAt) with past | ahead
  · rw [numMinutes_eq past]
    simp only [minute, second]
    omega
  · have turned : now - alert.raisedAt = -(alert.raisedAt - now) := (Int.neg_sub _ _).symm
    rw [turned, Int.neg_tdiv, Int.neg_tdiv, numMinutes_eq (by omega)]
    by_cases isZero : minutes = 0
    · -- a time ahead by less than a minute would count as no minutes
      rcases heeds isZero with reached | later
      · have same := Int.le_antisymm ahead (Int.sub_nonneg_of_le reached)
        simp only [minute, second]
        omega
      · have apart := Int.le_sub_left_of_add_le later
        simp only [minute, second] at apart ⊢
        omega
    · simp only [minute, second]
      omega

theorem mem_longActive {active : List ActiveAlert} {now : DateTime} {trigger : Trigger}
    {alert : ActiveAlert} :
    alert ∈ longActive active now trigger ↔ alert ∈ active ∧ ∃ filter minutes,
      trigger = .alertActiveFor filter minutes ∧ filter.selects alert.toAlert = true ∧
        (minutes : Int) ≤ lasted now alert.toAlert := by
  cases trigger with
  | alertActiveFor filter minutes => simp [longActive]
  | _ => simp [longActive]

namespace AlertWatch
variable {words : Words} {watch : AlertWatch} {rules : List Rule} {now : DateTime} {ruleId : Uuid}
  {alertId : String} {raise : Nat}

/-- The pairs that a tick comes to are those that are due. -/
theorem mem_alertPairs (keyed : watch.alerts.Keyed) (heeds : watch.Heeds (.tick rules now)) :
    (ruleId, alertId) ∈ (alertPairs watch.alerts.list now rules).map firedKey ↔
      watch.Due rules now ruleId alertId := by
  simp only [alertPairs, List.mem_map, List.mem_flatMap, List.mem_filter, mem_longActive, mem_list]
  constructor
  · rintro ⟨pair, ⟨rule, ⟨isRule, enabled⟩, trigger, isTrigger, alert, ⟨⟨id, active⟩, filter, minutes,
      rfl, selected, long⟩, rfl⟩, same⟩
    obtain ⟨rfl, rfl⟩ := Prod.mk.inj same
    rw [keyed id alert active]
    refine ⟨alert, active, rule, isRule, enabled, rfl, filter, minutes, isTrigger, selected, ?_⟩
    refine (lasted_iff ?_).mp long
    rintro rfl
    exact heeds rule isRule filter isTrigger id alert active
  · rintro ⟨alert, active, rule, isRule, enabled, rfl, filter, minutes, isTrigger, selected, long⟩
    refine ⟨(rule.id, alert), ⟨rule, ⟨isRule, enabled⟩, _, isTrigger, alert, ⟨⟨alertId, active⟩, filter,
      minutes, rfl, selected, ?_⟩, rfl⟩, by rw [firedKey, keyed alertId alert active]⟩
    refine (lasted_iff ?_).mpr long
    rintro rfl
    exact heeds rule isRule filter isTrigger alertId alert active

theorem any_list (keyed : watch.alerts.Keyed) :
    (watch.alerts.list.any fun alert => alert.id == alertId) = true ↔
      alertId ∈ watch.alerts.active := by
  simp only [List.any_eq_true, mem_list, beq_iff_eq, Std.ExtTreeMap.mem_iff_isSome_getElem?,
    Option.isSome_iff_exists]
  constructor
  · rintro ⟨alert, ⟨id, active⟩, rfl⟩
    exact ⟨alert, keyed id alert active ▸ active⟩
  · rintro ⟨alert, active⟩
    exact ⟨alert, ⟨alertId, active⟩, keyed alertId alert active⟩

theorem Due.active (due : watch.Due rules now ruleId alertId) : alertId ∈ watch.alerts.active := by
  obtain ⟨alert, active, _⟩ := due
  rw [Std.ExtTreeMap.mem_iff_isSome_getElem?, active]
  rfl

/-- A tick forgets the alerts that are gone, and knows the pairs that are due. -/
theorem known_tick (keyed : watch.alerts.Keyed) (heeds : watch.Heeds (.tick rules now)) :
    (ruleId, alertId) ∈ (watch.tick rules now).alertFired ↔
      ((ruleId, alertId) ∈ watch.alertFired ∧ alertId ∈ watch.alerts.active) ∨
        watch.Due rules now ruleId alertId := by
  rw [tick, fireAlertsActiveFor, Once.mem_round, mem_alertPairs keyed heeds, List.mem_filter,
    any_list keyed]

/-- The firings that a list of pairs makes for one raise. -/
theorem countP_published (published : List (Uuid × ActiveAlert)) :
    ((published.map fun pair =>
        (⟨pair.1, pair.2, now, watch.alerts.raises pair.2.id⟩ : AlertFire)).countP fun fire =>
      fire.ruleId = ruleId ∧ fire.alert.id = alertId ∧ fire.raise = raise) =
    if raise = watch.alerts.raises alertId then
      published.countP (firedKey · = (ruleId, alertId)) else 0 := by
  rw [List.countP_map]
  split
  · rename_i present
    refine List.countP_congr fun pair _ => ?_
    simp only [Function.comp_apply, decide_eq_true_eq, firedKey, Prod.mk.injEq, present]
    constructor
    · rintro ⟨sameRule, sameAlert, _⟩
      exact ⟨sameRule, sameAlert⟩
    · rintro ⟨sameRule, sameAlert⟩
      exact ⟨sameRule, sameAlert, by rw [sameAlert]⟩
  · rename_i other
    refine List.countP_eq_zero.mpr fun pair _ => ?_
    simp only [Function.comp_apply, decide_eq_true_eq]
    rintro ⟨_, rfl, present⟩
    exact other present.symm

/-- The rule is to be fired for the alert's raise by a tick. -/
def New (watch : AlertWatch) (rules : List Rule) (now : DateTime) (ruleId : Uuid) (alertId : String)
    (raise : Nat) : Prop :=
  watch.Due rules now ruleId alertId ∧ raise = watch.alerts.raises alertId ∧
    (ruleId, alertId) ∉ watch.alertFired

theorem count_tick (keyed : watch.alerts.Keyed) (heeds : watch.Heeds (.tick rules now)) :
    (watch.New rules now ruleId alertId raise →
      (watch.tick rules now).count ruleId alertId raise = watch.count ruleId alertId raise + 1) ∧
    (¬ watch.New rules now ruleId alertId raise →
      (watch.tick rules now).count ruleId alertId raise = watch.count ruleId alertId raise) := by
  let kept := watch.alertFired.filter fun key => watch.alerts.list.any (·.id == key.2)
  have counted : (watch.tick rules now).count ruleId alertId raise =
      watch.count ruleId alertId raise + if raise = watch.alerts.raises alertId then
        (Once.round firedKey kept (alertPairs watch.alerts.list now rules)).2.countP
          (firedKey · = (ruleId, alertId)) else 0 := by
    rw [count, tick, fireAlertsActiveFor, List.countP_append, countP_published, ← count]
  have isNew : (raise = watch.alerts.raises alertId ∧ (ruleId, alertId) ∉ kept ∧
      (ruleId, alertId) ∈ (alertPairs watch.alerts.list now rules).map firedKey) ↔
      watch.New rules now ruleId alertId raise := by
    constructor
    · rintro ⟨present, unknown, paired⟩
      have due := (mem_alertPairs keyed heeds).mp paired
      exact ⟨due, present, fun fired =>
        unknown (List.mem_filter.mpr ⟨fired, (any_list keyed).mpr due.active⟩)⟩
    · rintro ⟨due, present, fresh⟩
      exact ⟨present, fun there => fresh (List.mem_filter.mp there).1,
        (mem_alertPairs keyed heeds).mpr due⟩
  rw [counted, Once.count_round]
  constructor
  · intro new
    obtain ⟨present, fresh⟩ := isNew.mpr new
    rw [if_pos present, if_pos fresh]
  · intro old
    split
    · rename_i present
      rw [if_neg, Nat.add_zero]
      exact fun fresh => old (isNew.mp ⟨present, fresh⟩)
    · rfl

/-! ## Runs -/

theorem run_append (inputs : List Input) (input : Input) :
    run words (inputs ++ [input]) = (run words inputs).step words input := by
  rw [run, run, List.foldl_append, List.foldl_cons, List.foldl_nil]

theorem entitled_append {inputs : List Input} {input : Input} :
    Entitled words (inputs ++ [input]) ruleId alertId raise ↔
      Entitled words inputs ruleId alertId raise ∨ ∃ rules now, input = .tick rules now ∧
        (run words inputs).Due rules now ruleId alertId ∧
          (run words inputs).alerts.raises alertId = raise := by
  constructor
  · rintro ⟨earlier, rules, now, later, split, due, counted⟩
    rcases List.eq_nil_or_concat' later with rfl | ⟨front, last, rfl⟩
    · obtain ⟨rfl, last⟩ := List.append_inj' split rfl
      obtain rfl := List.singleton_inj.mp last
      exact .inr ⟨rules, now, rfl, due, counted⟩
    · rw [← List.cons_append, ← List.append_assoc] at split
      obtain ⟨rfl, _⟩ := List.append_inj' split rfl
      exact .inl ⟨earlier, rules, now, front, rfl, due, counted⟩
  · rintro (⟨earlier, rules, now, later, rfl, due, counted⟩ | ⟨rules, now, rfl, due, counted⟩)
    · exact ⟨earlier, rules, now, later ++ [input], by simp, due, counted⟩
    · exact ⟨inputs, rules, now, [], rfl, due, counted⟩

/-- After a run, what was fired and what the scheduler knows of it. -/
structure FiredOnce (words : Words) (inputs : List Input) (watch : AlertWatch) : Prop where
  announced : watch.alerts.Announced
  keyed : watch.alerts.Keyed
  single : ∀ ruleId alertId raise, watch.count ruleId alertId raise ≤ 1
  entitled : ∀ ruleId alertId raise,
    0 < watch.count ruleId alertId raise ↔ Entitled words inputs ruleId alertId raise
  past : ∀ ruleId alertId raise,
    0 < watch.count ruleId alertId raise → raise ≤ watch.alerts.raises alertId
  known : ∀ ruleId alertId, alertId ∈ watch.alerts.active →
    ((ruleId, alertId) ∈ watch.alertFired ↔
      0 < watch.count ruleId alertId (watch.alerts.raises alertId))

theorem once_fresh : FiredOnce words [] fresh where
  announced := announced_fresh
  keyed := by
    intro id alert found
    cases found
  single := fun _ _ _ => Nat.zero_le 1
  entitled := by
    intro ruleId alertId raise
    constructor
    · exact fun impossible => absurd impossible (lt_irrefl 0)
    · rintro ⟨earlier, rules, now, later, split, _⟩
      cases earlier <;> cases split
  past := fun _ _ _ impossible => absurd impossible (lt_irrefl 0)
  known := by
    intro ruleId alertId active
    exact absurd active Std.ExtTreeMap.not_mem_empty

theorem once_alerts {inputs : List Input} (once : FiredOnce words inputs watch)
    (input : Alerts.Input) (heeds : watch.Heeds (.alerts input)) :
    FiredOnce words (inputs ++ [.alerts input]) (watch.step words (.alerts input)) where
  announced := announced_step words _ input once.announced
  keyed := keyed_step words once.announced once.keyed input
  single := once.single
  entitled := by
    intro ruleId alertId raise
    rw [entitled_append, ← once.entitled ruleId alertId raise]
    constructor
    · exact .inl
    · rintro (fired | ⟨_, _, impossible, _⟩)
      · exact fired
      · cases impossible
  past := by
    intro ruleId alertId raise fired
    have before := once.past ruleId alertId raise fired
    cases presence_step words once.announced input alertId with
    | stays same _ => exact before.trans_eq same.symm
    | raised _ _ _ _ _ _ counted => exact before.trans (counted ▸ Nat.le_succ _)
  known := by
    intro ruleId alertId active
    cases presence_step words once.announced input alertId with
    | stays same wasActive =>
      have before := once.known ruleId alertId (wasActive active)
      change (ruleId, alertId) ∈ watch.alertFired ↔
        0 < watch.count ruleId alertId ((watch.alerts.step words input).raises alertId)
      rw [same]
      exact before
    | raised pass running settled finishes new absent counted =>
      -- the memory has nothing of it, and a new raise has not been fired for
      change (ruleId, alertId) ∈ watch.alertFired ↔
        0 < watch.count ruleId alertId ((watch.alerts.step words input).raises alertId)
      subst finishes
      constructor
      · intro remembered
        exact absurd (heeds pass running settled _ remembered new) absent
      · intro fired
        have before := once.past ruleId alertId _ fired
        omega

theorem once_tick {inputs : List Input} (once : FiredOnce words inputs watch)
    (isRun : watch = run words inputs) (heeds : watch.Heeds (.tick rules now)) :
    FiredOnce words (inputs ++ [.tick rules now]) (watch.step words (.tick rules now)) where
  announced := once.announced
  keyed := once.keyed
  single := by
    intro ruleId alertId raise
    have counted := @count_tick watch rules now ruleId alertId raise once.keyed heeds
    by_cases new : watch.New rules now ruleId alertId raise
    · obtain ⟨due, rfl, fresh⟩ := new
      have unfired := (not_congr (once.known ruleId alertId due.active)).mp fresh
      have one := counted.1 ⟨due, rfl, fresh⟩
      change (watch.tick rules now).count _ _ _ ≤ 1
      omega
    · have same := counted.2 new
      exact same.trans_le (once.single ruleId alertId raise)
  entitled := by
    intro ruleId alertId raise
    have counted := @count_tick watch rules now ruleId alertId raise once.keyed heeds
    rw [entitled_append, ← once.entitled ruleId alertId raise, ← isRun]
    change 0 < (watch.tick rules now).count _ _ _ ↔ _
    by_cases new : watch.New rules now ruleId alertId raise
    · rw [counted.1 new]
      exact iff_of_true (Nat.succ_pos _) (.inr ⟨rules, now, rfl, new.1, new.2.1.symm⟩)
    · rw [counted.2 new]
      constructor
      · exact .inl
      · rintro (fired | ⟨_, _, ⟨⟩, due, rfl⟩)
        · exact fired
        · -- due and not new, so known, which is fired for the present raise
          by_contra unfired
          exact new ⟨due, rfl, fun remembered =>
            unfired ((once.known ruleId alertId due.active).mp remembered)⟩
  past := by
    intro ruleId alertId raise fired
    have counted := @count_tick watch rules now ruleId alertId raise once.keyed heeds
    by_cases new : watch.New rules now ruleId alertId raise
    · exact new.2.1.le
    · exact once.past ruleId alertId raise (by rwa [← counted.2 new])
  known := by
    intro ruleId alertId active
    have counted := @count_tick watch rules now ruleId alertId (watch.alerts.raises alertId)
      once.keyed heeds
    have before := once.known ruleId alertId active
    change (ruleId, alertId) ∈ (watch.tick rules now).alertFired ↔
      0 < (watch.tick rules now).count ruleId alertId (watch.alerts.raises alertId)
    rw [known_tick once.keyed heeds]
    by_cases new : watch.New rules now ruleId alertId (watch.alerts.raises alertId)
    · rw [counted.1 new]
      exact iff_of_true (.inr new.1) (Nat.succ_pos _)
    · rw [counted.2 new, ← before]
      constructor
      · rintro (⟨remembered, _⟩ | due)
        · exact remembered
        · by_contra fresh
          exact new ⟨due, rfl, fresh⟩
      · exact fun remembered => .inl ⟨remembered, active⟩

theorem once_run {inputs : List Input} (steps : EachStep (step words) Heeds fresh inputs) :
    FiredOnce words inputs (run words inputs) := by
  induction inputs using List.reverseRecOn with
  | nil => exact once_fresh
  | append_singleton inputs input ih =>
    have once := ih steps.front
    have heeds : (run words inputs).Heeds input := steps.last
    rw [run_append]
    cases input with
    | alerts input => exact once_alerts once input heeds
    | tick rules now => exact once_tick once rfl heeds

/-- Over every run of raises, clears and ticks in which no alert comes back before a
tick has found it gone, a rule is fired just once for each raise that some tick finds it
due for, and for no other. -/
theorem fired_once_per_raise (words : Words) (inputs : List Input)
    (steps : EachStep (step words) Heeds fresh inputs) (ruleId : Uuid) (alertId : String) (raise : Nat) :
    (run words inputs).count ruleId alertId raise ≤ 1 ∧
      (0 < (run words inputs).count ruleId alertId raise ↔
        Entitled words inputs ruleId alertId raise) := by
  have once := once_run steps
  exact ⟨once.single ruleId alertId raise, once.entitled ruleId alertId raise⟩

/-- A rule for any alert that has lasted for ten minutes. -/
def longAlert : Rule := .minimal ⟨3⟩ (.alertActiveFor {} 10) []

/-- One pass of the alert engine over the leak sensor, at so many seconds. -/
def sensorPass (wet : Bool) (seconds : Int) : List Input :=
  (wholePass (leakHouse "Cellar" wet (seconds * second))).map .alerts

/-- The leak is found by a tick ten minutes after it was raised, ends, and is back
before the next tick. -/
def leakReturns : List Input :=
  sensorPass true 0 ++ [.tick [longAlert] (600 * second)] ++ sensorPass false 610 ++
    sensorPass true 620 ++ [.tick [longAlert] (660 * second), .tick [longAlert] (1260 * second)]

/-- The rule is not fired for the second leak, which has lasted as long as the first. -/
theorem second_leak_unfired :
    Entitled english leakReturns ⟨3⟩ "wet:leak" 2 ∧
      (run english leakReturns).count ⟨3⟩ "wet:leak" 2 = 0 := by
  refine ⟨⟨leakReturns.dropLast, [longAlert], 1260 * second, [], rfl, ?_, by decide +kernel⟩,
    by decide +kernel⟩
  have found : ((run english leakReturns.dropLast).alerts.active["wet:leak"]?.map fun alert =>
      AlertFilter.selects {} alert.toAlert &&
        decide ((10 : Nat) * minute ≤ 1260 * second - alert.raisedAt)) = some true := by
    decide +kernel
  obtain ⟨alert, active, long⟩ := Option.map_eq_some_iff.mp found
  rw [Bool.and_eq_true, decide_eq_true_eq] at long
  exact ⟨alert, active, longAlert, List.mem_singleton_self _, rfl, rfl, {}, 10,
    List.mem_singleton_self _, long⟩

/-- A single leak that lasts is fired for once. -/
theorem first_leak_fired :
    let inputs := sensorPass true 0 ++ [.tick [longAlert] (600 * second)]
    (run english inputs).count ⟨3⟩ "wet:leak" 1 = 1 ∧ Entitled english inputs ⟨3⟩ "wet:leak" 1 := by
  intro inputs
  have once : (run english inputs).count ⟨3⟩ "wet:leak" 1 = 1 := by decide +kernel
  refine ⟨once, (fired_once_per_raise english inputs ?_ ⟨3⟩ "wet:leak" 1).2.mp (by omega)⟩
  refine ⟨trivial, trivial, ?_, ?_, trivial⟩
  · intro pass _ _ key remembered
    cases remembered
  · intro rule isRule filter isTrigger
    obtain rfl := List.mem_singleton.mp isRule
    cases List.mem_singleton.mp isTrigger

end AlertWatch
end HomeCore.Scheduler
