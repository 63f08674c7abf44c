import HomeCore.Alerts.Engine
import HomeCore.Alerts.EvaluatorProofs

/-! What the engine publishes follows the active set, and what holds of the
acknowledgements while passes and people share it. -/
namespace HomeCore.Alerts
open Runs
variable {words : Words} {engine after : AlertEngine} {input : Input} {pass : Pass}

/-- All that one input can do. -/
inductive Stepped (words : Words) (engine : AlertEngine) : Input → AlertEngine → Prop
  | idle (input : Input) : Stepped words engine input engine
  | look (house : House) (free : engine.pass = none) :
      Stepped words engine (.look house) (engine.look words house)
  | settle (pass : Pass) (running : engine.pass = some pass) (unsettled : pass.settled = false) :
      Stepped words engine .settle (engine.settle pass)
  | finish (pass : Pass) (running : engine.pass = some pass) (settled : pass.settled = true) :
      Stepped words engine .finish (engine.finish pass)
  | acknowledge (id who : String) (now : DateTime) (alert : ActiveAlert)
      (known : engine.active[id]? = some alert) (unseen : alert.acknowledged = none) :
      Stepped words engine (.acknowledge id who now)
        { engine with
          active := engine.active.insert id { alert with acknowledged := some ⟨who, now⟩ }
          acks := engine.acks.insert id ⟨who, now⟩ }

theorem stepped (words : Words) (engine : AlertEngine) (input : Input) :
    Stepped words engine input (engine.step words input) := by
  cases input with
  | look house =>
    simp only [AlertEngine.step]
    split
    · rename_i free
      exact .look house (Option.isNone_iff_eq_none.mp free)
    · exact .idle _
  | settle =>
    simp only [AlertEngine.step]
    split
    · rename_i pass running
      split
      · exact .idle _
      · rename_i unsettled
        exact .settle pass running (Bool.eq_false_iff.mpr unsettled)
    · exact .idle _
  | finish =>
    simp only [AlertEngine.step]
    split
    · rename_i pass running
      split
      · rename_i settled
        exact .finish pass running settled
      · exact .idle _
    · exact .idle _
  | acknowledge id who now =>
    cases known : engine.active[id]? with
    | none =>
      simp only [AlertEngine.step, AlertEngine.acknowledge, known, Option.map_none, Option.getD_none]
      exact .idle _
    | some alert =>
      simp only [AlertEngine.step, AlertEngine.acknowledge, known, Option.map_some, Option.getD_some]
      split
      · rename_i unseen
        exact .acknowledge id who now alert known (Option.isNone_iff_eq_none.mp unseen)
      · exact .idle _

/-! ## The difference of two sets -/

theorem mem_keys_iff {β : Type} {m : Std.ExtTreeMap String β} {id : String} :
    id ∈ m.keys.toFinset ↔ id ∈ m := by
  rw [List.mem_toFinset, Std.ExtTreeMap.mem_keys]

theorem nodup_filtered (m : AlertMap) (p : String × ActiveAlert → Bool) :
    ((m.toList.filter p).map (·.1)).Nodup := by
  have distinct := m.nodup_keys
  rw [← Std.ExtTreeMap.map_fst_toList_eq_keys] at distinct
  exact distinct.sublist (List.filter_sublist.map _)

/-- The published difference replays from the ids of one set to those of the other. -/
theorem announce_replays (before : AlertMap) {after : AlertMap} (now : DateTime)
    (keyed : ∀ (id : String) (alert : ActiveAlert), after[id]? = some alert → alert.id = id) :
    Journal.replay before.keys.toFinset ((announce before after now).map AlertEvent.change) =
      some after.keys.toFinset := by
  have changes : (announce before after now).map AlertEvent.change =
      (((after.toList.filter fun entry => before[entry.1]? ≠ some entry.2).map (·.1)).map fun id =>
        if id ∈ before.keys.toFinset then Journal.Change.changed id else .added id) ++
      ((before.toList.filter fun entry => !after.contains entry.1).map (·.1)).map .removed := by
    simp only [announce, List.map_append, List.map_map]
    congr 1
    refine List.map_congr_left fun entry member => ?_
    have found := Std.ExtTreeMap.mem_toList_iff_getElem?_eq_some.mp (List.mem_filter.mp member).1
    simp only [Function.comp_apply, AlertEvent.change, keyed _ _ found, mem_keys_iff,
      Std.ExtTreeMap.contains_iff_mem]
  rw [changes]
  refine Journal.replay_difference (nodup_filtered _ _) (nodup_filtered _ _) ?_ ?_ ?_
  · intro id member
    obtain ⟨entry, listed, rfl⟩ := List.mem_map.mp member
    have found := Std.ExtTreeMap.mem_toList_iff_getElem?_eq_some.mp (List.mem_filter.mp listed).1
    rw [mem_keys_iff, Std.ExtTreeMap.mem_iff_isSome_getElem?, found]
    rfl
  · intro id member absent
    rw [mem_keys_iff, Std.ExtTreeMap.mem_iff_isSome_getElem?] at member absent
    obtain ⟨alert, found⟩ := Option.isSome_iff_exists.mp member
    refine List.mem_map.mpr ⟨(id, alert), List.mem_filter.mpr ⟨?_, ?_⟩, rfl⟩
    · exact Std.ExtTreeMap.mem_toList_iff_getElem?_eq_some.mpr found
    · simp only [Option.not_isSome_iff_eq_none] at absent
      simp only [absent, ne_eq, reduceCtorEq, not_false_eq_true, decide_true]
  · intro id
    simp only [mem_keys_iff, List.mem_map, List.mem_filter, Bool.not_eq_true',
      ← Bool.not_eq_true, Std.ExtTreeMap.contains_iff_mem]
    constructor
    · rintro ⟨entry, ⟨member, gone⟩, rfl⟩
      have found := Std.ExtTreeMap.mem_toList_iff_getElem?_eq_some.mp member
      exact ⟨Std.ExtTreeMap.mem_iff_isSome_getElem?.mpr (found ▸ rfl), gone⟩
    · rintro ⟨member, gone⟩
      obtain ⟨alert, found⟩ :=
        Option.isSome_iff_exists.mp (Std.ExtTreeMap.mem_iff_isSome_getElem?.mp member)
      exact ⟨(id, alert), ⟨Std.ExtTreeMap.mem_toList_iff_getElem?_eq_some.mpr found, gone⟩, rfl⟩

/-- An alert announced as new stood in the later set and not in the earlier. -/
theorem new_of_announce {before after : AlertMap} {now timestamp : DateTime} {alert : ActiveAlert}
    (member : AlertEvent.raised timestamp alert false ∈ announce before after now) :
    ∃ id, after[id]? = some alert ∧ id ∉ before := by
  rcases List.mem_append.mp member with raised | cleared
  · obtain ⟨entry, listed, same⟩ := List.mem_map.mp raised
    have found := Std.ExtTreeMap.mem_toList_iff_getElem?_eq_some.mp (List.mem_filter.mp listed).1
    cases entry
    simp only [AlertEvent.raised.injEq] at same
    obtain ⟨-, rfl, absent⟩ := same
    exact ⟨_, found, fun known => by simp [Std.ExtTreeMap.contains_iff_mem.mpr known] at absent⟩
  · obtain ⟨entry, _, impossible⟩ := List.mem_map.mp cleared
    cases impossible

/-! ## Announcements -/

/-- A pass under way began from the ids that are still active, and works out a
set that agrees with them on when an alert was raised. -/
structure Pass.Fits (pass : Pass) (active : AlertMap) : Prop where
  began : pass.before.keys.toFinset = active.keys.toFinset
  keyed : ∀ (id : String) (alert : ActiveAlert), pass.after[id]? = some alert → alert.id = id
  raisedAt : ∀ (id : String) (alert was : ActiveAlert),
    pass.after[id]? = some alert → active[id]? = some was → alert.raisedAt = was.raisedAt

/-- The events published so far replay to the ids of the active set. -/
structure AlertEngine.Announced (engine : AlertEngine) : Prop where
  told : Journal.replay ∅ (engine.published.map AlertEvent.change) = some engine.activeIds
  fits : ∀ pass, engine.pass = some pass → pass.Fits engine.active

/-- Acknowledging an active alert changes neither the ids nor when one was raised. -/
theorem keys_acknowledged {active : AlertMap} {id : String} {alert : ActiveAlert}
    (known : active[id]? = some alert) (seen : ActiveAlert) :
    (active.insert id seen).keys.toFinset = active.keys.toFinset := by
  have member : id ∈ active := by
    rw [Std.ExtTreeMap.mem_iff_isSome_getElem?, known]
    rfl
  ext other
  simp only [mem_keys_iff, Std.ExtTreeMap.mem_insert, Std.compare_eq_iff_eq]
  constructor
  · rintro (rfl | there)
    · exact member
    · exact there
  · exact .inr

theorem raisedAt_acknowledged {active : AlertMap} {id other : String} {alert found : ActiveAlert}
    {ack : Acknowledged} (known : active[id]? = some alert)
    (later : (active.insert id { alert with acknowledged := some ack })[other]? = some found) :
    ∃ was, active[other]? = some was ∧ found.raisedAt = was.raisedAt := by
  rw [Std.ExtTreeMap.getElem?_insert] at later
  split at later
  · rename_i same
    obtain rfl := Std.LawfulEqCmp.eq_of_compare same
    cases later
    exact ⟨alert, known, rfl⟩
  · exact ⟨found, later, rfl⟩

theorem fits_look (active : AlertMap) (memory : Memory) (house : House) :
    Pass.Fits ⟨active, (workOut words house active memory).2, house.now, false⟩ active where
  began := rfl
  keyed := fun _ _ found => (origin_of_workOut found).1
  raisedAt := by
    intro id alert was found known
    obtain ⟨rfl, origin⟩ := origin_of_workOut found
    exact origin.raisedAt known

theorem fits_settle {active : AlertMap} {acks : Std.ExtTreeMap String Acknowledged}
    (fits : pass.Fits active) :
    Pass.Fits { pass with
      after := pass.after.map fun id alert => { alert with acknowledged := acks[id]? }
      settled := true } active where
  began := fits.began
  keyed := by
    intro id alert found
    rw [Std.ExtTreeMap.getElem?_map] at found
    obtain ⟨plain, worked, rfl⟩ := Option.map_eq_some_iff.mp found
    exact fits.keyed id plain worked
  raisedAt := by
    intro id alert was found known
    rw [Std.ExtTreeMap.getElem?_map] at found
    obtain ⟨plain, worked, rfl⟩ := Option.map_eq_some_iff.mp found
    exact fits.raisedAt id plain was worked known

theorem announced_step (words : Words) (engine : AlertEngine) (input : Input)
    (announced : engine.Announced) : (engine.step words input).Announced := by
  have one := stepped words engine input
  generalize engine.step words input = after at one ⊢
  cases one with
  | idle => exact announced
  | look house free =>
    refine ⟨announced.told, ?_⟩
    rintro pass ⟨⟩
    exact fits_look engine.active engine.memory house
  | settle pass running unsettled =>
    refine ⟨announced.told, ?_⟩
    rintro settled ⟨⟩
    exact fits_settle (announced.fits pass running)
  | finish pass running settled =>
    have fits := announced.fits pass running
    refine ⟨?_, ?_⟩
    -- The difference starts from the set that the pass read, whose ids are still the active ones.
    · simp only [AlertEngine.finish, List.map_append, Journal.replay_append, announced.told,
        Option.bind_some, AlertEngine.activeIds, ← fits.began]
      exact announce_replays pass.before pass.now fits.keyed
    · rintro next ⟨⟩
  | acknowledge id who now alert known unseen =>
    refine ⟨?_, ?_⟩
    · simp only [AlertEngine.activeIds, keys_acknowledged known]
      exact announced.told
    · intro pass running
      have fits := announced.fits pass running
      refine ⟨fits.began.trans (keys_acknowledged known _).symm, fits.keyed, ?_⟩
      intro other found was worked there
      obtain ⟨plain, previous, same⟩ := raisedAt_acknowledged known there
      rw [same]
      exact fits.raisedAt other found plain worked previous

/-- An alert active before and after an input was raised when it was. -/
theorem raisedAt_step (engine : AlertEngine) (input : Input) (announced : engine.Announced)
    {id : String} {was found : ActiveAlert} (previous : engine.active[id]? = some was)
    (later : (engine.step words input).active[id]? = some found) : found.raisedAt = was.raisedAt := by
  have one := stepped words engine input
  generalize engine.step words input = after at one later
  cases one with
  | idle | look _ _ | settle _ _ _ =>
    change engine.active[id]? = some found at later
    rw [previous] at later
    cases later
    rfl
  | finish pass running settled =>
    exact (announced.fits pass running).raisedAt id found was later previous
  | acknowledge other who now alert known unseen =>
    obtain ⟨plain, there, same⟩ := raisedAt_acknowledged known later
    rw [previous] at there
    cases there
    exact same

theorem announced_fresh : AlertEngine.fresh.Announced where
  told := rfl
  fits := by
    rintro pass ⟨⟩

/-- Over any run, whatever each pass finds in the house: the published events
replay to the ids of the active set, where an alert is raised as new only while
it is not active, raised as an update or cleared only while it is; and an alert
keeps when it was raised for as long as it stays active. -/
theorem events_replay_active (words : Words) (inputs : List Input) :
    Always (AlertEngine.step words)
      (fun engine =>
        Journal.replay ∅ (engine.published.map AlertEvent.change) = some engine.activeIds)
      AlertEngine.fresh inputs ∧
    EachStep (AlertEngine.step words)
      (fun engine input => ∀ (id : String) (was found : ActiveAlert), engine.active[id]? = some was →
        (engine.step words input).active[id]? = some found → found.raisedAt = was.raisedAt)
      AlertEngine.fresh inputs := by
  have always := kept AlertEngine.Announced (announced_step words) announced_fresh inputs
  refine ⟨always.mono fun _ announced => announced.told, ?_⟩
  refine always.eachStep fun engine input announced => ?_
  intro id was found previous later
  exact raisedAt_step engine input announced previous later

/-- A house with one leak sensor. -/
def leakHouse (name : String) (wet : Bool) (now : DateTime) : House where
  devices := (⟨∅, [], DeviceStore.none_keyed⟩ : DeviceStore).upsert
    { DeviceState.new "leak" name "plugin.yolink" 0 with
      available := true
      attributes := (∅ : AttrMap).insert "wet" (.bool wet) }
  rules := []
  oneToAnId := List.nodup_nil
  topics := []
  ignores := []
  plugins := ⟨∅, ∅⟩
  battery := {}
  now := now
  localTime := 0

def wholePass (house : House) : List Input := [.look house, .settle, .finish]

/-- The id that an `AlertRaised` names. -/
def AlertEvent.raises : AlertEvent → Option String
  | .raised _ alert _ => some alert.id
  | .cleared .. => none

/-- The sensor is renamed while it is wet: its alert, still active, is raised
again with its new words. -/
theorem renamed_leak_raised_while_active :
    let first := (wholePass (leakHouse "Cellar" true 0)).foldl (AlertEngine.step english) .fresh
    let second := (wholePass (leakHouse "Basement" true 30)).foldl (AlertEngine.step english) first
    first.active.contains "wet:leak" = true ∧
      (second.published.drop first.published.length).filterMap AlertEvent.raises =
        ["wet:leak"] := by
  decide +kernel

/-! ## Acknowledgements -/

/-- An acknowledgement lands on an alert that the pass under way, once it has
settled the acknowledgements, does not clear. -/
def AlertEngine.lands (engine : AlertEngine) : Input → Bool
  | .acknowledge id _ _ => engine.pass.all fun pass => !pass.settled || pass.after.contains id
  | _ => true

/-- An alert raised as new is not acknowledged. -/
def AlertEvent.unseen : AlertEvent → Bool
  | .raised _ alert false => alert.acknowledged.isNone
  | _ => true

/-- A pass that has settled the acknowledgements keeps the alert of each, and
its new alerts carry none. -/
structure Pass.Clean (pass : Pass) (acks : Std.ExtTreeMap String Acknowledged) : Prop where
  acknowledged : ∀ id, id ∈ acks → id ∈ pass.after
  unseen : ∀ (id : String) (alert : ActiveAlert),
    pass.after[id]? = some alert → id ∉ pass.before → alert.acknowledged = none

/-- Acknowledgements are of active alerts only. -/
structure AlertEngine.Backed (engine : AlertEngine) : Prop where
  active : ∀ id, id ∈ engine.acks → id ∈ engine.active
  began : ∀ pass, engine.pass = some pass → ∀ id, id ∈ pass.before ↔ id ∈ engine.active
  clean : ∀ pass, engine.pass = some pass → pass.settled = true → pass.Clean engine.acks
  published : ∀ event ∈ engine.published, event.unseen = true

theorem mem_settled {acks : Std.ExtTreeMap String Acknowledged} {alerts : AlertMap} {id : String} :
    id ∈ (acks.filter fun id _ => alerts.contains id) ↔ id ∈ acks ∧ id ∈ alerts := by
  simp only [Std.ExtTreeMap.mem_iff_isSome_getElem?, Std.ExtTreeMap.getElem?_filter',
    Std.ExtTreeMap.contains_eq_isSome_getElem?]
  cases acks[id]? with
  | none => simp
  | some ack => cases alerts[id]? <;> simp

theorem clean_settle (backed : engine.Backed) (running : engine.pass = some pass) :
    Pass.Clean { pass with
        after := pass.after.map fun id alert =>
          { alert with acknowledged := (engine.acks.filter fun id _ => pass.after.contains id)[id]? }
        settled := true }
      (engine.acks.filter fun id _ => pass.after.contains id) where
  acknowledged := by
    intro id member
    exact Std.ExtTreeMap.mem_map.mpr (mem_settled.mp member).2
  unseen := by
    intro id alert found new
    rw [Std.ExtTreeMap.getElem?_map] at found
    obtain ⟨plain, worked, rfl⟩ := Option.map_eq_some_iff.mp found
    -- An alert that was not active cannot have been acknowledged.
    have none : id ∉ engine.acks.filter fun id _ => pass.after.contains id := by
      intro member
      exact new ((backed.began pass running id).mpr (backed.active id (mem_settled.mp member).1))
    exact Std.ExtTreeMap.getElem?_eq_none none

theorem unseen_announce (clean : pass.Clean engine.acks) :
    ∀ event ∈ announce pass.before pass.after pass.now, event.unseen = true := by
  intro event member
  cases event with
  | raised timestamp alert update =>
    cases update with
    | true => rfl
    | false =>
      obtain ⟨id, found, new⟩ := new_of_announce member
      simp only [AlertEvent.unseen, clean.unseen id alert found new, Option.isNone_none]
  | cleared => rfl

theorem mem_acknowledged {active : AlertMap} {id other : String} {alert : ActiveAlert}
    (known : active[id]? = some alert) (seen : ActiveAlert) :
    other ∈ active.insert id seen ↔ other ∈ active := by
  rw [← mem_keys_iff, keys_acknowledged known, mem_keys_iff]

theorem eq_or_mem_of_mem_insert {acks : Std.ExtTreeMap String Acknowledged} {id other : String}
    {ack : Acknowledged} (member : other ∈ acks.insert id ack) : id = other ∨ other ∈ acks := by
  rcases Std.ExtTreeMap.mem_insert.mp member with same | earlier
  · exact .inl (Std.LawfulEqCmp.eq_of_compare same)
  · exact .inr earlier

theorem backed_step (words : Words) (engine : AlertEngine) (input : Input) (backed : engine.Backed)
    (lands : engine.lands input = true) : (engine.step words input).Backed := by
  have one := stepped words engine input
  generalize engine.step words input = after at one ⊢
  cases one with
  | idle => exact backed
  | look house free =>
    refine ⟨backed.active, ?_, ?_, backed.published⟩
    · rintro pass ⟨⟩ id
      rfl
    · rintro pass ⟨⟩ settled
      cases settled
  | settle pass running unsettled =>
    refine ⟨?_, ?_, ?_, backed.published⟩
    · intro id member
      exact backed.active id (mem_settled.mp member).1
    · rintro settled ⟨⟩
      exact backed.began pass running
    · rintro settled ⟨⟩ _
      exact clean_settle backed running
  | finish pass running settled =>
    have clean := backed.clean pass running settled
    refine ⟨clean.acknowledged, ?_, ?_, ?_⟩
    · rintro next ⟨⟩
    · rintro next ⟨⟩
    · intro event member
      rcases List.mem_append.mp member with earlier | now
      · exact backed.published event earlier
      · exact unseen_announce clean event now
  | acknowledge id who now alert known unseen =>
    refine ⟨?_, ?_, ?_, backed.published⟩
    · intro other member
      rw [mem_acknowledged known]
      rcases eq_or_mem_of_mem_insert member with rfl | earlier
      · exact Std.ExtTreeMap.mem_iff_isSome_getElem?.mpr (known ▸ rfl)
      · exact backed.active other earlier
    · intro pass running other
      rw [mem_acknowledged known]
      exact backed.began pass running other
    · intro pass running settled
      have clean := backed.clean pass running settled
      refine ⟨?_, clean.unseen⟩
      intro other member
      rcases eq_or_mem_of_mem_insert member with rfl | earlier
      · change engine.pass = some pass at running
        simpa [AlertEngine.lands, running, settled] using lands
      · exact clean.acknowledged other earlier

theorem backed_fresh : AlertEngine.fresh.Backed where
  active := by
    intro id member
    cases Std.ExtTreeMap.not_mem_empty member
  began := by
    rintro pass ⟨⟩
  clean := by
    rintro pass ⟨⟩
  published := by
    rintro event ⟨⟩

/-- An alert that an input makes active is not acknowledged. -/
theorem unseen_step {id : String} {found : ActiveAlert} (backed : engine.Backed)
    (new : id ∉ engine.active) (later : (engine.step words input).active[id]? = some found) :
    found.acknowledged = none := by
  have one := stepped words engine input
  generalize engine.step words input = after at one later
  have known : id ∈ after.active := Std.ExtTreeMap.mem_iff_isSome_getElem?.mpr (later ▸ rfl)
  cases one with
  | idle | look _ _ | settle _ _ _ => exact absurd known new
  | finish pass running settled =>
    refine (backed.clean pass running settled).unseen id found later ?_
    rwa [backed.began pass running]
  | acknowledge other who now alert there unseen =>
    exact absurd ((mem_acknowledged there _).mp known) new

/-- In every run in which no acknowledgement lands on an alert between a pass's
settling the acknowledgements and its clearing that alert: an alert is not
acknowledged when it becomes active, nor when it is raised as new. -/
theorem raised_unacknowledged {words : Words} {inputs : List Input}
    (lands : EachStep (AlertEngine.step words) (fun engine input => engine.lands input = true)
      AlertEngine.fresh inputs) :
    Always (AlertEngine.step words) (fun engine => ∀ event ∈ engine.published, event.unseen = true)
      AlertEngine.fresh inputs ∧
    EachStep (AlertEngine.step words)
      (fun engine input => ∀ (id : String) (found : ActiveAlert), id ∉ engine.active →
        (engine.step words input).active[id]? = some found → found.acknowledged = none)
      AlertEngine.fresh inputs := by
  have always := Runs.invariant AlertEngine.Backed (backed_step words) backed_fresh lands
  refine ⟨always.mono fun _ backed => backed.published, ?_⟩
  refine always.eachStep fun engine input backed => ?_
  intro id found new later
  exact unseen_step backed new later

/-- A leak is seen, dries up and comes back. -/
def seenLeak : List Input :=
  wholePass (leakHouse "Cellar" true 0) ++ [.acknowledge "wet:leak" "sam" 10] ++
    wholePass (leakHouse "Cellar" false 30) ++ wholePass (leakHouse "Cellar" true 60)

theorem seen_leak_comes_back_unacknowledged :
    let engine := seenLeak.foldl (AlertEngine.step english) .fresh
    engine.published.length = 3 ∧ ∀ event ∈ engine.published, event.unseen = true :=
  ⟨by decide +kernel, (raised_unacknowledged (by decide +kernel)).1.last⟩

/-- Seen while the pass that clears it tells a channel of something else, the
leak comes back in the next pass as one already seen. -/
theorem leak_seen_late_comes_back_acknowledged :
    let wet := (wholePass (leakHouse "Cellar" true 0)).foldl (AlertEngine.step english) .fresh
    let dry := [.look (leakHouse "Cellar" false 30), .settle, .acknowledge "wet:leak" "sam" 31,
      .finish].foldl (AlertEngine.step english) wet
    let again := (wholePass (leakHouse "Cellar" true 60)).foldl (AlertEngine.step english) dry
    wet.active.contains "wet:leak" = true ∧ dry.active.contains "wet:leak" = false ∧
      (again.active["wet:leak"]?).map (·.acknowledged) = some (some ⟨"sam", 31⟩) ∧
      (again.published.getLast?).map AlertEvent.unseen = some false := by
  decide +kernel

end HomeCore.Alerts
