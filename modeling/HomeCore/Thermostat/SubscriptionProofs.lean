import HomeCore.Journal
import HomeCore.Runs
import HomeCore.Thermostat.BootProofs

/-! What the controller subscribes is what it uses. Every operation announces, as a journal, the
difference between what was used before it and what is used after it. -/
namespace HomeCore.Thermostat

def Effect.subscriptionChange : Effect → Option (Journal.Change String)
  | .subscribe device => some (.added device)
  | .unsubscribe device => some (.removed device)
  | _ => none

namespace Controller
variable {c c' c'' : Controller} {formats : Formats} {now : DateTime}

def subscriptionChanges (c : Controller) : List (Journal.Change String) :=
  c.fx.filterMap Effect.subscriptionChange

/-- Some thermostat uses the device, as sensor or switch, or it is awaited as a candidate. -/
def Uses (c : Controller) (device : String) : Prop :=
  (∃ (id : String) (t : Thermo), c.therms[id]? = some t ∧
    (device ∈ t.cfg.sensorDeviceIds ∨ t.act.isEmpty = false ∧ device = t.act)) ∨
  device ∈ c.candidates

def used (c : Controller) : Finset String := c.usedIds.toFinset

theorem mem_used {device : String} : device ∈ c.used ↔ c.Uses device := by
  unfold used Uses usedIds
  simp only [List.mem_toFinset, List.mem_append, List.mem_flatMap, mem_values,
    Std.ExtTreeMap.mem_keys]
  refine or_congr ?_ Iff.rfl
  constructor
  · rintro ⟨t, ⟨id, found⟩, sensor | switch⟩
    · exact ⟨id, t, found, .inl sensor⟩
    · cases none : t.act.isEmpty with
      | true => simp [none] at switch
      | false => exact ⟨id, t, found, .inr ⟨none, by simpa [none] using switch⟩⟩
  · rintro ⟨id, t, found, sensor | ⟨some, rfl⟩⟩
    · exact ⟨t, ⟨id, found⟩, .inl sensor⟩
    · exact ⟨t, ⟨id, found⟩, .inr (by simp [some])⟩

theorem mem_externalIds {device : String} : device ∈ c.externalIds ↔ c.Uses device := by
  unfold externalIds
  rw [← mem_used, used, List.mem_toFinset, Std.ExtTreeSet.mem_toList, Std.ExtTreeSet.mem_ofList]
  simp

/-! ## What uses no other devices -/

/-- The settings, the candidates and what was announced stay as they are. -/
structure SameUse (c c' : Controller) : Prop where
  cfgs : ∀ id : String, (c'.therms[id]?).map Thermo.cfg = (c.therms[id]?).map Thermo.cfg
  candidates : c'.candidates = c.candidates
  changes : c'.subscriptionChanges = c.subscriptionChanges

namespace SameUse

theorem refl (c : Controller) : SameUse c c := ⟨fun _ => rfl, rfl, rfl⟩

theorem trans (first : SameUse c c') (second : SameUse c' c'') : SameUse c c'' where
  cfgs id := (second.cfgs id).trans (first.cfgs id)
  candidates := second.candidates.trans first.candidates
  changes := second.changes.trans first.changes

theorem uses (same : SameUse c c') {device : String} (uses : c.Uses device) : c'.Uses device := by
  rcases uses with ⟨id, t, found, uses⟩ | awaited
  · have kept := same.cfgs id
    rw [found, Option.map_some, Option.map_eq_some_iff] at kept
    obtain ⟨u, there, cfg⟩ := kept
    refine .inl ⟨id, u, there, ?_⟩
    rw [Thermo.act, cfg]
    exact uses
  · exact .inr (same.candidates ▸ awaited)

theorem symm (same : SameUse c c') : SameUse c' c where
  cfgs id := (same.cfgs id).symm
  candidates := same.candidates.symm
  changes := same.changes.symm

theorem used (same : SameUse c c') : c'.used = c.used := by
  ext device
  rw [mem_used, mem_used]
  exact ⟨same.symm.uses, same.uses⟩

/-- Only what is heard and seen changes. -/
theorem of_therms (therms : c'.therms = c.therms) (candidates : c'.candidates = c.candidates)
    (fx : c'.fx = c.fx) : SameUse c c' where
  cfgs id := by rw [therms]
  candidates := candidates
  changes := by rw [subscriptionChanges, fx, subscriptionChanges]

theorem of_map {change : Thermo → Thermo} (keeps : ∀ t, (change t).cfg = t.cfg) :
    SameUse c { c with therms := c.therms.map fun _ => change } where
  cfgs id := by
    change ((c.therms.map fun _ => change)[id]?).map Thermo.cfg = _
    rw [Std.ExtTreeMap.getElem?_map, Option.map_map]
    exact Option.map_congr fun t _ => keeps t
  candidates := rfl
  changes := rfl

theorem modify {id : String} {change : Thermo → Thermo} (keeps : ∀ t, (change t).cfg = t.cfg) :
    SameUse c (c.modify id change) where
  cfgs other := by
    rw [Rule.modify_getElem?]
    split
    · next same =>
      rw [← same, Option.map_map]
      exact Option.map_congr fun t _ => keeps t
    · rfl
  candidates := rfl
  changes := rfl

theorem push {effects : List Effect} (silent : effects.filterMap Effect.subscriptionChange = []) :
    SameUse c (c.push effects) where
  cfgs _ := rfl
  candidates := rfl
  changes := by
    rw [subscriptionChanges, Controller.push, List.filterMap_append, silent, List.append_nil]
    rfl

theorem evaluate (id : String) (now : DateTime) : SameUse c (c.evaluate id now) := by
  unfold Controller.evaluate
  split
  · exact refl c
  split
  · exact refl c
  next t found =>
  refine ⟨fun other => ?_, rfl, ?_⟩
  · dsimp only
    rw [Std.ExtTreeMap.getElem?_insert]
    split
    · next same =>
      cases Std.LawfulEqCmp.eq_of_compare same
      rw [found, Option.map_some, Option.map_some, Thermo.evaluate_cfg]
    · rfl
  · dsimp only
    rw [subscriptionChanges, List.filterMap_append]
    generalize (t.evaluate _ _ _ now).2 = toSend
    cases toSend <;> simp [subscriptionChanges, Thermo.command, Effect.subscriptionChange]

theorem evaluateAll (ids : List String) (now : DateTime) : SameUse c (c.evaluateAll ids now) := by
  unfold Controller.evaluateAll
  induction ids generalizing c with
  | nil => exact refl c
  | cons id rest ih => exact (evaluate id now).trans ih

theorem report (id operation : String) (error : Option String) :
    SameUse c (c.report id operation error) := by
  unfold Controller.report
  split
  · exact refl c
  · exact push rfl

theorem onSensorState (device : String) (payload : Json) :
    SameUse c (c.onSensorState formats device payload now) := by
  unfold Controller.onSensorState
  split
  · exact refl c
  split
  · exact refl c
  · next r _ =>
    have read : SameUse c { c with readings := c.readings.insert device r } :=
      of_therms rfl rfl rfl
    exact read.trans (evaluateAll _ now)

theorem onSwitchState (device : String) (on : Bool) : SameUse c (c.onSwitchState device on now) := by
  unfold Controller.onSwitchState
  dsimp only
  have seen : SameUse c (c.see device fun s => { s with on := some on }) := of_therms rfl rfl rfl
  refine seen.trans ?_
  generalize c.see device (fun s => { s with on := some on }) = c'
  generalize (c.seenOf device).on = prev
  generalize List.map _ _ = ids
  clear seen
  induction ids generalizing c' with
  | nil => exact refl c'
  | cons id rest ih =>
    rw [List.foldl_cons]
    have told : SameUse c' (c'.modify id (hearSwitch c'.started prev on now)) :=
      modify fun t => (hearSwitch_frame c'.started prev on now t).1
    exact (told.trans (evaluate id now)).trans (ih _)

theorem onAvailability (device : String) (online : Bool) :
    SameUse c (c.onAvailability device online now) := by
  unfold Controller.onAvailability
  split
  · exact refl c
  dsimp only
  have seen : SameUse c (c.see device fun s => { s with online := some online }) :=
    of_therms rfl rfl rfl
  refine SameUse.trans ?_ (evaluateAll _ now)
  split
  · exact seen.trans (of_map fun t => Rule.askAgain_cfg device t)
  · exact seen

theorem restoreReading (sensor : String) (r : Json) :
    SameUse c (Controller.restoreReading formats c sensor r) := by
  unfold Controller.restoreReading
  split
  · exact of_therms rfl rfl rfl
  · exact refl c

theorem restoreOwn (id : String) (p : Json) : SameUse c (Controller.restoreOwn formats c id p now) := by
  unfold Controller.restoreOwn
  split
  · exact refl c
  dsimp only
  have restored : SameUse c (c.modify id (restoreThermo formats p now)) := modify fun _ => rfl
  split
  · exact restored
  next readings _ =>
  refine restored.trans ?_
  generalize c.modify id (restoreThermo formats p now) = c'
  generalize readings.toList = entries
  clear restored
  induction entries generalizing c' with
  | nil => exact refl c'
  | cons entry rest ih => exact (restoreReading entry.1 entry.2).trans (ih _)

theorem start (now : DateTime) : SameUse c (c.start now) := by
  unfold Controller.start
  dsimp only
  refine SameUse.trans ?_ (evaluateAll _ now)
  have begun : SameUse c { c with started := true } := of_therms rfl rfl rfl
  refine (begun.trans (push ?_)).trans (of_map fun _ => rfl)
  rw [List.filterMap_eq_nil_iff]
  intro effect queued
  simp only [List.mem_append, List.mem_flatMap, List.mem_cons, List.not_mem_nil, or_false] at queued
  rcases queued with ⟨t, _, rfl | rfl⟩ | rfl <;> rfl

theorem shutdown : SameUse c c.shutdown := by
  unfold Controller.shutdown
  refine push ?_
  rw [List.filterMap_eq_nil_iff]
  intro effect queued
  obtain ⟨t, _, queued⟩ := List.mem_flatMap.mp queued
  split at queued
  · cases queued
  split at queued
  · cases List.mem_singleton.mp queued
    rfl
  · cases queued

end SameUse

/-! ## What announces its changes -/

/-- What was announced on the way from one controller to the next is exactly the difference of
what they use, and nothing is unsubscribed that is used in the end. -/
def Announces (c c' : Controller) : Prop :=
  ∃ changes, c'.subscriptionChanges = c.subscriptionChanges ++ changes ∧
    Journal.replay c.used changes = some c'.used ∧ ∀ device, .removed device ∈ changes → device ∉ c'.used

namespace Announces

theorem quiet (same : SameUse c c') : Announces c c' := by
  refine ⟨[], ?_, ?_, fun device member => ?_⟩
  · rw [same.changes, List.append_nil]
  · rw [same.used, Journal.replay_nil]
  · cases member

theorem after (announces : Announces c c') (same : SameUse c' c'') : Announces c c'' := by
  obtain ⟨changes, told, replayed, unused⟩ := announces
  refine ⟨changes, same.changes.trans told, ?_, fun device member => ?_⟩
  · rw [replayed, same.used]
  · rw [same.used]
    exact unused device member

theorem before (same : SameUse c c') (announces : Announces c' c'') : Announces c c'' := by
  obtain ⟨changes, told, replayed, unused⟩ := announces
  refine ⟨changes, ?_, ?_, unused⟩
  · rw [told, same.changes]
  · rw [← same.used, replayed]

/-- One after another, where the second one takes nothing new into use. -/
theorem trans (first : Announces c c') (second : Announces c' c'') (fewer : c''.used ⊆ c'.used) :
    Announces c c'' := by
  obtain ⟨changes, told, replayed, unused⟩ := first
  obtain ⟨later, laterTold, laterReplayed, laterUnused⟩ := second
  refine ⟨changes ++ later, ?_, ?_, fun device member => ?_⟩
  · rw [laterTold, told, List.append_assoc]
  · rw [Journal.replay_append, replayed, Option.bind_some, laterReplayed]
  · rcases List.mem_append.mp member with early | late
    · exact fun stillUsed => unused device early (fewer stillUsed)
    · exact laterUnused device late

/-- Subscribing again, from what was used before the change. -/
theorem resubscribe {before : List String} (wasUsed : before.toFinset = c.used)
    (silent : c'.subscriptionChanges = c.subscriptionChanges) :
    Announces c (c'.resubscribe before) := by
  have sameUsed : (c'.resubscribe before).used = c'.used := rfl
  let news := (Std.ExtTreeSet.ofList (c'.usedIds.filter (· ∉ before))).toList
  let gone := (Std.ExtTreeSet.ofList (before.filter (· ∉ c'.usedIds))).toList
  have mem_news {device : String} : device ∈ news ↔ device ∈ c'.usedIds ∧ device ∉ before := by
    simp [news]
  have mem_gone {device : String} : device ∈ gone ↔ device ∈ before ∧ device ∉ c'.usedIds := by
    simp [gone]
  have nodup (set : Std.ExtTreeSet String) : set.toList.Nodup := by
    refine set.distinct_toList.imp fun differ same => differ ?_
    rw [same]
    exact Std.ReflCmp.compare_self
  have inBefore {device : String} : device ∈ c.used ↔ device ∈ before := by
    rw [← wasUsed, List.mem_toFinset]
  have inAfter {device : String} : device ∈ c'.used ↔ device ∈ c'.usedIds := List.mem_toFinset
  refine ⟨news.map .added ++ gone.map .removed, ?_, ?_, fun device member => ?_⟩
  · rw [← silent]
    unfold Controller.resubscribe subscriptionChanges
    have told (change : String → Journal.Change String) (make : String → Effect)
        (made : ∀ device, (make device).subscriptionChange = some (change device))
        (devices : List String) :
        (devices.map make).filterMap Effect.subscriptionChange = devices.map change := by
      rw [List.filterMap_map, ← List.filterMap_eq_map]
      exact congrArg (List.filterMap · devices) (funext made)
    rw [List.filterMap_append, List.filterMap_append, List.append_assoc,
      told .added .subscribe fun _ => rfl, told .removed .unsubscribe fun _ => rfl]
  · have replayed : Journal.replay c.used
        ((news.map fun device => if device ∈ c.used then .changed device else .added device) ++
          gone.map .removed) = some c'.used :=
      Journal.replay_difference (nodup _) (nodup _)
      (fun device member => inAfter.mpr (mem_news.mp member).1)
      (fun device now new => mem_news.mpr ⟨inAfter.mp now, fun was => new (inBefore.mpr was)⟩)
      (fun device => mem_gone.trans (and_congr inBefore.symm (not_congr inAfter.symm)))
    rw [sameUsed, ← replayed]
    congr 2
    refine List.map_congr_left fun device member => ?_
    rw [if_neg fun was => (mem_news.mp member).2 (inBefore.mp was)]
  · rw [sameUsed, inAfter]
    simp only [List.mem_append, List.mem_map, reduceCtorEq, and_false, exists_false, false_or,
      Journal.Change.removed.injEq, exists_eq_right] at member
    exact (mem_gone.mp member).2

end Announces

/-! ## Every operation -/

/-- A candidate that is no longer awaited is counted as used before. -/
theorem candidate_used {device : String} (awaited : device ∈ c.candidates) :
    (device :: { c with candidates := c.candidates.erase device }.usedIds).toFinset = c.used := by
  ext other
  rw [List.toFinset_cons, Finset.mem_insert, ← used, mem_used, mem_used]
  have split : other ∈ c.candidates ↔ other = device ∨ other ∈ c.candidates.erase device := by
    rw [Std.ExtTreeMap.mem_erase]
    by_cases same : other = device
    · simp [same, awaited]
    · simp [same, Ne.symm same]
  unfold Uses
  rw [split]
  exact or_left_comm

theorem switchTo_changes (id actuator : String) :
    (c.switchTo id actuator now).subscriptionChanges = c.subscriptionChanges := by
  unfold switchTo
  split
  · rfl
  · next t _ =>
    rw [subscriptionChanges, List.filterMap_append]
    split <;> simp [subscriptionChanges, Thermo.command, Effect.subscriptionChange]

theorem settleCandidate_announces {device : String} (awaited : device ∈ c.candidates) :
    Announces c (c.settleCandidate device now) := by
  unfold settleCandidate
  dsimp only
  split
  · exact .quiet (.refl c)
  split
  · exact .quiet (.refl c)
  next candidate _ =>
  refine (Announces.resubscribe (candidate_used awaited) ?_).after (.evaluate candidate.thermostat now)
  split
  · rw [(SameUse.report ..).changes, switchTo_changes]
    rfl
  · rw [(SameUse.report ..).changes]
    rfl

theorem dropCandidate_announces (device : String) :
    Announces c (c.dropCandidate device) ∧ (c.dropCandidate device).used ⊆ c.used := by
  unfold dropCandidate
  split
  · exact ⟨.quiet (.refl c), Finset.Subset.refl _⟩
  next candidate found =>
  have awaited : device ∈ c.candidates := by
    rw [Std.ExtTreeMap.mem_iff_isSome_getElem?, found]
    rfl
  constructor
  · refine .resubscribe (candidate_used awaited) ?_
    rw [(SameUse.report ..).changes]
    rfl
  · change (report _ candidate.thermostat "set_actuator" _).used ⊆ c.used
    rw [(SameUse.report ..).used, ← candidate_used awaited, List.toFinset_cons]
    exact Finset.subset_insert _ _

theorem tick_announces : Announces c (c.tick now) := by
  unfold tick
  dsimp only
  refine Announces.after ?_ (.evaluateAll _ now)
  generalize (c.candidates.toList.filter _).map Prod.fst = expired
  suffices dropped : Announces c (expired.foldl dropCandidate c) ∧
      (expired.foldl dropCandidate c).used ⊆ c.used from dropped.1
  induction expired generalizing c with
  | nil => exact ⟨.quiet (.refl c), Finset.Subset.refl _⟩
  | cons device rest ih =>
    obtain ⟨first, fewer⟩ : Announces c (c.dropCandidate device) ∧ _ := dropCandidate_announces device
    obtain ⟨later, fewerStill⟩ : Announces (c.dropCandidate device) _ ∧ _ := ih
    exact ⟨first.trans later fewerStill, fewerStill.trans fewer⟩

theorem onState_announces (device : String) (payload : Json) :
    Announces c (c.onState formats device payload now) := by
  unfold onState
  split
  · split
    · exact .quiet (.refl c)
    · next id _ _ =>
      have remembered : SameUse c { c with ownRestored := id :: c.ownRestored } :=
        .of_therms rfl rfl rfl
      exact .quiet (remembered.trans (.restoreOwn id payload))
  dsimp only
  generalize said : (c.see device _) = told
  have heard : SameUse c told := by
    rw [← said]
    exact .of_therms rfl rfl rfl
  refine .before heard ?_
  have settled : Announces told
      (if device ∈ told.candidates then told.settleCandidate device now else told) := by
    split
    · next awaited => exact settleCandidate_announces awaited
    · exact .quiet (.refl told)
  have read : Announces told (onSensorState formats
      (if device ∈ told.candidates then told.settleCandidate device now else told) device payload now) :=
    settled.after (.onSensorState device payload)
  split
  · exact read
  · exact read.after (.onSwitchState device _)

theorem applied_changes {id : String} {t : Thermo} {p : Json}
    (applied : Applied c id t p now c') : c'.subscriptionChanges = c.subscriptionChanges := by
  induction applied with
  | untouched => rfl
  | adjusted _ _ _ _ _ ih => exact ih
  | forced => rfl
  | mode => rfl
  | moved device => exact switchTo_changes id device

theorem onCommand_announces (device : String) (payload : Json) :
    Announces c (c.onCommand formats device payload now) := by
  unfold onCommand
  split
  · exact .quiet (.refl c)
  next id _ =>
  split
  · exact .quiet (.refl c)
  next t found =>
  have applied : Applied c id t payload now _ := .applyCommand formats
  have silent := applied_changes applied
  dsimp only
  refine (Announces.resubscribe rfl ?_).after (.evaluate id now)
  split
  · next is =>
    rw [is] at silent
    exact silent
  all_goals
    next is =>
    rw [is] at silent
    exact (SameUse.report ..).changes.trans silent

theorem add_announces (entry : ThermostatEntry) : Announces c (c.add entry now) := by
  unfold add
  dsimp only
  refine Announces.after ?_ (.evaluate entry.id now)
  split
  · have registered : [Effect.register entry].filterMap Effect.subscriptionChange = [] := rfl
    refine Announces.after ?_ (.push registered)
    exact .resubscribe rfl rfl
  · exact .resubscribe rfl rfl

theorem remove_announces (id : String) : Announces c (c.remove id) := by
  unfold remove
  split
  · exact .quiet (.refl c)
  next t found =>
  refine .resubscribe rfl ?_
  refine (SameUse.push ?_).changes
  split <;> rfl

theorem applyLearned_announces (doc : Json) : Announces c (applyLearned formats c doc now) := by
  unfold applyLearned
  split
  · exact .quiet (.refl c)
  next unstarted =>
  clear unstarted
  dsimp only
  generalize ((doc.get "runtime").bind Json.asObject).elim [] (·.toList) = runtime
  have restored : SameUse c (runtime.foldl (fun c entry =>
      if entry.1 ∉ c.ownRestored && entry.1 ∈ c.therms then restoreOwn formats c entry.1 entry.2 now
      else c) c) := by
    induction runtime generalizing c with
    | nil => exact .refl c
    | cons entry rest ih =>
      rw [List.foldl_cons]
      refine SameUse.trans ?_ ih
      split
      · exact .restoreOwn entry.1 entry.2
      · exact .refl c
  refine .before restored ?_
  generalize runtime.foldl _ c = c'
  split
  · exact .quiet (.refl c')
  next kept _ =>
  refine .resubscribe rfl ?_
  generalize kept.toList = entries
  clear restored
  induction entries generalizing c' with
  | nil => rfl
  | cons entry rest ih =>
    rw [List.foldl_cons, ih]
    split <;> rfl

theorem handle_announces (input : Input) : Announces c (c.handle formats input now) := by
  cases input with
  | state device payload => exact onState_announces device payload
  | availability device online => exact .quiet (.onAvailability device online)
  | command device payload => exact onCommand_announces device payload
  | tick => exact tick_announces
  | add entry => exact add_announces entry
  | remove id => exact remove_announces id
  | recalculateAll force =>
    unfold handle recalculateAll
    dsimp only
    split
    · have again : SameUse c { c with therms := c.therms.map fun _ => Thermo.resync } :=
        .of_map fun _ => rfl
      exact .before again tick_announces
    · exact tick_announces
  | shutdown => exact .quiet .shutdown

theorem operate_announces (operation : Operation) : Announces c (c.operate formats operation now) := by
  cases operation with
  | learned doc => exact applyLearned_announces doc
  | start => exact .quiet (.start now)
  | input input => exact handle_announces input

end Controller

/-! ## Whole runs -/

/-- A controller with the devices its effects have subscribed; none once a subscription was of a
device already subscribed, or an end of one that was not. -/
structure Listener where
  ctl : Controller
  subscribed : Option (Finset String)

namespace Listener

def begin (entries : List ThermostatEntry) : Listener where
  ctl := .new entries
  subscribed := some (Controller.new entries).externalIds.toFinset

def step (formats : Formats) (l : Listener) (operation : Operation × DateTime) : Listener :=
  let c := l.ctl.operate formats operation.1 operation.2
  ⟨c.takeEffects.1, l.subscribed.bind (Journal.replay · c.subscriptionChanges)⟩

/-- Exactly what is used is subscribed. -/
def Subscribed (l : Listener) : Prop :=
  ∃ devices, l.subscribed = some devices ∧ ∀ device, device ∈ devices ↔ l.ctl.Uses device

/-- What an operation unsubscribes is used no more. -/
def SparesUsed (formats : Formats) (l : Listener) (operation : Operation × DateTime) : Prop :=
  let c := l.ctl.operate formats operation.1 operation.2
  ∀ device, .unsubscribe device ∈ c.fx → ¬ c.Uses device

structure Sound (l : Listener) : Prop where
  idle : l.ctl.fx = []
  subscribed : l.subscribed = some l.ctl.used

theorem step_sound {l : Listener} (sound : l.Sound) (formats : Formats)
    (operation : Operation × DateTime) :
    (step formats l operation).Sound ∧ SparesUsed formats l operation := by
  obtain ⟨changes, told, replayed, unused⟩ :=
    (Controller.operate_announces operation.1 : l.ctl.Announces (l.ctl.operate formats _ operation.2))
  have silent : l.ctl.subscriptionChanges = [] := by
    rw [Controller.subscriptionChanges, sound.idle, List.filterMap_nil]
  rw [silent, List.nil_append] at told
  constructor
  · refine ⟨rfl, ?_⟩
    change l.subscribed.bind (Journal.replay · _) = _
    rw [sound.subscribed, Option.bind_some, told, replayed]
    rfl
  · intro device queued uses
    refine unused device ?_ (Controller.mem_used.mpr uses)
    rw [← told]
    exact List.mem_filterMap.mpr ⟨_, queued, rfl⟩

/-- In every run of operations exactly what is used is subscribed, no device twice, and none is
unsubscribed that is still used. -/
theorem subscriptions_follow_use (formats : Formats) (entries : List ThermostatEntry)
    (operations : List (Operation × DateTime)) :
    Runs.Always (step formats) Subscribed (begin entries) operations ∧
      Runs.EachStep (step formats) (SparesUsed formats) (begin entries) operations := by
  have begun : (begin entries).Sound := by
    refine ⟨rfl, congrArg some ?_⟩
    ext device
    rw [List.mem_toFinset, Controller.mem_externalIds, Controller.mem_used]
    rfl
  have always : Runs.Always (step formats) Sound (begin entries) operations :=
    Runs.kept Sound (fun l operation sound => (step_sound sound formats operation).1) begun operations
  constructor
  · exact always.mono fun l sound =>
      ⟨l.ctl.used, sound.subscribed, fun device => Controller.mem_used⟩
  · exact always.eachStep fun l operation sound => (step_sound sound formats operation).2

end Listener
end HomeCore.Thermostat
