import HomeCore.Thermostat.Restarts
import HomeCore.Thermostat.ReportsProofs
import HomeCore.Thermostat.ChoiceProofs

/-! What a controller made again is told before it is started: devices saying what they last said
change none of its thermostats, and the document restores each of them. -/
namespace HomeCore.Thermostat
open Controller

/-! ## What is kept -/

@[simp] theorem wholeSecond_wholeSecond (time : DateTime) : wholeSecond (wholeSecond time) = wholeSecond time := by
  rw [wholeSecond, wholeSecond, Int.mul_ediv_cancel _ (by decide)]

section Kept
variable {formats : Formats} (stamps : Stamps formats)

theorem parseTime_iso (time : Option DateTime) :
    parseTime formats (some (stamps.iso time)) = time.map wholeSecond := by
  cases time with
  | none => rfl
  | some time => exact stamps.parseTime_showTime time

theorem runtimeOf_readings (t : Thermo) :
    (runtimeOf (t.statePayload stamps)).get "sensor_readings" = none := by
  rfl

theorem runtimeOf_reason (t : Thermo) :
    (runtimeOf (t.statePayload stamps)).get "reason" = some (.str t.reason) := by
  rfl

theorem runtimeOf_lastChange (t : Thermo) :
    (runtimeOf (t.statePayload stamps)).get "actuator_last_change" = some (stamps.iso t.lastChange) := by
  rfl

theorem runtimeOf_overrideUntil (t : Thermo) :
    (runtimeOf (t.statePayload stamps)).get "override_until" = some (stamps.iso t.overrideUntil) := by
  rfl

theorem runtimeOf_onSince (t : Thermo) :
    (runtimeOf (t.statePayload stamps)).get "on_since" = some (stamps.iso t.onSince) := by
  rfl

theorem runtimeOf_holdUntil (t : Thermo) :
    (runtimeOf (t.statePayload stamps)).get "hold_until" = some (stamps.iso (t.hold.map (·.ends))) := by
  rfl

theorem runtimeOf_holdSetpoint (t : Thermo) :
    ((runtimeOf (t.statePayload stamps)).get "hold_setpoint").bind Json.asF64 = t.hold.map (·.setpoint) := by
  have kept : (runtimeOf (t.statePayload stamps)).get "hold_setpoint" =
      some (t.hold.elim .null fun hold => .num (.float hold.setpoint)) := by
    rfl
  rw [kept]
  cases t.hold <;> rfl

/-- What a new thermostat takes of what was kept of an old one. -/
def restoredFrom (formats : Formats) (t : Thermo) (learnedAt : DateTime) (u : Thermo) : Thermo :=
  { u with
    lastChange := t.lastChange.map wholeSecond
    overrideUntil := (t.overrideUntil.map wholeSecond).filter fun ends => decide (learnedAt < ends)
    overrideAt := if ((t.overrideUntil.map wholeSecond).filter fun ends => decide (learnedAt < ends)).isSome then
      t.lastChange.map wholeSecond else u.overrideAt
    hold := (t.hold.map fun hold => ⟨hold.setpoint, wholeSecond hold.ends⟩).filter fun hold =>
      decide (learnedAt < hold.ends) && (setpointProblem formats hold.setpoint).isNone
    onSince := t.onSince.map wholeSecond
    calling := t.toldCall }

theorem restoreThermo_kept (t : Thermo) (learnedAt : DateTime) {u : Thermo} (unchanged : u.lastChange = none)
    (unheld : u.hold = none) :
    restoreThermo formats (runtimeOf (t.statePayload stamps)) learnedAt u = restoredFrom formats t learnedAt u := by
  have called : (((runtimeOf (t.statePayload stamps)).get "reason").bind Json.asStr).any
      (fun reason => decide (reason ∈ ["heating", "cooling", "waiting_min_off"])) = t.toldCall := by
    rw [runtimeOf_reason, Thermo.toldCall, List.contains_eq_mem]
    rfl
  rw [restoreThermo]
  simp only [runtimeOf_lastChange, runtimeOf_overrideUntil, runtimeOf_onSince, runtimeOf_holdUntil,
    runtimeOf_holdSetpoint, called, parseTime_iso, unchanged, Option.or_none]
  rw [restoredFrom, unheld]
  cases t.hold with
  | none => rfl
  | some hold => rfl

end Kept
namespace Controller
variable {c fresh b b' : Controller} {formats : Formats} {now : DateTime}

/-! ## What devices say -/

theorem modify_same {id : String} {change : Thermo → Thermo}
    (same : ∀ t, b.therms[id]? = some t → change t = t) : b.modify id change = b := by
  have therms : b.therms.modify id change = b.therms := by
    refine Std.ExtTreeMap.ext_getElem? fun other => ?_
    rw [Std.ExtTreeMap.getElem?_modify]
    split
    next equal =>
      obtain rfl := Std.LawfulEqCmp.eq_of_compare equal
      cases found : b.therms[id]? with
      | none => rfl
      | some t => rw [Option.map_some, same t found]
    next => rfl
  rw [modify, therms]

/-- Not started, with nothing asked of a switch, and of its switches heard only what they last
said to the old controller. -/
structure Quiet (c fresh b : Controller) : Prop where
  listening : b.Listening Unsent
  calm : b.candidates = ∅
  unrestored : b.ownRestored = []
  same : ∀ id, id ∈ b.therms ↔ id ∈ fresh.therms
  seen : ∀ device, (b.seenOf device).on = none ∨ (b.seenOf device).on = (c.seenOf device).on

/-- All but what was heard and seen is as it was. -/
structure Hears (b b' : Controller) : Prop where
  started : b'.started = b.started
  therms : b'.therms = b.therms
  files : b'.fileEntries = b.fileEntries
  candidates : b'.candidates = b.candidates
  ownRestored : b'.ownRestored = b.ownRestored

theorem Hears.refl (b : Controller) : Hears b b := ⟨rfl, rfl, rfl, rfl, rfl⟩

theorem Hears.trans {b'' : Controller} (first : Hears b b') (second : Hears b' b'') : Hears b b'' :=
  ⟨second.started.trans first.started, second.therms.trans first.therms, second.files.trans first.files,
    second.candidates.trans first.candidates, second.ownRestored.trans first.ownRestored⟩

theorem Quiet.of_hears (quiet : Quiet c fresh b) (heard : Hears b b')
    (seen : ∀ device, (b'.seenOf device).on = none ∨ (b'.seenOf device).on = (c.seenOf device).on) :
    Quiet c fresh b' where
  listening := quiet.listening.congr heard.started heard.therms heard.files
  calm := heard.candidates.trans quiet.calm
  unrestored := heard.ownRestored.trans quiet.unrestored
  same id := heard.therms ▸ quiet.same id
  seen := seen

theorem hearSwitch_agreeing {t : Thermo} (unasked : t.commanded = none) {prev : Option Bool} {on : Bool}
    (agrees : prev = none ∨ prev = some on) : hearSwitch false prev on now t = t := by
  rw [hearSwitch_unasked unasked, noteReport]
  rcases agrees with rfl | rfl <;> simp

theorem onSensorState_hears (unstarted : b.started = false) (device : String) (payload : Json) :
    Hears b (b.onSensorState formats device payload now) ∧
      ∀ other, (b.onSensorState formats device payload now).seenOf other = b.seenOf other := by
  rw [onSensorState]
  split
  · exact ⟨.refl b, fun _ => rfl⟩
  split
  · exact ⟨.refl b, fun _ => rfl⟩
  · rw [evaluateUsing, evaluateAll_of_unstarted (by exact unstarted)]
    exact ⟨⟨rfl, rfl, rfl, rfl, rfl⟩, fun _ => rfl⟩

theorem onSwitchState_hears (quiet : Quiet c fresh b) {device : String} {on : Bool}
    (agrees : (c.seenOf device).on = some on) :
    b.onSwitchState device on now = b.see device fun s => { s with on := some on } := by
  have prev : (b.seenOf device).on = none ∨ (b.seenOf device).on = some on :=
    (quiet.seen device).imp_right (·.trans agrees)
  rw [onSwitchState]
  generalize ((b.see device fun s => { s with on := some on }).values.filter (·.act == device)).map (·.cfg.id) =
    ids
  induction ids with
  | nil => rfl
  | cons id rest ih =>
    have kept : (b.see device fun s => { s with on := some on }).modify id
        (hearSwitch (b.see device fun s => { s with on := some on }).started (b.seenOf device).on on now) =
          b.see device fun s => { s with on := some on } := by
      refine modify_same fun t found => ?_
      rw [show (b.see device fun s => { s with on := some on }).started = false from quiet.listening.unstarted]
      exact hearSwitch_agreeing (quiet.listening.holds id t found) prev
    rw [List.foldl_cons, kept, evaluate_of_unstarted (by exact quiet.listening.unstarted), ih]

theorem Quiet.see (quiet : Quiet c fresh b) {device : String} {change : Seen → Seen}
    (agrees : (change (b.seenOf device)).on = none ∨ (change (b.seenOf device)).on = (c.seenOf device).on) :
    Quiet c fresh (b.see device change) := by
  refine quiet.of_hears ⟨rfl, rfl, rfl, rfl, rfl⟩ fun other => ?_
  by_cases same : other = device
  · subst same
    rw [Rule.see_seenOf]
    exact agrees
  · rw [Rule.see_seenOf_of_ne same]
    exact quiet.seen other

theorem Quiet.onState (quiet : Quiet c fresh b) {device : String} {payload : Json}
    (other : fresh.ownId device = none)
    (agrees : ∀ on, interpretActuatorOn payload = some on → (c.seenOf device).on = some on) :
    Hears b (b.onState formats device payload now) ∧ Quiet c fresh (b.onState formats device payload now) := by
  have notOwn : b.ownId device = none := (ChoiceWatch.Midway.ownId_congr quiet.same device).trans other
  rw [Controller.onState, notOwn]
  dsimp only
  have seen : Quiet c fresh (b.see device fun s => { s with
      hasOn := s.hasOn || ((payload.get "on").bind Json.asBool).isSome
      lockish := s.lockish || (payload.get "locked").isSome }) := quiet.see (quiet.seen device)
  have first : Hears b (b.see device fun s => { s with
      hasOn := s.hasOn || ((payload.get "on").bind Json.asBool).isSome
      lockish := s.lockish || (payload.get "locked").isSome }) := ⟨rfl, rfl, rfl, rfl, rfl⟩
  generalize b.see device _ = told at seen first
  rw [if_neg (by rw [seen.calm]; exact Std.ExtTreeMap.not_mem_empty)]
  obtain ⟨reads, sameSeen⟩ := @onSensorState_hears told formats now seen.listening.unstarted device payload
  have read : Quiet c fresh (told.onSensorState formats device payload now) :=
    seen.of_hears reads fun other => by rw [sameSeen]; exact seen.seen other
  split
  · exact ⟨first.trans reads, read⟩
  next on isOn =>
    rw [onSwitchState_hears read (agrees on isOn)]
    exact ⟨(first.trans reads).trans ⟨rfl, rfl, rfl, rfl, rfl⟩, read.see (.inr (agrees on isOn).symm)⟩

theorem Quiet.onAvailability (quiet : Quiet c fresh b) {device : String} (other : fresh.ownId device = none)
    (online : Bool) :
    Hears b (b.onAvailability device online now) ∧ Quiet c fresh (b.onAvailability device online now) := by
  have notOwn : b.ownId device = none := (ChoiceWatch.Midway.ownId_congr quiet.same device).trans other
  rw [Controller.onAvailability, notOwn, if_neg (by simp)]
  dsimp only
  have seen : Quiet c fresh (b.see device fun s => { s with online := some online }) :=
    quiet.see (quiet.seen device)
  have first : Hears b (b.see device fun s => { s with online := some online }) := ⟨rfl, rfl, rfl, rfl, rfl⟩
  generalize b.see device _ = told at seen first
  have again : { told with therms := told.therms.map fun _ => askAgain device now } = told := by
    have therms : told.therms.map (fun _ => askAgain device now) = told.therms := by
      refine Std.ExtTreeMap.ext_getElem? fun id => ?_
      rw [Std.ExtTreeMap.getElem?_map]
      cases found : told.therms[id]? with
      | none => rfl
      | some t =>
        have unasked : t.commanded = none := seen.listening.holds id t found
        rw [Option.map_some, askAgain, unasked]
        simp
    rw [therms]
  rw [again, ite_self, evaluateUsing, evaluateAll_of_unstarted seen.listening.unstarted]
  exact ⟨first, seen⟩

theorem Quiet.hear (quiet : Quiet c fresh b) {heard : Heard} (tells : c.Tells fresh heard) :
    Hears b (b.hear formats heard now) ∧ Quiet c fresh (b.hear formats heard now) := by
  cases heard with
  | state device payload => exact quiet.onState tells.1 tells.2
  | availability device online => exact quiet.onAvailability tells online
  | learned doc => exact tells.elim

/-- The messages of devices, as `boot` takes them in. -/
theorem Quiet.hearAll (quiet : Quiet c fresh b) {messages : List (Heard × DateTime)}
    (tells : ∀ message ∈ messages, c.Tells fresh message.1) :
    let heard := messages.foldl (fun c message => (c.hear formats message.1 message.2).takeEffects.1) b
    Hears b heard ∧ Quiet c fresh heard := by
  induction messages generalizing b with
  | nil => exact ⟨.refl b, quiet⟩
  | cons message rest ih =>
    obtain ⟨heard, stays⟩ := @Quiet.hear c fresh b formats message.2 quiet message.1
      (tells message List.mem_cons_self)
    have left : Hears b (b.hear formats message.1 message.2).takeEffects.1 :=
      heard.trans ⟨rfl, rfl, rfl, rfl, rfl⟩
    have still : Quiet c fresh (b.hear formats message.1 message.2).takeEffects.1 :=
      stays.of_hears ⟨rfl, rfl, rfl, rfl, rfl⟩ stays.seen
    obtain ⟨later, quietLater⟩ := ih still fun other listed => tells other (List.mem_cons_of_mem message listed)
    exact ⟨left.trans later, quietLater⟩

theorem new_quiet (c : Controller) (entries : List ThermostatEntry) : Quiet c (new entries) (new entries) where
  listening := new_listening unsent_lasting entries
  calm := rfl
  unrestored := rfl
  same _ := .rfl
  seen _ := .inl rfl

/-! ## What was learned -/

/-- A fold of changes, each to the thermostat of its own key. -/
theorem getElem?_foldl_modify {α : Type} (patch : Std.ExtTreeMap String α) (change : String → α → Thermo → Thermo)
    (target : Std.ExtTreeMap String Thermo) (id : String) :
    (patch.toList.foldl (fun m entry => m.modify entry.1 (change entry.1 entry.2)) target)[id]? =
      patch[id]?.elim target[id]? fun v => target[id]?.map (change id v) := by
  have written (target : Std.ExtTreeMap String Thermo) (k : String) (v : α) (id : String) :
      (target.modify k (change k v))[id]? =
        if compare k id = .eq then target[id]?.map (change id v) else target[id]? := by
    rw [Std.ExtTreeMap.getElem?_modify]
    split
    next equal =>
      obtain rfl := Std.LawfulEqCmp.eq_of_compare equal
      rfl
    next => rfl
  let settle : String → α → Option Thermo → Option Thermo := fun k v o => o.map (change k v)
  have settled : ∀ target k v key, (Std.ExtTreeMap.modify target k (change k v))[key]? =
      if compare k key = .eq then settle key v target[key]? else target[key]? := written
  have folded := Maps.getElem?_foldl_settle settled patch target id
  rwa [Std.ExtTreeMap.foldl_eq_foldl_toList] at folded

theorem asObject_toList (m : AttrMap) : Json.asObject (.obj m.toList) = some m := by
  have same : Std.ExtTreeMap.ofList m.toList = m := Std.ExtTreeMap.ext_getElem? fun key => Json.get_obj_toList m key
  rw [Json.asObject, same]

/-- Told the running state of thermostats, without readings, it restores each of them. -/
theorem restores_eq (unrestored : b.ownRestored = []) {entries : List (String × Json)}
    (plain : ∀ entry ∈ entries, entry.2.get "sensor_readings" = none) :
    entries.foldl (fun c entry =>
        if entry.1 ∉ c.ownRestored && entry.1 ∈ c.therms then restoreOwn formats c entry.1 entry.2 now else c) b =
      { b with
        therms := entries.foldl (fun m entry => m.modify entry.1 (restoreThermo formats entry.2 now)) b.therms } := by
  induction entries generalizing b with
  | nil => rfl
  | cons entry rest ih =>
    have restored : (if entry.1 ∉ b.ownRestored && entry.1 ∈ b.therms then
        restoreOwn formats b entry.1 entry.2 now else b) =
          b.modify entry.1 (restoreThermo formats entry.2 now) := by
      by_cases present : entry.1 ∈ b.therms
      · rw [if_pos (by simp [unrestored, present]), restoreOwn, if_neg (not_not_intro present)]
        simp only [plain entry List.mem_cons_self, Option.bind_none]
      · rw [if_neg (by simp [present]), modify_same]
        intro t found
        exact absurd (Std.ExtTreeMap.mem_iff_isSome_getElem?.mpr (by rw [found]; rfl)) present
    rw [List.foldl_cons, restored, ih (by exact unrestored) fun other listed =>
      plain other (List.mem_cons_of_mem entry listed)]
    rfl

/-- The thermostat with the settings that were kept, if they are taken up. -/
def relearned (formats : Formats) (file : Option ThermostatEntry) (kept : Json) (t : Thermo) : Thermo :=
  { t with cfg := (file.bind fun file => learnedEntry formats file kept).getD t.cfg }

theorem learns_eq (entries : List (String × Json)) :
    entries.foldl (fun c entry =>
        match c.fileEntries[entry.1]?.bind fun file => learnedEntry formats file entry.2 with
        | none => c
        | some cfg => c.modify entry.1 fun t => { t with cfg }) b =
      { b with therms := entries.foldl (fun m entry =>
          m.modify entry.1 (relearned formats b.fileEntries[entry.1]? entry.2)) b.therms } := by
  induction entries generalizing b with
  | nil => rfl
  | cons entry rest ih =>
    have learned : (match b.fileEntries[entry.1]?.bind fun file => learnedEntry formats file entry.2 with
        | none => b
        | some cfg => b.modify entry.1 fun t => { t with cfg }) =
          b.modify entry.1 (relearned formats b.fileEntries[entry.1]? entry.2) := by
      cases isLearned : b.fileEntries[entry.1]?.bind fun file => learnedEntry formats file entry.2 with
      | none =>
        rw [modify_same]
        intro t _
        rw [relearned, isLearned, Option.getD_none]
      | some cfg =>
        have change : relearned formats b.fileEntries[entry.1]? entry.2 = fun t => { t with cfg } := by
          funext t
          rw [relearned, isLearned, Option.getD_some]
        rw [change]
    rw [List.foldl_cons, learned, ih]
    rfl

/-- The settings that are taken up: the kept ones, where they differ from the file's and can run. -/
def settledCfg (formats : Formats) (file cfg : ThermostatEntry) : ThermostatEntry :=
  if formats.writeEntry file = formats.writeEntry cfg then file
  else if cfg.id == file.id && (cfg.problem formats).isNone then cfg else file

theorem learnedEntry_kept (stamps : Stamps formats) {file cfg : ThermostatEntry} {change : Json} (plain : cfg.NoNull)
    (kept : runtimeChange formats file cfg = some change) :
    (learnedEntry formats file change).getD file = settledCfg formats file cfg := by
  rw [runtimeChange] at kept
  rw [settledCfg]
  split at kept
  · cases kept
  next differ =>
    cases kept
    have based : Json.get (.obj [("based_on", formats.writeEntry file), ("entry", formats.writeEntry cfg)])
        "based_on" = some (formats.writeEntry file) := by
      rfl
    rw [if_neg differ, learnedEntry, if_pos based]
    have read : (Json.get (.obj [("based_on", formats.writeEntry file), ("entry", formats.writeEntry cfg)])
        "entry").bind formats.readEntry = some cfg := stamps.readEntry_writeEntry cfg plain
    rw [read, Option.filter_some]
    split <;> rfl

section Learned
variable (stamps : Stamps formats)

/-- Told what was kept, it has changed its thermostats, and forgotten devices they do not use. -/
theorem applyLearned_kept (quiet : Quiet c fresh b) (learnedAt : DateTime) :
    ∃ therms used, b.applyLearned formats (c.keptDocument stamps) learnedAt =
        ({ b with therms } : Controller).resubscribe used ∧
      ∀ id : String, therms[id]? = (c.keptChanges formats)[id]?.elim
        (c.therms[id]?.elim b.therms[id]? fun t =>
          b.therms[id]?.map (restoreThermo formats (runtimeOf (t.statePayload stamps)) learnedAt))
        fun kept => (c.therms[id]?.elim b.therms[id]? fun t =>
          b.therms[id]?.map (restoreThermo formats (runtimeOf (t.statePayload stamps)) learnedAt)).map
            (relearned formats b.fileEntries[id]? kept) := by
  have runtime : (((c.keptDocument stamps).get "runtime").bind Json.asObject) =
      some (c.therms.map fun _ t => runtimeOf (t.statePayload stamps)) := asObject_toList _
  have settings : (((c.keptDocument stamps).get "thermostats").bind Json.asObject) =
      some (c.keptChanges formats) := asObject_toList _
  have plain : ∀ entry ∈ (c.therms.map fun _ t => runtimeOf (t.statePayload stamps)).toList,
      entry.2.get "sensor_readings" = none := by
    intro entry listed
    rw [Std.ExtTreeMap.mem_toList_iff_getElem?_eq_some, Std.ExtTreeMap.getElem?_map,
      Option.map_eq_some_iff] at listed
    obtain ⟨t, -, isEntry⟩ := listed
    rw [← isEntry]
    exact runtimeOf_readings stamps t
  rw [applyLearned, if_neg (by rw [quiet.listening.unstarted]; exact Bool.false_ne_true)]
  simp only [runtime, settings, Option.elim_some]
  rw [restores_eq quiet.unrestored plain]
  refine ⟨_, _, congrArg (Controller.resubscribe · _) (learns_eq _), fun id => ?_⟩
  rw [getElem?_foldl_modify _ fun key kept => relearned formats b.fileEntries[key]? kept,
    getElem?_foldl_modify _ fun _ kept => restoreThermo formats kept learnedAt,
    Std.ExtTreeMap.getElem?_map]
  cases c.therms[id]? <;> rfl

theorem resubscribe_seenOf (used : List String) (device : String) :
    (b.resubscribe used).seenOf device = b.seenOf device ∨ (b.resubscribe used).seenOf device = {} := by
  rw [seenOf, seenOf, resubscribe]
  dsimp only
  rcases Maps.getElem?_foldl_erase
    (Std.ExtTreeSet.ofList (used.filter (· ∉ b.usedIds))).toList b.seen device with gone | kept
  · exact .inr (by rw [gone, Option.getD_none])
  · exact .inl (by rw [kept])

theorem Quiet.learned (quiet : Quiet c fresh b) (learnedAt : DateTime) :
    Quiet c fresh (b.applyLearned formats (c.keptDocument stamps) learnedAt) := by
  have listening : (b.applyLearned formats (c.keptDocument stamps) learnedAt).Listening Unsent :=
    quiet.listening.applyLearned unsent_lasting (c.keptDocument stamps)
  obtain ⟨therms, used, is, each⟩ := applyLearned_kept stamps quiet learnedAt
  rw [is] at listening ⊢
  refine ⟨listening, quiet.calm, quiet.unrestored, fun id => ?_, fun device => ?_⟩
  · rw [resubscribe_therms, ← quiet.same, Std.ExtTreeMap.mem_iff_isSome_getElem?,
      Std.ExtTreeMap.mem_iff_isSome_getElem?, each]
    cases (c.keptChanges formats)[id]? <;> cases c.therms[id]? <;>
      simp only [Option.elim_none, Option.elim_some, Option.isSome_map]
  · rcases @resubscribe_seenOf { b with therms } used device with kept | gone
    · rw [kept]
      exact quiet.seen device
    · exact .inl (by rw [gone])

/-- A new thermostat that is told what was kept of an old one. -/
theorem learned_found (quiet : Quiet c fresh b) (learnedAt : DateTime) {id : String} {t : Thermo}
    {file : ThermostatEntry} (plain : t.cfg.NoNull) (found : c.therms[id]? = some t)
    (filed : c.fileEntries[id]? = some file) (sameFile : b.fileEntries[id]? = some file)
    (made : b.therms[id]? = some (Thermo.new file)) :
    (b.applyLearned formats (c.keptDocument stamps) learnedAt).therms[id]? =
      some { restoredFrom formats t learnedAt (Thermo.new file) with cfg := settledCfg formats file t.cfg } := by
  obtain ⟨therms, used, is, each⟩ := applyLearned_kept stamps quiet learnedAt
  have kept : (c.keptChanges formats)[id]? = runtimeChange formats file t.cfg := by
    rw [keptChanges, Std.ExtTreeMap.getElem?_filterMap', found, Option.bind_some, filed, Option.bind_some]
  rw [is, resubscribe_therms, each, kept, found, made, sameFile, Option.elim_some, Option.map_some,
    restoreThermo_kept stamps t learnedAt rfl rfl]
  cases isChange : runtimeChange formats file t.cfg with
  | none =>
    rw [Option.elim_none, settledCfg]
    rw [runtimeChange] at isChange
    split at isChange
    next same => rw [if_pos same]; rfl
    next => cases isChange
  | some change =>
    rw [Option.elim_some, Option.map_some, relearned, Option.bind_some, ← learnedEntry_kept stamps plain isChange]
    rfl

end Learned

/-! ## Made again and told -/

theorem new_found {entries : List ThermostatEntry} {id : String} {file : ThermostatEntry}
    (filed : (new entries).fileEntries[id]? = some file) :
    (new entries).therms[id]? = some (Thermo.new file) := by
  have made : (new entries).therms[id]? = (new entries).fileEntries[id]?.map Thermo.new :=
    Maps.getElem?_ofList_map ThermostatEntry.id Thermo.new entries id
  rw [made, filed, Option.map_some]

section Told
variable {stamps : Stamps formats} (restart : Restart stamps c)

/-- The controller before it is started. -/
def Restart.booted : Controller :=
  boot formats restart.entries
    (restart.before ++ (.learned (c.keptDocument stamps), restart.learnedAt) :: restart.after)

theorem booted_found {id : String} {t : Thermo} {file : ThermostatEntry} (found : c.therms[id]? = some t)
    (filed : c.fileEntries[id]? = some file) :
    restart.booted.therms[id]? = some { restoredFrom formats t restart.learnedAt (Thermo.new file) with
      cfg := settledCfg formats file t.cfg } := by
  have inFile : (new restart.entries).fileEntries[id]? = some file := restart.sameFile ▸ filed
  obtain ⟨heardBefore, quietBefore⟩ := @Quiet.hearAll c (new restart.entries) (new restart.entries) formats
    (new_quiet c restart.entries) restart.before fun message listed =>
      restart.tells message (List.mem_append_left _ listed)
  generalize isTold : restart.before.foldl (fun c message =>
    (c.hear formats message.1 message.2).takeEffects.1) (new restart.entries) = told at heardBefore quietBefore
  have learned := learned_found stamps quietBefore restart.learnedAt (restart.payloads.2 id t found) found filed
    (heardBefore.files ▸ inFile) (heardBefore.therms ▸ new_found inFile)
  have quietLearned := quietBefore.learned stamps restart.learnedAt
  have quietLeft : Quiet c (new restart.entries)
      (told.applyLearned formats (c.keptDocument stamps) restart.learnedAt).takeEffects.1 :=
    quietLearned.of_hears ⟨rfl, rfl, rfl, rfl, rfl⟩ quietLearned.seen
  obtain ⟨heardAfter, -⟩ := @Quiet.hearAll c (new restart.entries) _ formats quietLeft restart.after
    fun message listed => restart.tells message (List.mem_append_right _ listed)
  rw [Restart.booted, boot, List.foldl_append, List.foldl_cons, isTold]
  exact heardAfter.therms ▸ learned

end Told

end Controller
end HomeCore.Thermostat
