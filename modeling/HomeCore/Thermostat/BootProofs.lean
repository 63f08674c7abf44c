import HomeCore.Thermostat.HandlerProofs

/-! Before it is started the controller only listens: nothing is asked of any switch. -/
namespace HomeCore.Thermostat.Controller
variable {c c' : Controller} {formats : Formats} {now : DateTime}

/-- Nothing was asked of the thermostat's switch yet. -/
structure Unasked (id : String) (t : Thermo) : Prop where
  keyed : t.cfg.id = id
  commanded : t.commanded = none
  confirmed : t.confirmed = false
  enteringOff : t.enteringOff = false

/-- What all that a thermostat hears and learns before the start leaves true of it. -/
structure Lasting (P : String → Thermo → Prop) : Prop where
  made (entry : ThermostatEntry) : P entry.id (.new entry)
  moved {id t} (actuator : String) (now : DateTime) (holds : P id t) : P id (t.moveTo actuator now)
  heard {id t} (prev : Option Bool) (on : Bool) (now : DateTime) (holds : P id t) :
    P id (hearSwitch false prev on now t)
  restored {id t} (formats : Formats) (p : Json) (now : DateTime) (holds : P id t) :
    P id (restoreThermo formats p now t)
  asked {id t} (device : String) (now : DateTime) (holds : P id t) : P id (askAgain device now t)
  learned {id t} (cfg : ThermostatEntry) (same : cfg.id = id) (holds : P id t) : P id { t with cfg }

/-- A controller that was not started, with what is true of its thermostats. -/
structure Listening (P : String → Thermo → Prop) (c : Controller) : Prop where
  unstarted : c.started = false
  holds : ∀ id t, c.therms[id]? = some t → P id t
  files : ∀ (id : String) entry, c.fileEntries[id]? = some entry → entry.id = id

/-- Before the start a report is taken note of, and nothing more: nothing was asked. -/
theorem hearSwitch_unasked {t : Thermo} (unasked : t.commanded = none) (prev : Option Bool)
    (on : Bool) (now : DateTime) :
    hearSwitch false prev on now t = noteReport false prev on now t := by
  obtain ⟨since, noted⟩ := noteReport_frame false prev on now t
  simp only [hearSwitch, noted, unasked]
  rfl

theorem unasked_lasting : Lasting Unasked where
  made _ := ⟨rfl, rfl, rfl, rfl⟩
  moved _ _ unasked := ⟨unasked.keyed, rfl, rfl, unasked.enteringOff⟩
  heard prev on now unasked := by
    obtain ⟨since, noted⟩ := noteReport_frame false prev on now _
    rw [hearSwitch_unasked unasked.commanded, noted]
    exact ⟨unasked.keyed, unasked.commanded, unasked.confirmed, unasked.enteringOff⟩
  restored _ _ _ unasked :=
    ⟨unasked.keyed, unasked.commanded, unasked.confirmed, unasked.enteringOff⟩
  asked device now unasked := by
    unfold askAgain
    split
    · exact ⟨unasked.keyed, unasked.commanded, unasked.confirmed, unasked.enteringOff⟩
    · exact unasked
  learned _ same unasked := ⟨same, unasked.commanded, unasked.confirmed, unasked.enteringOff⟩

theorem evaluate_of_unstarted (unstarted : c.started = false) (id : String) (now : DateTime) :
    c.evaluate id now = c := by
  unfold evaluate
  rw [unstarted]
  rfl

theorem evaluateAll_of_unstarted (unstarted : c.started = false) (ids : List String)
    (now : DateTime) : c.evaluateAll ids now = c := by
  unfold evaluateAll
  induction ids with
  | nil => rfl
  | cons id rest ih => rw [List.foldl_cons, evaluate_of_unstarted unstarted, ih]

variable {P : String → Thermo → Prop}

theorem new_listening (lasting : Lasting P) (entries : List ThermostatEntry) :
    Listening P (new entries) where
  unstarted := rfl
  holds id t found := by
    obtain ⟨entry, _, same⟩ := List.mem_map.mp (Maps.mem_of_getElem?_ofList found)
    cases same
    exact lasting.made entry
  files id entry found := by
    obtain ⟨entry, _, same⟩ := List.mem_map.mp (Maps.mem_of_getElem?_ofList found)
    cases same
    rfl

namespace Listening

/-- What is heard and seen may change as it will. -/
theorem congr (listening : Listening P c) (started : c'.started = c.started)
    (therms : c'.therms = c.therms) (files : c'.fileEntries = c.fileEntries) : Listening P c' where
  unstarted := started.trans listening.unstarted
  holds id t found := listening.holds id t (therms ▸ found)
  files id entry found := listening.files id entry (files ▸ found)

theorem modify (listening : Listening P c) {id : String} {change : Thermo → Thermo}
    (keeps : ∀ t, P id t → P id (change t)) : (c.modify id change).Listening P where
  unstarted := listening.unstarted
  holds other t found := by
    rw [Rule.modify_getElem?] at found
    by_cases same : id = other
    · subst same
      rw [if_pos rfl, Option.map_eq_some_iff] at found
      obtain ⟨before, found, rfl⟩ := found
      exact keeps before (listening.holds id before found)
    · rw [if_neg same] at found
      exact listening.holds other t found
  files := listening.files

theorem evaluate (listening : Listening P c) (id : String) (now : DateTime) :
    c.evaluate id now = c := evaluate_of_unstarted listening.unstarted id now

theorem evaluateAll (listening : Listening P c) (ids : List String) (now : DateTime) :
    c.evaluateAll ids now = c := evaluateAll_of_unstarted listening.unstarted ids now

theorem resubscribe (listening : Listening P c) (before : List String) :
    (c.resubscribe before).Listening P := listening.congr rfl rfl rfl

theorem report (listening : Listening P c) (id operation : String) (error : Option String) :
    (c.report id operation error).Listening P := by
  unfold Controller.report
  split
  · exact listening
  · exact listening.congr rfl rfl rfl

theorem switchTo (listening : Listening P c) (lasting : Lasting P) (now : DateTime)
    (id actuator : String) :
    (c.switchTo id actuator now).Listening P := by
  unfold Controller.switchTo
  split
  · exact listening
  next t found =>
  refine ⟨listening.unstarted, fun other u there => ?_, listening.files⟩
  rw [Std.ExtTreeMap.getElem?_insert] at there
  by_cases same : id = other
  · subst same
    rw [if_pos Std.ReflCmp.compare_self] at there
    cases there
    exact lasting.moved actuator now (listening.holds id t found)
  · rw [if_neg fun equal => same (Std.LawfulEqCmp.eq_of_compare equal)] at there
    exact listening.holds other u there

theorem settleCandidate (listening : Listening P c) (lasting : Lasting P) (device : String) :
    (c.settleCandidate device now).Listening P := by
  unfold Controller.settleCandidate
  dsimp only
  split
  · exact listening
  split
  · exact listening
  next candidate _ =>
  have forgotten : { c with candidates := c.candidates.erase device }.Listening P :=
    listening.congr rfl rfl rfl
  split
  · have moved := (((forgotten.switchTo lasting now candidate.thermostat device).report
      candidate.thermostat "set_actuator" none).resubscribe
        (device :: { c with candidates := c.candidates.erase device }.usedIds))
    rw [moved.evaluate]
    exact moved
  · have refused := ((forgotten.report candidate.thermostat "set_actuator"
      (some s!"{device} is a lock, not a plug or switch")).resubscribe
        (device :: { c with candidates := c.candidates.erase device }.usedIds))
    rw [refused.evaluate]
    exact refused

theorem onSensorState (listening : Listening P c) (formats : Formats) (now : DateTime)
    (device : String) (payload : Json) :
    (c.onSensorState formats device payload now).Listening P := by
  unfold Controller.onSensorState
  split
  · exact listening
  split
  · exact listening
  next r _ =>
  have read : { c with readings := c.readings.insert device r }.Listening P :=
    listening.congr rfl rfl rfl
  rw [Controller.evaluateUsing, read.evaluateAll]
  exact read

theorem onSwitchState (listening : Listening P c) (lasting : Lasting P) (device : String)
    (on : Bool) :
    (c.onSwitchState device on now).Listening P := by
  unfold Controller.onSwitchState
  dsimp only
  have seen : (c.see device fun s => { s with on := some on }).Listening P :=
    listening.congr rfl rfl rfl
  generalize (c.see device fun s => { s with on := some on }) = c' at seen
  generalize List.map _ _ = ids
  induction ids generalizing c' with
  | nil => exact seen
  | cons id rest ih =>
    rw [List.foldl_cons]
    have told : (c'.modify id (Controller.hearSwitch false (c.seenOf device).on on now)).Listening P :=
      seen.modify fun t holds => lasting.heard (c.seenOf device).on on now holds
    rw [seen.unstarted, told.evaluate]
    exact ih _ told

theorem restoreOwn (listening : Listening P c) (lasting : Lasting P) (id : String) (p : Json) :
    (restoreOwn formats c id p now).Listening P := by
  unfold Controller.restoreOwn
  split
  · exact listening
  have restored : (c.modify id (restoreThermo formats p now)).Listening P :=
    listening.modify fun t holds => lasting.restored formats p now holds
  dsimp only
  split
  · exact restored
  next readings _ =>
  generalize readings.toList = entries
  generalize c.modify id (restoreThermo formats p now) = c' at restored
  induction entries generalizing c' with
  | nil => exact restored
  | cons entry rest ih =>
    rw [List.foldl_cons]
    refine ih _ ?_
    unfold restoreReading
    split
    · exact restored.congr rfl rfl rfl
    · exact restored

theorem onState (listening : Listening P c) (lasting : Lasting P) (device : String)
    (payload : Json) :
    (c.onState formats device payload now).Listening P := by
  unfold Controller.onState
  split
  · next id _ =>
    rw [if_neg (by rw [listening.unstarted]; exact Bool.false_ne_true)]
    have remembered : { c with ownRestored := id :: c.ownRestored }.Listening P :=
      listening.congr rfl rfl rfl
    exact remembered.restoreOwn lasting id payload
  dsimp only
  generalize said : (c.see device _) = told
  have heard : told.Listening P := by
    rw [← said]
    exact listening.congr rfl rfl rfl
  have settled : (if device ∈ told.candidates then told.settleCandidate device now else told).Listening P := by
    split
    · exact heard.settleCandidate lasting device
    · exact heard
  have read := settled.onSensorState formats now device payload
  split
  · exact read
  · exact read.onSwitchState lasting device _

theorem onAvailability (listening : Listening P c) (lasting : Lasting P) (device : String)
    (online : Bool) :
    (c.onAvailability device online now).Listening P := by
  unfold Controller.onAvailability
  split
  · exact listening
  dsimp only
  have seen : (c.see device fun s => { s with online := some online }).Listening P :=
    listening.congr rfl rfl rfl
  split
  · have again : { c.see device fun s => { s with online := some online } with
        therms := c.therms.map fun _ => askAgain device now }.Listening P := by
      refine ⟨seen.unstarted, fun id t found => ?_, seen.files⟩
      rw [Std.ExtTreeMap.getElem?_map, Option.map_eq_some_iff] at found
      obtain ⟨before, found, rfl⟩ := found
      exact lasting.asked device now (listening.holds id before found)
    rw [evaluateUsing]
    exact (again.evaluateAll _ now).symm ▸ again
  · rw [evaluateUsing, seen.evaluateAll]
    exact seen

theorem learnedEntry_id {file entry : ThermostatEntry} {kept : Json}
    (learned : learnedEntry formats file kept = some entry) : entry.id = file.id := by
  unfold learnedEntry at learned
  split at learned
  · obtain ⟨_, runs⟩ := Option.filter_eq_some_iff.mp learned
    exact beq_iff_eq.mp ((Bool.and_eq_true _ _).mp runs).1
  · cases learned

theorem learned (listening : Listening P c) (lasting : Lasting P) (entry : String × Json) :
    (match c.fileEntries[entry.1]?.bind fun file => learnedEntry formats file entry.2 with
      | none => c
      | some cfg => c.modify entry.1 fun t => { t with cfg }).Listening P := by
  split
  · exact listening
  next cfg found =>
  obtain ⟨file, filed, learned⟩ := Option.bind_eq_some_iff.mp found
  refine listening.modify fun t holds => lasting.learned cfg ?_ holds
  exact (learnedEntry_id learned).trans (listening.files entry.1 file filed)

/-- A list of changes that each leave it listening. -/
theorem foldl {α : Type} {change : Controller → α → Controller}
    (keeps : ∀ c a, c.Listening P → (change c a).Listening P) (listening : Listening P c) (items : List α) :
    (items.foldl change c).Listening P := by
  induction items generalizing c with
  | nil => exact listening
  | cons a rest ih => exact ih (keeps c a listening)

theorem applyLearned (listening : Listening P c) (lasting : Lasting P) (doc : Json) :
    (applyLearned formats c doc now).Listening P := by
  unfold Controller.applyLearned
  rw [if_neg (by rw [listening.unstarted]; exact Bool.false_ne_true)]
  dsimp only
  have restores : ∀ (c : Controller) (entry : String × Json), c.Listening P →
      (if entry.1 ∉ c.ownRestored && entry.1 ∈ c.therms then
        Controller.restoreOwn formats c entry.1 entry.2 now else c).Listening P := by
    intro c entry listening
    split
    · exact listening.restoreOwn lasting entry.1 entry.2
    · exact listening
  have restored := foldl restores listening
    (((doc.get "runtime").bind Json.asObject).elim [] (·.toList))
  split
  · exact restored
  · exact (foldl (fun c entry listening => listening.learned lasting entry) restored _).resubscribe _

end Listening

theorem Listening.hear (listening : Listening P c) (lasting : Lasting P) (heard : Heard) :
    (c.hear formats heard now).Listening P := by
  cases heard with
  | state device payload => exact listening.onState lasting device payload
  | availability device online => exact listening.onAvailability lasting device online
  | learned doc => exact listening.applyLearned lasting doc

theorem boot_listening (formats : Formats) (entries : List ThermostatEntry)
    (heard : List (Heard × DateTime)) : (boot formats entries heard).Listening Unasked := by
  unfold boot
  refine Listening.foldl (fun c message listening => ?_) (new_listening unasked_lasting entries) heard
  have heard : (c.hear formats message.1 message.2).Listening Unasked :=
    listening.hear unasked_lasting message.1
  exact heard.congr rfl rfl rfl

theorem boot_fx (formats : Formats) (entries : List ThermostatEntry)
    (heard : List (Heard × DateTime)) : (boot formats entries heard).fx = [] := by
  unfold boot
  rcases List.eq_nil_or_concat heard with rfl | ⟨earlier, last, rfl⟩
  · rfl
  · rw [List.concat_eq_append, List.foldl_append]
    rfl

theorem start_started (c : Controller) (now : DateTime) : (c.start now).started = true := by
  unfold start
  dsimp only
  rw [Rule.evaluateAll_started]
  rfl

theorem registers_silent (c : Controller) :
    ((c.values.flatMap fun t => [Effect.register t.cfg, .unsubscribeOwn t.cfg.deviceId]) ++
      [Effect.reconcile c.ownIds]).filterMap Effect.sentCommand = [] := by
  rw [List.filterMap_eq_nil_iff]
  intro effect queued
  simp only [List.mem_append, List.mem_flatMap, List.mem_cons, List.not_mem_nil, or_false] at queued
  rcases queued with ⟨t, _, rfl | rfl⟩ | rfl <;> rfl

/-- Starting settles every thermostat, each with what its switch said in the meantime. -/
theorem start_all {Decided Open : View → String → Thermo → Prop} (rule : Rule now Decided Open)
    (opens : ∀ id t, c.therms[id]? = some t →
      Open c.view id (startThermo (c.view.on t.act) now t)) : (c.start now).All Decided := by
  unfold start
  dsimp only
  refine rule.evaluateAll_all rfl ?_
  intro id t found
  obtain ⟨before, there, rfl⟩ : ∃ before, c.therms[id]? = some before ∧
      startThermo (c.view.on before.act) now before = t := by
    rw [← Option.map_eq_some_iff]
    exact (Std.ExtTreeMap.getElem?_map).symm.trans found
  refine .inr ⟨?_, ?_⟩
  · rw [Std.ExtTreeMap.mem_keys, Std.ExtTreeMap.mem_iff_isSome_getElem?, there]
    rfl
  · refine rule.openLocal (v := c.view) ?_ (fun _ => rfl) (opens id before there)
    change (List.filterMap Effect.sentCommand (push _ _).fx) = _
    rw [push, List.filterMap_append, registers_silent, List.append_nil]
    rfl

end HomeCore.Thermostat.Controller
