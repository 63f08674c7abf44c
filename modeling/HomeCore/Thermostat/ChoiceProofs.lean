import HomeCore.Ledger
import HomeCore.Thermostat.ListeningProofs
import HomeCore.Thermostat.SubscriptionProofs

/-! The switch someone chooses for a thermostat. The checks are made when it is chosen, and a
choice may wait until the device shows what it is; a choice is sound where what was checked still
holds when it is settled. -/
namespace HomeCore.Thermostat

/-- The plain command: on or off, and nothing else. -/
def plainPayload (on : Bool) : Json := .obj [("on", .bool on)]

/-- What its entry has it send is the plain command. -/
def Thermo.Plain (t : Thermo) : Prop := ∀ on, t.payload on = plainPayload on

instance (t : Thermo) : Decidable t.Plain := inferInstanceAs (Decidable (∀ on, t.payload on = plainPayload on))

/-- Whose choice of a switch is answered. -/
def Effect.choiceAnswer : Effect → Option String
  | .commandResult device operation _ => if operation = "set_actuator" then some device else none
  | _ => none

/-- What is sent to a switch. -/
def Effect.sentPayload : Effect → Option (String × Bool × Json)
  | .command _ on actuator payload => some (actuator, on, payload)
  | _ => none

namespace Controller
variable {c c' c'' : Controller} {formats : Formats} {now : DateTime}

def choiceAnswers (c : Controller) : List String := c.fx.filterMap Effect.choiceAnswer

/-- The choices not answered yet: of which thermostat, and until when. -/
def awaiting (c : Controller) : List (String × DateTime) :=
  c.candidates.toList.map fun entry => ("thermostat_" ++ entry.2.thermostat, entry.2.deadline)

/-- The device is known for a lock, or it is being forgotten. -/
def Minds (c : Controller) (device : String) : Prop :=
  (c.seenOf device).lockish = true ∨ Effect.unsubscribe device ∈ c.fx

/-! ## What leaves every choice as it is -/

/-- Settings and candidates stay as they are, no choice is answered, what is sent goes to the
switch of the thermostat that sends it, as its entry says, and a lock is only forgotten where it
is unsubscribed. -/
structure Acts (c c' : Controller) : Prop where
  cfgs : ∀ id : String, (c'.therms[id]?).map Thermo.cfg = (c.therms[id]?).map Thermo.cfg
  candidates : c'.candidates = c.candidates
  answers : c'.choiceAnswers = c.choiceAnswers
  sends : ∀ effect ∈ c'.fx, effect ∈ c.fx ∨ ∀ actuator on payload,
    effect.sentPayload = some (actuator, on, payload) →
      ∃ (id : String) (t : Thermo), c.therms[id]? = some t ∧ actuator = t.act ∧ payload = t.payload on
  minds : ∀ device, c.Minds device → c'.Minds device

namespace Acts

theorem of_same (same : SameUse c c') (fx : c'.fx = c.fx)
    (locks : ∀ device, (c.seenOf device).lockish = true → (c'.seenOf device).lockish = true := by
      exact fun _ h => h) : Acts c c' where
  cfgs := same.cfgs
  candidates := same.candidates
  answers := by rw [choiceAnswers, fx, choiceAnswers]
  sends effect queued := .inl (fx ▸ queued)
  minds device minded := minded.imp (locks device) fun queued => fx ▸ queued

theorem refl (c : Controller) : Acts c c := of_same (.refl c) rfl

theorem cfg {id : String} {t' : Thermo} (acts : Acts c c') (found : c'.therms[id]? = some t') :
    ∃ t, c.therms[id]? = some t ∧ t'.cfg = t.cfg := by
  have kept := acts.cfgs id
  rw [found, Option.map_some, eq_comm, Option.map_eq_some_iff] at kept
  obtain ⟨t, there, same⟩ := kept
  exact ⟨t, there, same.symm⟩

theorem trans (first : Acts c c') (second : Acts c' c'') : Acts c c'' where
  cfgs id := (second.cfgs id).trans (first.cfgs id)
  candidates := second.candidates.trans first.candidates
  answers := second.answers.trans first.answers
  sends effect queued := by
    rcases second.sends effect queued with before | sent
    · exact first.sends effect before
    · refine .inr fun actuator on payload is => ?_
      obtain ⟨id, t', found, own, worded⟩ := sent actuator on payload is
      obtain ⟨t, there, same⟩ := first.cfg found
      refine ⟨id, t, there, ?_, ?_⟩
      · rw [own, Thermo.act, same, Thermo.act]
      · rw [worded, Thermo.payload, same, Thermo.payload]
  minds device minded := second.minds device (first.minds device minded)

/-- Effects are queued that answer no choice. -/
theorem push {effects : List Effect} (silent : effects.filterMap Effect.choiceAnswer = [])
    (sends : ∀ effect ∈ effects, ∀ actuator on payload,
      effect.sentPayload = some (actuator, on, payload) →
        ∃ (id : String) (t : Thermo), c.therms[id]? = some t ∧ actuator = t.act ∧
          payload = t.payload on) : Acts c (c.push effects) where
  cfgs _ := rfl
  candidates := rfl
  answers := by
    rw [choiceAnswers, Controller.push, List.filterMap_append, silent, List.append_nil]
    rfl
  sends effect queued := (List.mem_append.mp queued).imp_right (sends effect)
  minds _ := .imp_right fun queued => List.mem_append_left _ queued

/-- Something is seen of a device, which makes no lock of it less of one. -/
theorem see (device : String) {change : Seen → Seen}
    (locks : (c.seenOf device).lockish = true → (change (c.seenOf device)).lockish = true) :
    Acts c (c.see device change) := by
  refine of_same (.of_therms rfl rfl rfl) rfl fun other isLock => ?_
  by_cases same : other = device
  · subst same
    rw [Rule.see_seenOf]
    exact locks isLock
  · rwa [Rule.see_seenOf_of_ne same]

theorem resubscribe (before : List String) : Acts c (c.resubscribe before) where
  cfgs _ := rfl
  candidates := rfl
  answers := by
    rw [choiceAnswers, Controller.resubscribe]
    simp only [List.filterMap_append, choiceAnswers]
    rw [List.filterMap_map, List.filterMap_map]
    simp [Function.comp_def, Effect.choiceAnswer]
  sends effect queued := by
    simp only [Controller.resubscribe, List.mem_append, List.mem_map] at queued
    rcases queued with (before | ⟨device, _, rfl⟩) | ⟨device, _, rfl⟩
    · exact .inl before
    · exact .inr (by rintro _ _ _ ⟨⟩)
    · exact .inr (by rintro _ _ _ ⟨⟩)
  minds device minded := by
    rcases minded with isLock | queued
    · by_cases gone : device ∈ (Std.ExtTreeSet.ofList (before.filter (· ∉ c.usedIds))).toList
      · exact .inr (List.mem_append_right _ (List.mem_map_of_mem gone))
      · refine .inl ?_
        rw [seenOf, Controller.resubscribe]
        dsimp only
        rw [Maps.getElem?_foldl_erase_of_not_mem gone]
        exact isLock
    · exact .inr (List.mem_append_left _ (List.mem_append_left _ queued))

theorem evaluate (id : String) (now : DateTime) : Acts c (c.evaluate id now) := by
  have same := SameUse.evaluate (c := c) id now
  rw [Controller.evaluate] at same ⊢
  split
  · exact refl c
  next started =>
  rw [if_neg started] at same
  cases found : c.therms[id]? with
  | none => exact refl c
  | some t =>
    rw [found] at same
    dsimp only at same ⊢
    refine ⟨same.cfgs, rfl, ?_, fun effect queued => ?_, fun device =>
      .imp_right fun queued => List.mem_append_left _ queued⟩
    · rw [choiceAnswers, List.filterMap_append]
      generalize (t.evaluate _ _ _ now).2 = toSend
      cases toSend <;> simp [choiceAnswers, Thermo.command, Effect.choiceAnswer]
    · refine (List.mem_append.mp queued).imp_right fun sent actuator on payload is => ?_
      rw [Option.mem_toList, Option.map_eq_some_iff] at sent
      obtain ⟨w, _, rfl⟩ := sent
      cases is
      exact ⟨id, t, found, rfl, rfl⟩

theorem evaluateAll (ids : List String) (now : DateTime) : Acts c (c.evaluateAll ids now) := by
  rw [Controller.evaluateAll]
  induction ids generalizing c with
  | nil => exact refl c
  | cons id rest ih => exact (evaluate id now).trans ih

theorem onSensorState (device : String) (payload : Json) :
    Acts c (c.onSensorState formats device payload now) := by
  rw [Controller.onSensorState]
  split
  · exact refl c
  split
  · exact refl c
  · next r _ =>
    have read : Acts c { c with readings := c.readings.insert device r } :=
      of_same (.of_therms rfl rfl rfl) rfl
    exact read.trans (evaluateAll _ now)

theorem onSwitchState (device : String) (on : Bool) : Acts c (c.onSwitchState device on now) := by
  simp only [Controller.onSwitchState]
  have seen : Acts c (c.see device fun s => { s with on := some on }) := see device fun isLock => isLock
  refine seen.trans ?_
  generalize c.see device (fun s => { s with on := some on }) = c'
  generalize (c.seenOf device).on = prev
  generalize List.map _ _ = ids
  clear seen
  induction ids generalizing c' with
  | nil => exact refl c'
  | cons id rest ih =>
    have told : Acts c' (c'.modify id (hearSwitch c'.started prev on now)) :=
      of_same (.modify fun t => (hearSwitch_frame c'.started prev on now t).1) rfl
    exact (told.trans (evaluate id now)).trans (ih _)

theorem onAvailability (device : String) (online : Bool) :
    Acts c (c.onAvailability device online now) := by
  rw [Controller.onAvailability]
  split
  · exact refl c
  have seen : Acts c (c.see device fun s => { s with online := some online }) :=
    see device fun isLock => isLock
  refine Acts.trans ?_ (evaluateAll _ now)
  split
  · exact seen.trans (of_same (.of_map fun t => Rule.askAgain_cfg device t) rfl)
  · exact seen

theorem shutdown : Acts c c.shutdown := by
  rw [Controller.shutdown]
  have stops : ∀ effect ∈ c.values.flatMap fun t =>
      if t.cfg.kind != .heater || !t.active || t.act.isEmpty then []
      else if (c.seenOf t.act).on == some true || t.commanded == some true then
        [t.command t.cfg.id false t.act]
      else [], ∃ t ∈ c.values, effect = t.command t.cfg.id false t.act := by
    intro effect queued
    obtain ⟨t, member, queued⟩ := List.mem_flatMap.mp queued
    refine ⟨t, member, ?_⟩
    split at queued
    · cases queued
    split at queued
    · exact List.mem_singleton.mp queued
    · cases queued
  refine push ?_ fun effect queued actuator on payload is => ?_
  · refine List.filterMap_eq_nil_iff.mpr fun effect queued => ?_
    obtain ⟨t, _, rfl⟩ := stops effect queued
    rfl
  · obtain ⟨t, member, rfl⟩ := stops effect queued
    obtain ⟨id, found⟩ := mem_values.mp member
    cases is
    exact ⟨id, t, found, rfl, rfl⟩

theorem start (now : DateTime) : Acts c (c.start now) := by
  simp only [Controller.start]
  refine Acts.trans ?_ (evaluateAll _ now)
  have begun : Acts c { c with started := true } := of_same (.of_therms rfl rfl rfl) rfl
  have registers : ∀ effect ∈ (c.values.flatMap fun t =>
      [Effect.register t.cfg, .unsubscribeOwn t.cfg.deviceId]) ++ [.reconcile c.ownIds],
      effect.choiceAnswer = none ∧ effect.sentPayload = none := by
    intro effect queued
    simp only [List.mem_append, List.mem_flatMap, List.mem_cons, List.not_mem_nil, or_false] at queued
    rcases queued with ⟨t, _, rfl | rfl⟩ | rfl <;> exact ⟨rfl, rfl⟩
  refine (begun.trans (push ?_ fun effect queued actuator on payload is => ?_)).trans
    (of_same (.of_map fun _ => rfl) rfl)
  · exact List.filterMap_eq_nil_iff.mpr fun effect queued => (registers effect queued).1
  · rw [(registers effect queued).2] at is
    cases is

end Acts

/-! ## What a command changes -/

/-- The device is the switch of the thermostat, or awaited to become it. -/
def Wants (c : Controller) (t : Thermo) (id device : String) : Prop :=
  device = t.act ∨ (c.candidates[device]?).map Candidate.thermostat = some id

/-- A thermostat keeps its switch and what it sends to it, and no device that it holds becomes
one of its sensors. -/
structure SameSwitch (held : String → Prop) (t t' : Thermo) : Prop where
  id : t'.cfg.id = t.cfg.id := by rfl
  act : t'.act = t.act := by rfl
  payload : ∀ on, t'.payload on = t.payload on := by exact fun _ => rfl
  apart : ∀ device, held device → device ∉ t.cfg.sensorDeviceIds → device ∉ t'.cfg.sensorDeviceIds := by
    exact fun _ _ h => h

theorem SameSwitch.trans {held held' : String → Prop} {t t' t'' : Thermo}
    (first : SameSwitch held t t') (second : SameSwitch held' t' t'')
    (holds : ∀ device, held device → held' device) : SameSwitch held t t'' where
  id := second.id.trans first.id
  act := second.act.trans first.act
  payload on := (second.payload on).trans (first.payload on)
  apart device isHeld := second.apart device (holds device isHeld) ∘ first.apart device isHeld

/-- Only settings are changed. -/
structure Alters (c c' : Controller) : Prop where
  candidates : c'.candidates = c.candidates
  fx : c'.fx = c.fx
  seen : c'.seen = c.seen
  therms : ∀ (id : String) t', c'.therms[id]? = some t' →
    ∃ t, c.therms[id]? = some t ∧ SameSwitch (c.Wants t id) t t'
  keeps : ∀ id, id ∈ c.therms → id ∈ c'.therms

namespace Alters

theorem refl (c : Controller) : Alters c c :=
  ⟨rfl, rfl, rfl, fun _ t found => ⟨t, found, {}⟩, fun _ => id⟩

theorem trans (first : Alters c c') (second : Alters c' c'') : Alters c c'' where
  candidates := second.candidates.trans first.candidates
  fx := second.fx.trans first.fx
  seen := second.seen.trans first.seen
  therms id t'' found := by
    obtain ⟨t', found, later⟩ := second.therms id t'' found
    obtain ⟨t, found, earlier⟩ := first.therms id t' found
    refine ⟨t, found, earlier.trans later fun device held => ?_⟩
    rwa [Wants, earlier.act, first.candidates]
  keeps id := second.keeps id ∘ first.keeps id

theorem modify {id : String} {change : Thermo → Thermo}
    (same : ∀ t, c.therms[id]? = some t → SameSwitch (c.Wants t id) t (change t)) :
    Alters c (c.modify id change) where
  candidates := rfl
  fx := rfl
  seen := rfl
  therms other t' found := by
    rw [Rule.modify_getElem?] at found
    split at found
    · next equal =>
      rw [Option.map_eq_some_iff] at found
      obtain ⟨t, found, rfl⟩ := found
      exact ⟨t, equal ▸ found, equal ▸ same t found⟩
    · exact ⟨t', found, {}⟩
  keeps other present := by
    rw [Std.ExtTreeMap.mem_iff_isSome_getElem?] at present ⊢
    rw [Rule.modify_getElem?]
    split
    · next equal =>
      subst equal
      rwa [Option.isSome_map]
    · exact present

end Alters

/-- Settings are changed, and the command is answered at once. -/
def Prompt (c : Controller) (result : Controller × Outcome) : Prop :=
  Alters c result.1 ∧ result.2 ≠ .later

namespace Prompt
variable {id : String} {t : Thermo}

theorem refused (error : String) : Prompt c (c, .refused error) := ⟨.refl c, by rintro ⟨⟩⟩

theorem done {change : Thermo → Thermo}
    (same : ∀ t, c.therms[id]? = some t → SameSwitch (c.Wants t id) t (change t)) :
    Prompt c (c.modify id change, .done) := ⟨.modify same, by rintro ⟨⟩⟩

theorem setSetpoint (v : Rat) : Prompt c (c.setSetpoint formats id v) := by
  rw [Controller.setSetpoint]
  split
  · exact refused _
  · exact done fun _ _ => {}

theorem setMode (m : String) : Prompt c (c.setMode id t m) := by
  rw [Controller.setMode]
  split
  · exact refused _
  · next mode _ =>
    refine done fun u _ => ?_
    split
    · rw [changeMode]
      split <;> exact {}
    · exact {}

theorem holdFor (p : Json) : Prompt c (c.holdFor formats id p now) := by
  rw [Controller.holdFor]
  split
  · exact refused _
  split
  · exact refused _
  dsimp only
  split
  · exact refused _
  split
  · exact done fun _ _ => {}
  · exact refused _

theorem setShortCycle (p : Json) : Prompt c (c.setShortCycle id p) := by
  simp only [Controller.setShortCycle]
  split
  · exact refused _
  split
  · exact refused _
  · exact done fun _ _ => {}

/-- The switch is none of the new sensors, and neither is what is awaited as one. -/
theorem setSensors (found : c.therms[id]? = some t) (p : Json)
    (free : ∀ ids, (p.get "sensor_ids").bind sensorIdsOf = some ids →
      ∀ device ∈ ids, (c.candidates[device]?).map Candidate.thermostat ≠ some id) :
    Prompt c (c.setSensors id t p now) := by
  simp only [Controller.setSensors]
  split
  · exact refused _
  split
  · exact refused _
  split
  · exact refused _
  next other =>
  split
  · exact refused _
  refine done fun u there => ?_
  cases found.symm.trans there
  refine { apart := fun device held apart => ?_ }
  cases named : (p.get "sensor_ids").bind sensorIdsOf with
  | none => exact apart
  | some ids =>
    rw [named, Option.any_some, decide_eq_true_eq] at other
    rcases held with rfl | awaited
    · exact other
    · exact fun sensor => free ids named device sensor awaited

theorem writeAttributes (p : Json) : Prompt c (c.writeAttributes formats id t p) := by
  rw [Controller.writeAttributes]
  obtain ⟨setpoint, mode⟩ := attributeWrites p
  cases mode with
  | none =>
    cases setpoint with
    | none => exact refused _
    | some v => exact setSetpoint v
  | some m =>
    have moded : Prompt c (c.setMode id t m) := setMode m
    cases setpoint with
    | none => exact moded
    | some v =>
      dsimp only
      generalize c.setMode id t m = result at moded
      obtain ⟨c', outcome⟩ := result
      have valued : Prompt c' (c'.setSetpoint formats id v) := setSetpoint v
      cases outcome with
      | refused error => exact ⟨moded.1, by rintro ⟨⟩⟩
      | done => exact ⟨moded.1.trans valued.1, valued.2⟩
      | later => exact ⟨moded.1.trans valued.1, valued.2⟩

/-- Every command but the choice of a switch changes settings alone. -/
theorem applyCommand (found : c.therms[id]? = some t) {cmd : String} (other : cmd ≠ "set_actuator")
    (p : Json) (free : cmd = "set_sensors" → ∀ ids, (p.get "sensor_ids").bind sensorIdsOf = some ids →
      ∀ device ∈ ids, (c.candidates[device]?).map Candidate.thermostat ≠ some id) :
    Prompt c (c.applyCommand formats id cmd t p now) := by
  simp only [Controller.applyCommand]
  split
  · split
    · exact refused _
    · exact setSetpoint _
  · split
    · exact refused _
    · exact setMode _
  · exact writeAttributes p
  · exact holdFor p
  · exact done fun _ _ => {}
  · exact done fun _ _ => {}
  · exact done fun _ _ => {}
  · exact done fun _ _ => {}
  · split
    · exact refused _
    split
    · exact done fun _ _ => {}
    · exact refused _
  · split
    · exact refused _
    · exact done fun _ _ => {}
  · exact setShortCycle p
  · exact setSensors found p (free rfl)
  · exact absurd rfl other
  · exact refused _

end Prompt

theorem ownId_eq {device id : String} (own : c.ownId device = some id) :
    device = "thermostat_" ++ id ∧ id ∈ c.therms := by
  obtain ⟨named, present⟩ := Option.filter_eq_some_iff.mp own
  obtain ⟨rest, stripped, rfl⟩ := Option.map_eq_some_iff.mp named
  obtain ⟨first, split, same⟩ := List.dropPrefix?_eq_some_iff.mp stripped
  refine ⟨?_, of_decide_eq_true present⟩
  rw [beq_iff_eq] at same
  rw [← String.toList_inj, split, same, String.toList_append]
  exact congrArg ("thermostat_".toList ++ ·) String.toList_ofList.symm

theorem ownId_of_other {device : String}
    (other : ¬ "thermostat_".toList.isPrefixOf device.toList = true) : c.ownId device = none := by
  rw [ownId, Option.filter_eq_none_iff]
  intro id named
  obtain ⟨rest, stripped, rfl⟩ := Option.map_eq_some_iff.mp named
  obtain ⟨first, split, same⟩ := List.dropPrefix?_eq_some_iff.mp stripped
  refine absurd (List.isPrefixOf_iff_prefix.mpr ⟨rest, ?_⟩) other
  rw [beq_iff_eq] at same
  rw [← same]
  exact split.symm

/-- The choice waits until the device shows what it is. -/
def defers (c : Controller) (t : Thermo) (p : Json) : Bool :=
  !(p.get "on_cmd").isSome && !(p.get "off_cmd").isSome &&
    ((p.get "device_id").bind Json.asStr).any fun device => !device.isEmpty &&
      !"thermostat_".toList.isPrefixOf device.toList && device ∉ t.cfg.sensorDeviceIds &&
        device ≠ t.act && !(c.seenOf device).hasOn && !(c.seenOf device).lockish

/-- What becomes of a choice: it is answered, and the switch changed where it is to, or it waits. -/
inductive SetActuator (c : Controller) (id : String) (t : Thermo) (p : Json) (now : DateTime) :
    Controller × Outcome → Prop where
  | stays (outcome : Outcome) (prompt : outcome ≠ .later) : SetActuator c id t p now (c, outcome)
  | moved (device : String) (named : (p.get "device_id").bind Json.asStr = some device)
      (chosen : c.chosenNow t p = true)
      (apart : device.isEmpty = false → device ∉ t.cfg.sensorDeviceIds ∧ c.ownId device = none ∧
        (c.seenOf device).lockish = false) :
      SetActuator c id t p now (c.switchTo id device now, .done)
  | awaits (device : String) (named : (p.get "device_id").bind Json.asStr = some device)
      (waits : c.defers t p = true) (apart : device ∉ t.cfg.sensorDeviceIds) :
      SetActuator c id t p now ({ c with
        candidates := c.candidates.insert device ⟨id, now + secs candidateSecs⟩ }, .later)

theorem setActuator_cases (c : Controller) (id : String) (t : Thermo) (p : Json) (now : DateTime) :
    SetActuator c id t p now (c.setActuator id t p now) := by
  rw [setActuator]
  split
  · exact .stays _ (by rintro ⟨⟩)
  next plain =>
  rw [Bool.or_eq_true, not_or, Bool.not_eq_true, Bool.not_eq_true] at plain
  split
  · exact .stays _ (by rintro ⟨⟩)
  next device named =>
  split
  · next empty =>
    have noDevice : device = "" := by simpa using empty
    subst noDevice
    refine .moved "" named ?_ ?_
    · rw [chosenNow, plain.1, plain.2, named]
      simp
    · intro nonempty
      cases nonempty
  next nonempty =>
  split
  · exact .stays _ (by rintro ⟨⟩)
  next other =>
  split
  · exact .stays _ (by rintro ⟨⟩)
  next noSensor =>
  split
  · exact .stays _ (by rintro ⟨⟩)
  next moves =>
  split
  · next shown =>
    rw [Bool.and_eq_true] at shown
    rw [Bool.not_eq_true'] at shown
    refine .moved device named ?_ fun _ => ⟨noSensor, ownId_of_other other, shown.2⟩
    rw [chosenNow, plain.1, plain.2, named, Option.any_some, shown.1, shown.2]
    rw [Bool.not_eq_true] at other
    rw [other]
    simp [noSensor, moves]
  next unshown =>
  split
  · exact .stays _ (by rintro ⟨⟩)
  next noLock =>
  refine .awaits device named ?_ noSensor
  rw [Bool.not_eq_true] at noLock nonempty other
  rw [noLock, Bool.not_false, Bool.and_true, Bool.not_eq_true] at unshown
  rw [defers, plain.1, plain.2, named, Option.any_some, noLock, unshown, nonempty, other]
  simp [noSensor, moves]

/-- A command that was carried out is reported under the thermostat's own device. -/
theorem report_answers {id : String} {t : Thermo} (found : c.therms[id]? = some t)
    (keyed : t.cfg.id = id) (operation : String) (error : Option String) :
    (c.report id operation error).choiceAnswers =
      c.choiceAnswers ++ if operation = "set_actuator" then ["thermostat_" ++ id] else [] := by
  rw [report, found]
  dsimp only
  rw [choiceAnswers, push, List.filterMap_append, ← choiceAnswers, ThermostatEntry.deviceId, keyed]
  split
  · next choice =>
    rw [choice]
    rfl
  · next other => simp [Effect.choiceAnswer, other]

theorem switchTo_answers (id device : String) :
    (c.switchTo id device now).choiceAnswers = c.choiceAnswers := by
  rw [switchTo]
  split
  · rfl
  · next t _ =>
    rw [choiceAnswers, List.filterMap_append, ← choiceAnswers]
    split <;> simp [Thermo.command, Effect.choiceAnswer]

theorem switchTo_candidates (id device : String) :
    (c.switchTo id device now).candidates = c.candidates := by
  rw [switchTo]
  split <;> rfl

theorem switchTo_minds (id device : String) {other : String} (minded : c.Minds other) :
    (c.switchTo id device now).Minds other := by
  rw [switchTo]
  split
  · exact minded
  · exact minded.imp_right fun queued => List.mem_append_left _ queued

theorem report_minds (id operation : String) (error : Option String) {other : String}
    (minded : c.Minds other) : (c.report id operation error).Minds other := by
  rw [report]
  split
  · exact minded
  · exact minded.imp_right fun queued => List.mem_append_left _ queued

theorem report_candidates (id operation : String) (error : Option String) :
    (c.report id operation error).candidates = c.candidates := by
  rw [report]
  split <;> rfl

/-- A candidate no longer awaited was the one choice that waited for it. -/
theorem awaiting_erase {device : String} {candidate : Candidate}
    (found : c.candidates[device]? = some candidate) :
    c.awaiting.Perm (("thermostat_" ++ candidate.thermostat, candidate.deadline) ::
      { c with candidates := c.candidates.erase device }.awaiting) :=
  (Maps.toList_erase_perm found).map _

theorem awaiting_insert {device : String} (absent : c.candidates[device]? = none)
    (candidate : Candidate) :
    { c with candidates := c.candidates.insert device candidate }.awaiting.Perm
      (("thermostat_" ++ candidate.thermostat, candidate.deadline) :: c.awaiting) :=
  (Maps.toList_insert_perm absent candidate).map _

end Controller

/-! ## Whole runs -/

/-- A controller as it runs, with what became of the choices of a switch. -/
structure ChoiceWatch where
  ctl : Controller
  /-- The devices that have reported `locked`. -/
  locks : List String
  /-- Those of them that it unsubscribed from since, forgetting what it had seen, or that it
  knew nothing of from the start. -/
  forgotten : List String
  /-- The switches chosen while it ran. -/
  chosen : List String := []
  /-- Those that had reported `locked` when they were chosen. -/
  lockedChoices : List String := []
  /-- What was sent to a chosen switch other than the plain command. -/
  strange : List (String × Bool × Json) := []
  /-- The choices asked for: for which thermostat, and until when they may wait. -/
  asked : List (String × DateTime) := []
  answered : List String := []
  /-- When it was ticked, if nothing has come since. -/
  ticked : Option DateTime := none

namespace ChoiceWatch
variable {w : ChoiceWatch} {formats : Formats} {now : DateTime}

def locksTold : Operation → List String
  | .input (.state device payload) => if (payload.get "locked").isSome then [device] else []
  | _ => []

/-- The switches that thermostats have now and had not before. -/
def newSwitches (before after : Controller) : List String :=
  (after.therms.toList.filter fun entry => !entry.2.act.isEmpty &&
    before.therms[entry.1]?.map Thermo.act != some entry.2.act).map (·.2.act)

def asks (c : Controller) (operation : Operation) (now : DateTime) : List (String × DateTime) :=
  match operation with
  | .input (.command device payload) =>
    if operationOf payload = "set_actuator" ∧ (c.ownId device).isSome then
      [(device, now + secs candidateSecs)]
    else []
  | _ => []

def ticksAt (operation : Operation) (now : DateTime) : Option DateTime :=
  match operation with
  | .input .tick | .input (.recalculateAll _) => some now
  | _ => none

/-- The controller took an operation in, and its effects are carried out. -/
def after (w : ChoiceWatch) (c : Controller) (operation : Operation) (now : DateTime) :
    ChoiceWatch :=
  let locks := w.locks ++ locksTold operation
  let chosen := w.chosen ++ newSwitches w.ctl c
  { ctl := c.takeEffects.1
    locks
    forgotten := w.forgotten ++ locks.filter (Effect.unsubscribe · ∈ c.fx)
    chosen
    lockedChoices := w.lockedChoices ++ (newSwitches w.ctl c).filter (· ∈ locks)
    strange := w.strange ++ (c.fx.filterMap Effect.sentPayload).filter fun sent =>
      sent.1 ∈ chosen ∧ sent.2.2 ≠ plainPayload sent.2.1
    asked := w.asked ++ asks w.ctl operation now
    answered := w.answered ++ c.choiceAnswers
    ticked := ticksAt operation now }

def step (formats : Formats) (w : ChoiceWatch) (operation : Operation × DateTime) : ChoiceWatch :=
  w.after (w.ctl.operate formats operation.1 operation.2) operation.1 operation.2

/-- Devices have reported `locked` before, whether the controller knows of it or not. -/
def begin (c : Controller) (locks : List String) : ChoiceWatch :=
  { ctl := c, locks, forgotten := locks.filter fun device => !(c.seenOf device).lockish }

/-- No thermostat's switch is one of its sensors, a thermostat, or a device that had reported
`locked` when it was chosen; a chosen switch was only sent the plain command; and every choice
was answered once, or waits with its time not run out. -/
structure Holds (w : ChoiceWatch) : Prop where
  apart : ∀ t ∈ w.ctl.values, t.act.isEmpty = false →
    t.act ∉ t.cfg.sensorDeviceIds ∧ w.ctl.ownId t.act = none
  noLock : w.lockedChoices = []
  plain : w.strange = []
  answered : Ledger.Balanced Prod.fst w.asked w.ctl.awaiting w.answered
  inTime : ∀ choice ∈ w.ctl.awaiting, ∀ tick ∈ w.ticked, tick < choice.2

/-! ### What is asked of a run -/

/-- The thermostat that is given another switch, and the switch. -/
def chooses (c : Controller) : Operation → Option (Thermo × String)
  | .input (.state device payload) =>
    if (c.ownId device).isNone && c.shownSwitch device payload then
      (c.candidates[device]?.bind fun candidate => c.therms[candidate.thermostat]?).map (·, device)
    else none
  | .input (.command device payload) =>
    if commandOf payload = "set_actuator" then
      ((c.ownId device).bind (c.therms[·]?)).bind fun t =>
        if c.chosenNow t payload then
          (((payload.get "device_id").bind Json.asStr).filter (!·.isEmpty)).map (t, ·)
        else none
    else none
  | _ => none

/-- A choice is to wait for a device that another choice waits for. -/
def overwrites (c : Controller) : Operation → Bool
  | .input (.command device payload) => commandOf payload == "set_actuator" &&
      ((c.ownId device).bind (c.therms[·]?)).any fun t => c.defers t payload &&
        ((payload.get "device_id").bind Json.asStr).any (· ∈ c.candidates)
  | _ => false

/-- A thermostat is to read a device that it awaits as its switch. -/
def crowds (c : Controller) : Operation → Bool
  | .input (.command device payload) => commandOf payload == "set_sensors" &&
      (c.ownId device).any fun id => ((payload.get "sensor_ids").bind sensorIdsOf).any fun ids =>
        ids.any fun sensor => (c.candidates[sensor]?).map Candidate.thermostat == some id
  | _ => false

/-- Thermostats neither come nor go, and are not learned anew. -/
def staysPut : Operation → Bool
  | .learned _ | .input (.add _) | .input (.remove _) => false
  | _ => true

/-- No thermostat is given a sensor that it awaits as its switch, and no choice waits for what
another waits for. A switch that is chosen is not a lock that was forgotten, and whoever uses it
sends the plain command. -/
def ChoosesWell (w : ChoiceWatch) (operation : Operation) : Prop :=
  staysPut operation = true ∧ overwrites w.ctl operation = false ∧ crowds w.ctl operation = false ∧
    ∀ choice ∈ chooses w.ctl operation, choice.2 ∉ w.forgotten ∧ choice.1.Plain ∧
      ∀ t ∈ w.ctl.values, t.act = choice.2 → t.Plain

/-- What a run starts from: each thermostat under its own id, with a switch that is none of its
sensors and no thermostat, and no choice waiting. -/
structure Starts (c : Controller) : Prop where
  keyed : ∀ (id : String) (t : Thermo), c.therms[id]? = some t → t.cfg.id = id
  apart : ∀ t ∈ c.values, t.act.isEmpty = false → t.act ∉ t.cfg.sensorDeviceIds ∧ c.ownId t.act = none
  calm : c.candidates = ∅
  idle : c.fx = []

/-! ### What each step keeps -/

/-- The device that a thermostat is given is not a lock that was forgotten, and whoever uses it sends
the plain command. -/
structure Fits (w : ChoiceWatch) (c : Controller) (t : Thermo) (device : String) : Prop where
  known : device ∉ w.forgotten
  plain : t.Plain
  users : ∀ (id : String) u, c.therms[id]? = some u → u.act = device → u.Plain

/-- How things stand while an operation is carried out that has chosen these new switches, when
these devices have reported `locked`. -/
structure Midway (w : ChoiceWatch) (locks news : List String) (c : Controller) : Prop where
  keyed : ∀ (id : String) (t : Thermo), c.therms[id]? = some t → t.cfg.id = id
  apart : ∀ (id : String) (t : Thermo), c.therms[id]? = some t → t.act.isEmpty = false →
    t.act ∉ t.cfg.sensorDeviceIds ∧ c.ownId t.act = none
  plain : ∀ (id : String) (t : Thermo), c.therms[id]? = some t → t.act ∈ w.chosen ++ news → t.Plain
  moved : ∀ (id : String) (t : Thermo), c.therms[id]? = some t →
    t.act.isEmpty = true ∨ w.ctl.therms[id]?.map Thermo.act = some t.act ∨ t.act ∈ news
  awaited : ∀ (device : String) candidate, c.candidates[device]? = some candidate →
    ∃ t, c.therms[candidate.thermostat]? = some t ∧ device ∉ t.cfg.sensorDeviceIds
  minded : ∀ device ∈ locks, (c.ownId device).isSome ∨ c.Minds device ∨ device ∈ w.forgotten
  noLock : ∀ device ∈ news, device ∉ locks
  sent : ∀ effect ∈ c.fx, ∀ actuator on payload, effect.sentPayload = some (actuator, on, payload) →
    actuator ∈ w.chosen ++ news → payload = plainPayload on
  named : ∀ device ∈ w.chosen ++ news, device.isEmpty = false

namespace Midway
variable {locks news : List String} {c c' : Controller}

theorem found_of_mem {id : String} (present : id ∈ c.therms) : ∃ t, c.therms[id]? = some t :=
  Option.isSome_iff_exists.mp (Std.ExtTreeMap.mem_iff_isSome_getElem?.mp present)

theorem mem_of_found {id : String} {t : Thermo} (found : c.therms[id]? = some t) : id ∈ c.therms := by
  rw [Std.ExtTreeMap.mem_iff_isSome_getElem?, found]
  rfl

theorem acts_mem (acts : c.Acts c') (id : String) : id ∈ c'.therms ↔ id ∈ c.therms := by
  have same := congrArg Option.isSome (acts.cfgs id)
  rw [Option.isSome_map, Option.isSome_map] at same
  rw [Std.ExtTreeMap.mem_iff_isSome_getElem?, Std.ExtTreeMap.mem_iff_isSome_getElem?, same]

theorem found_of_cfg (acts : c.Acts c') {id : String} {t : Thermo} (found : c.therms[id]? = some t) :
    ∃ t', c'.therms[id]? = some t' ∧ t'.cfg = t.cfg := by
  have same := acts.cfgs id
  rw [found] at same
  exact Option.map_eq_some_iff.mp same

/-- Which of the devices are thermostats hangs on which thermostats there are. -/
theorem ownId_congr (same : ∀ id, id ∈ c'.therms ↔ id ∈ c.therms) (device : String) :
    c'.ownId device = c.ownId device := by
  rw [Controller.ownId, Controller.ownId]
  congr 1
  funext id
  exact decide_eq_decide.mpr (same id)

theorem acts (midway : Midway w locks news c) (acts : c.Acts c') : Midway w locks news c' where
  keyed id t' found := by
    obtain ⟨t, there, same⟩ := acts.cfg found
    rw [same]
    exact midway.keyed id t there
  apart id t' found := by
    obtain ⟨t, there, same⟩ := acts.cfg found
    rw [Thermo.act, same, ownId_congr (acts_mem acts)]
    exact midway.apart id t there
  plain id t' found := by
    obtain ⟨t, there, same⟩ := acts.cfg found
    simp only [Thermo.act, Thermo.Plain, Thermo.payload, same]
    exact midway.plain id t there
  moved id t' found := by
    obtain ⟨t, there, same⟩ := acts.cfg found
    rw [Thermo.act, same]
    exact midway.moved id t there
  awaited device candidate found := by
    obtain ⟨t, there, apart⟩ := midway.awaited device candidate (acts.candidates ▸ found)
    obtain ⟨t', found', same⟩ := found_of_cfg acts there
    rw [← same] at apart
    exact ⟨t', found', apart⟩
  minded device locked := by
    rw [ownId_congr (acts_mem acts)]
    exact (midway.minded device locked).imp_right fun known => known.imp_left (acts.minds device)
  noLock := midway.noLock
  sent effect queued actuator on payload is chosen := by
    rcases acts.sends effect queued with before | sent
    · exact midway.sent effect before actuator on payload is chosen
    · obtain ⟨id, t, found, rfl, rfl⟩ := sent actuator on payload is
      exact midway.plain id t found chosen on
  named := midway.named

theorem alters (midway : Midway w locks news c) (alters : c.Alters c') : Midway w locks news c' := by
  have present (id : String) : id ∈ c'.therms ↔ id ∈ c.therms := by
    constructor
    · intro there
      obtain ⟨t', found⟩ := found_of_mem there
      obtain ⟨t, found, _⟩ := alters.therms id t' found
      rw [Std.ExtTreeMap.mem_iff_isSome_getElem?, found]
      rfl
    · exact alters.keeps id
  constructor
  · intro id t' found
    obtain ⟨t, there, same⟩ := alters.therms id t' found
    exact same.id.trans (midway.keyed id t there)
  · intro id t' found switch
    obtain ⟨t, there, same⟩ := alters.therms id t' found
    rw [same.act] at switch
    obtain ⟨noSensor, other⟩ := midway.apart id t there switch
    rw [ownId_congr present, same.act]
    exact ⟨same.apart t.act (.inl rfl) noSensor, other⟩
  · intro id t' found chosen on
    obtain ⟨t, there, same⟩ := alters.therms id t' found
    rw [same.payload]
    exact midway.plain id t there (same.act ▸ chosen) on
  · intro id t' found
    obtain ⟨t, there, same⟩ := alters.therms id t' found
    rw [same.act]
    exact midway.moved id t there
  · intro device candidate found
    rw [alters.candidates] at found
    obtain ⟨t, there, apart⟩ := midway.awaited device candidate found
    obtain ⟨t', found'⟩ := found_of_mem (alters.keeps _ (mem_of_found there))
    obtain ⟨u, there', same⟩ := alters.therms _ t' found'
    cases there.symm.trans there'
    refine ⟨t', found', same.apart device (.inr ?_) apart⟩
    rw [found, Option.map_some]
  · intro device locked
    rw [ownId_congr present, Controller.Minds, Controller.seenOf, alters.seen, alters.fx]
    exact midway.minded device locked
  · exact midway.noLock
  · rw [alters.fx]
    exact midway.sent
  · exact midway.named

/-- Candidates come and go, of thermostats that are there. -/
theorem candidates (midway : Midway w locks news c) {kept : Std.ExtTreeMap String Candidate}
    (awaited : ∀ (device : String) (candidate : Candidate), kept[device]? = some candidate →
      ∃ t, c.therms[candidate.thermostat]? = some t ∧ device ∉ t.cfg.sensorDeviceIds) :
    Midway w locks news { c with candidates := kept } where
  keyed := midway.keyed
  apart := midway.apart
  plain := midway.plain
  moved := midway.moved
  awaited := awaited
  minded := midway.minded
  noLock := midway.noLock
  sent := midway.sent
  named := midway.named

theorem erase (midway : Midway w locks news c) (device : String) :
    Midway w locks news { c with candidates := c.candidates.erase device } := by
  refine midway.candidates fun other candidate found => ?_
  rw [Std.ExtTreeMap.getElem?_erase] at found
  split at found
  · cases found
  · exact midway.awaited other candidate found

theorem report (midway : Midway w locks news c) (id operation : String) (error : Option String) :
    Midway w locks news (c.report id operation error) := by
  have minds {device : String} : c.Minds device → (c.report id operation error).Minds device :=
    Controller.report_minds id operation error
  rw [Controller.report] at minds ⊢
  split at minds
  · exact midway
  next t _ =>
  refine { midway with
    minded := fun device locked => (midway.minded device locked).imp_right (.imp_left minds)
    sent := fun effect queued actuator on payload is => ?_ }
  rcases List.mem_append.mp queued with before | reported
  · exact midway.sent effect before actuator on payload is
  · cases List.mem_singleton.mp reported
    cases is

/-- A thermostat is given another switch, or none. -/
theorem switchTo (midway : Midway w locks [] c) (now : DateTime) (idle : c.fx = []) {id device : String}
    {t : Thermo} (found : c.therms[id]? = some t)
    (apart : device.isEmpty = false → device ∉ t.cfg.sensorDeviceIds ∧ c.ownId device = none ∧
      (c.seenOf device).lockish = false)
    (fits : device.isEmpty = false → Fits w c t device) :
    Midway w locks (if device.isEmpty then [] else [device]) (c.switchTo id device now) := by
  have inNews {d : String} (chosen : d ∈ w.chosen ++ if device.isEmpty then [] else [device]) :
      d ∈ w.chosen ++ [] ∨ device.isEmpty = false ∧ d = device := by
    cases empty : device.isEmpty with
    | true => exact .inl (by simpa [empty] using chosen)
    | false => simpa [empty] using chosen
  have there (other : String) : (c.therms.insert id (t.moveTo device now))[other]? =
      if other = id then some (t.moveTo device now) else c.therms[other]? := by
    rw [Std.ExtTreeMap.getElem?_insert]
    simp only [Std.compare_eq_iff_eq, eq_comm (a := id)]
  have present (other : String) : other ∈ c.therms.insert id (t.moveTo device now) ↔
      other ∈ c.therms := by
    rw [Std.ExtTreeMap.mem_iff_isSome_getElem?, Std.ExtTreeMap.mem_iff_isSome_getElem?, there]
    split
    · next same => simp [same, found]
    · rfl
  have named : ∀ d ∈ w.chosen ++ (if device.isEmpty then [] else [device]), d.isEmpty = false := by
    intro d chosen
    rcases inNews chosen with before | ⟨some, rfl⟩
    · exact midway.named d before
    · exact some
  have minds {other : String} : c.Minds other → (c.switchTo id device now).Minds other :=
    Controller.switchTo_minds id device
  rw [Controller.switchTo, found] at minds ⊢
  constructor
  · intro other u at'
    rw [there] at at'
    split at at'
    · next same =>
      cases at'
      exact (midway.keyed id t found).trans same.symm
    · exact midway.keyed other u at'
  · intro other u at' switch
    rw [ownId_congr present]
    rw [there] at at'
    split at at'
    · cases at'
      exact ⟨(apart switch).1, (apart switch).2.1⟩
    · exact midway.apart other u at' switch
  · intro other u at' chosen
    rw [there] at at'
    split at at'
    · cases at'
      have switch : device.isEmpty = false := named device chosen
      exact (fits switch).plain
    · rcases inNews chosen with before | ⟨switch, same⟩
      · exact midway.plain other u at' before
      · exact (fits switch).users other u at' same
  · intro other u at'
    rw [there] at at'
    split at at'
    · cases at'
      cases empty : device.isEmpty with
      | true => exact .inl empty
      | false => exact .inr (.inr (List.mem_singleton.mpr rfl))
    · exact (midway.moved other u at').imp_right fun kept => .inl (kept.resolve_right (by rintro ⟨⟩))
  · intro other candidate awaited
    obtain ⟨u, at', noSensor⟩ := midway.awaited other candidate awaited
    dsimp only
    rw [there]
    split
    · next same =>
      rw [same] at at'
      cases found.symm.trans at'
      exact ⟨_, rfl, noSensor⟩
    · exact ⟨u, at', noSensor⟩
  · intro other locked
    rw [ownId_congr present]
    exact (midway.minded other locked).imp_right (.imp_left minds)
  · -- a lock that was not forgotten is known for one
    intro other new locked
    split at new
    · cases new
    next switch =>
    rw [Bool.not_eq_true] at switch
    cases List.mem_singleton.mp new
    obtain ⟨_, notOwn, noLock⟩ := apart switch
    rcases midway.minded device locked with own | (isLock | queued) | forgot
    · rw [notOwn] at own
      cases own
    · rw [noLock] at isLock
      cases isLock
    · rw [idle] at queued
      cases queued
    · exact (fits switch).known forgot
  · intro effect queued actuator on payload is chosen
    have queued : effect ∈ if c.runsSwitch t then [t.command id false t.act] else [] := by
      simpa [idle] using queued
    split at queued
    · cases List.mem_singleton.mp queued
      cases is
      rcases inNews chosen with before | ⟨switch, _⟩
      · exact midway.plain id t found before false
      · exact (fits switch).plain false
    · cases queued
  · exact named

end Midway

/-- The choices asked for are answered or wait, with the answers of this operation counted. -/
def Tallied (w : ChoiceWatch) (asked : List (String × DateTime)) (c : Controller) : Prop :=
  Ledger.Balanced Prod.fst asked c.awaiting (w.answered ++ c.choiceAnswers)

section Step
variable {asked : List (String × DateTime)} {locks news : List String} {c c' : Controller}

theorem Tallied.acts (tallied : Tallied w asked c) (acts : c.Acts c') : Tallied w asked c' := by
  rw [Tallied, Controller.awaiting, acts.candidates, acts.answers]
  exact tallied

theorem Tallied.alters (tallied : Tallied w asked c) (alters : c.Alters c') : Tallied w asked c' := by
  rw [Tallied, Controller.awaiting, alters.candidates, Controller.choiceAnswers, alters.fx]
  exact tallied

/-- A choice that waited is answered. -/
theorem Tallied.answer {id : String} {t : Thermo} (deadline : DateTime)
    (tallied : Ledger.Balanced Prod.fst asked (("thermostat_" ++ id, deadline) :: c.awaiting)
      (w.answered ++ c.choiceAnswers))
    (found : c.therms[id]? = some t) (keyed : t.cfg.id = id) (error : Option String) :
    Tallied w asked (c.report id "set_actuator" error) := by
  rw [Tallied, Controller.awaiting, Controller.report_candidates, Controller.report_answers found keyed,
    if_pos rfl, ← List.append_assoc]
  exact tallied.answer

/-- Another command is answered, or a choice that did not have to wait. -/
theorem Tallied.reply {id device operation : String} {t : Thermo} (tallied : Tallied w asked c)
    (found : c.therms[id]? = some t) (keyed : t.cfg.id = id) (own : device = "thermostat_" ++ id)
    (deadline : DateTime) (error : Option String) :
    Tallied w (asked ++ if operation = "set_actuator" then [(device, deadline)] else [])
      (c.report id operation error) := by
  rw [Tallied, Controller.awaiting, Controller.report_candidates, Controller.report_answers found keyed,
    ← List.append_assoc]
  split
  · rw [own]
    exact Ledger.Balanced.reply tallied ("thermostat_" ++ id, deadline)
  · rw [List.append_nil, List.append_nil]
    exact tallied

/-- How things stand while an operation is carried out, with these choices asked for. -/
structure Underway (w : ChoiceWatch) (locks news : List String) (asked : List (String × DateTime))
    (c : Controller) : Prop extends Midway w locks news c where
  tallied : Tallied w asked c

theorem Underway.acts (underway : Underway w locks news asked c) (acts : c.Acts c') :
    Underway w locks news asked c' :=
  ⟨underway.toMidway.acts acts, underway.tallied.acts acts⟩

/-- A candidate that was awaited shows what it is. -/
theorem settleCandidate_underway (underway : Underway w locks [] asked c) (idle : c.fx = [])
    {device : String} (other : c.ownId device = none)
    (fits : ∀ candidate t, c.candidates[device]? = some candidate →
      c.therms[candidate.thermostat]? = some t →
      ((c.seenOf device).hasOn && !(c.seenOf device).lockish) = true → Fits w c t device) :
    ∃ news, Underway w locks news asked (c.settleCandidate device now) := by
  rw [Controller.settleCandidate]
  split
  · exact ⟨[], underway⟩
  split
  · exact ⟨[], underway⟩
  next candidate awaited =>
  obtain ⟨t, found, noSensor⟩ := underway.awaited device candidate awaited
  have keyed := underway.keyed candidate.thermostat t found
  have forgotten := underway.erase device
  have owing : Ledger.Balanced Prod.fst asked
      (("thermostat_" ++ candidate.thermostat, candidate.deadline) ::
        { c with candidates := c.candidates.erase device }.awaiting) (w.answered ++ c.choiceAnswers) :=
    Ledger.Balanced.pending_perm underway.tallied (Controller.awaiting_erase awaited)
  have settles {c' : Controller} (before : List String) :
      c'.Acts ((c'.resubscribe before).evaluate candidate.thermostat now) :=
    .trans (.resubscribe before) (.evaluate candidate.thermostat now)
  cases shown : (c.seenOf device).hasOn && !(c.seenOf device).lockish with
  | false => exact ⟨[], .acts ⟨forgotten.report _ _ _, .answer _ owing found keyed _⟩ (settles _)⟩
  | true =>
    have fits : Fits w c t device := fits candidate t awaited found shown
    rw [Bool.and_eq_true, Bool.not_eq_true'] at shown
    have moved := forgotten.switchTo now idle found (fun _ => ⟨noSensor, other, shown.2⟩) fun _ =>
      ⟨fits.known, fits.plain, fits.users⟩
    refine ⟨_, .acts ⟨moved.report _ _ _, ?_⟩ (settles _)⟩
    have movedTo : ({ c with candidates := c.candidates.erase device }.switchTo
        candidate.thermostat device now).therms[candidate.thermostat]? = some (t.moveTo device now) := by
      rw [Controller.switchTo, found]
      exact Std.ExtTreeMap.getElem?_insert_self
    refine .answer candidate.deadline ?_ movedTo keyed none
    rw [Controller.awaiting, Controller.switchTo_candidates, Controller.switchTo_answers]
    exact owing

/-- A choice whose time has run out is answered. -/
theorem dropCandidate_underway (underway : Underway w locks news asked c) (device : String) :
    Underway w locks news asked (c.dropCandidate device) := by
  rw [Controller.dropCandidate]
  split
  · exact underway
  next candidate awaited =>
  obtain ⟨t, found, _⟩ := underway.awaited device candidate awaited
  have keyed := underway.keyed candidate.thermostat t found
  have owing : Ledger.Balanced Prod.fst asked
      (("thermostat_" ++ candidate.thermostat, candidate.deadline) ::
        { c with candidates := c.candidates.erase device }.awaiting) (w.answered ++ c.choiceAnswers) :=
    Ledger.Balanced.pending_perm underway.tallied (Controller.awaiting_erase awaited)
  exact .acts ⟨(underway.erase device).report _ _ _, .answer _ owing found keyed _⟩ (.resubscribe _)

theorem dropCandidate_candidates (device other : String) :
    (c.dropCandidate device).candidates[other]? =
      if other = device then none else c.candidates[other]? := by
  rw [Controller.dropCandidate]
  split
  · next absent =>
    split
    · next same => rw [same, absent]
    · rfl
  · rw [(Controller.Acts.resubscribe _).candidates, Controller.report_candidates]
    dsimp only
    rw [Std.ExtTreeMap.getElem?_erase]
    simp only [Std.compare_eq_iff_eq, eq_comm (a := device)]

theorem dropped_candidates (expired : List String) (other : String) :
    (expired.foldl Controller.dropCandidate c).candidates[other]? =
      if other ∈ expired then none else c.candidates[other]? := by
  induction expired generalizing c with
  | nil => simp
  | cons device rest ih =>
    rw [List.foldl_cons, ih, dropCandidate_candidates]
    by_cases same : other = device <;> simp [same]

theorem tick_underway (underway : Underway w locks news asked c) :
    Underway w locks news asked (c.tick now) := by
  simp only [Controller.tick]
  generalize (c.candidates.toList.filter _).map Prod.fst = expired
  suffices dropped : Underway w locks news asked (expired.foldl Controller.dropCandidate c) from
    dropped.acts (.evaluateAll _ now)
  induction expired generalizing c with
  | nil => exact underway
  | cons device rest ih => exact ih (dropCandidate_underway underway device)

/-- What still waits after a tick has its time left. -/
theorem tick_inTime : ∀ choice ∈ (c.tick now).awaiting, now < choice.2 := by
  intro choice waits
  obtain ⟨⟨device, candidate⟩, member, rfl⟩ := List.mem_map.mp waits
  rw [Std.ExtTreeMap.mem_toList_iff_getElem?_eq_some] at member
  simp only [Controller.tick] at member
  rw [(Controller.Acts.evaluateAll _ now).candidates, dropped_candidates] at member
  split at member
  · cases member
  next stays =>
  by_contra late
  refine stays (List.mem_map.mpr ⟨(device, candidate), List.mem_filter.mpr ⟨?_, ?_⟩, rfl⟩)
  · exact Std.ExtTreeMap.mem_toList_iff_getElem?_eq_some.mpr member
  · exact decide_eq_true (not_lt.mp late)

/-- A command is carried out: it is reported, unless it waits, and its thermostat decided. -/
def finished (id operation : String) (before : List String) (now : DateTime)
    (result : Controller × Controller.Outcome) : Controller :=
  let c := match result with
    | (c, .later) => c
    | (c, .done) => c.report id operation none
    | (c, .refused error) => c.report id operation (some error)
  (c.resubscribe before).evaluate id now

theorem onCommand_of_own {device id : String} {payload : Json} {t : Thermo}
    (own : c.ownId device = some id) (found : c.therms[id]? = some t) (formats : Formats) :
    c.onCommand formats device payload now = finished id (operationOf payload) c.usedIds now
      (c.applyCommand formats id (commandOf payload) t payload now) := by
  simp only [Controller.onCommand, own, found]
  rfl

/-- A command that does not wait is reported. -/
theorem reported_underway (underway : Underway w locks news asked c) {id device : String}
    (own : device = "thermostat_" ++ id) (present : id ∈ c.therms)
    (operation : String) {outcome : Controller.Outcome} (prompt : outcome ≠ .later)
    (deadline : DateTime) (before : List String) :
    Underway w locks news (asked ++ if operation = "set_actuator" then [(device, deadline)] else [])
      (finished id operation before now (c, outcome)) := by
  obtain ⟨t, found⟩ := Midway.found_of_mem present
  have keyed := underway.keyed id t found
  have settles (c' : Controller) : c'.Acts ((c'.resubscribe before).evaluate id now) :=
    .trans (.resubscribe before) (.evaluate id now)
  have reported (error : Option String) : Underway w locks news _ (c.report id operation error) :=
    ⟨underway.report id operation error, underway.tallied.reply found keyed own deadline error⟩
  cases outcome with
  | later => exact absurd rfl prompt
  | done => exact (reported none).acts (settles _)
  | refused error => exact (reported (some error)).acts (settles _)

theorem operationOf_choice {payload : Json} (choice : commandOf payload = "set_actuator") :
    operationOf payload = "set_actuator" := by
  rw [operationOf, choice, if_pos (by decide)]

/-- A choice that waits is answered later, where no other waits for the same device. -/
theorem awaits_underway (underway : Underway w locks news asked c) {id device : String}
    {t : Thermo} (found : c.therms[id]? = some t) (noSensor : device ∉ t.cfg.sensorDeviceIds)
    (free : c.candidates[device]? = none) (deadline : DateTime) (operation : String) (before : List String) :
    let waiting := { c with candidates := c.candidates.insert device ⟨id, deadline⟩ }
    Underway w locks news (asked ++ [("thermostat_" ++ id, deadline)])
      (finished id operation before now (waiting, .later)) := by
  intro waiting
  have settles : waiting.Acts (finished id operation before now (waiting, .later)) :=
    .trans (.resubscribe before) (.evaluate id now)
  refine .acts ⟨underway.candidates fun other candidate awaited => ?_, ?_⟩ settles
  · rw [Std.ExtTreeMap.getElem?_insert] at awaited
    split at awaited
    · next same =>
      obtain rfl := Std.compare_eq_iff_eq.mp same
      cases awaited
      exact ⟨t, found, noSensor⟩
    · exact underway.awaited other candidate awaited
  · exact (Ledger.Balanced.ask underway.tallied _).pending_perm
      (Controller.awaiting_insert free ⟨id, deadline⟩).symm

theorem chosen_underway (underway : Underway w locks [] asked c) (idle : c.fx = [])
    {device id : String} {t : Thermo} {payload : Json} (own : c.ownId device = some id)
    (found : c.therms[id]? = some t) (choice : commandOf payload = "set_actuator")
    (kept : overwrites c (.input (.command device payload)) = false)
    (fits : ∀ choice ∈ chooses c (.input (.command device payload)), Fits w c choice.1 choice.2) :
    ∃ news, Underway w locks news (asked ++ [(device, now + secs candidateSecs)])
      (finished id "set_actuator" c.usedIds now (c.setActuator id t payload now)) := by
  obtain ⟨deviceOf, present⟩ := Controller.ownId_eq own
  simp only [overwrites, chooses, choice, own, found, Option.bind_some, Option.any_some,
    beq_self_eq_true, Bool.true_and, if_true] at kept fits
  have chosen := Controller.setActuator_cases c id t payload now
  generalize c.setActuator id t payload now = result at chosen
  cases chosen with
  | stays outcome prompt =>
    exact ⟨[], reported_underway underway deviceOf present "set_actuator" prompt _ _⟩
  | moved d named shown apart =>
    rw [if_pos shown, named, Option.filter_some] at fits
    have prompt : Controller.Outcome.done ≠ .later := by rintro ⟨⟩
    have moved := underway.switchTo now idle found apart fun switch => by
      rw [switch] at fits
      exact fits (t, d) rfl
    have stillTallied : Tallied w asked (c.switchTo id d now) := by
      rw [Tallied, Controller.awaiting, Controller.switchTo_candidates, Controller.switchTo_answers]
      exact underway.tallied
    have stillPresent : id ∈ (c.switchTo id d now).therms := by
      rw [Controller.switchTo, found]
      exact Std.ExtTreeMap.mem_insert_self
    exact ⟨_, reported_underway ⟨moved, stillTallied⟩ deviceOf stillPresent "set_actuator" prompt _ _⟩
  | awaits d named waits noSensor =>
    rw [waits, named, Option.any_some, Bool.true_and, decide_eq_false_iff_not,
      Std.ExtTreeMap.mem_iff_isSome_getElem?, Bool.not_eq_true, Option.isSome_eq_false_iff,
      Option.isNone_iff_eq_none] at kept
    rw [deviceOf]
    exact ⟨[], awaits_underway underway found noSensor kept _ "set_actuator" _⟩

theorem onCommand_underway (underway : Underway w locks [] asked c) (idle : c.fx = [])
    (formats : Formats) (device : String) (payload : Json)
    (kept : overwrites c (.input (.command device payload)) = false)
    (free : crowds c (.input (.command device payload)) = false)
    (fits : ∀ choice ∈ chooses c (.input (.command device payload)), Fits w c choice.1 choice.2) :
    ∃ news, Underway w locks news (asked ++ asks c (.input (.command device payload)) now)
      (c.onCommand formats device payload now) := by
  cases own : c.ownId device with
  | none =>
    refine ⟨[], ?_⟩
    simp only [Controller.onCommand, asks, own, Option.isSome_none, Bool.false_eq_true, and_false,
      if_false, List.append_nil]
    exact underway
  | some id =>
    obtain ⟨deviceOf, present⟩ := Controller.ownId_eq own
    obtain ⟨t, found⟩ := Midway.found_of_mem present
    simp only [onCommand_of_own own found, asks, own, Option.isSome_some, and_true]
    by_cases choice : commandOf payload = "set_actuator"
    · rw [if_pos (operationOf_choice choice), operationOf_choice choice, choice]
      exact chosen_underway underway idle own found choice kept fits
    · have prompt : c.Prompt (c.applyCommand formats id (commandOf payload) t payload now) := by
        refine .applyCommand found choice payload fun sets ids named sensor member awaited => ?_
        simp only [crowds, sets, own, named, Option.any_some, beq_self_eq_true, Bool.true_and,
          List.any_eq_false] at free
        exact free sensor member (beq_iff_eq.mpr awaited)
      refine ⟨[], ?_⟩
      generalize c.applyCommand formats id (commandOf payload) t payload now = result at prompt
      obtain ⟨c', outcome⟩ := result
      exact reported_underway ⟨underway.alters prompt.1, underway.tallied.alters prompt.1⟩ deviceOf
        (prompt.1.keeps id present) _ prompt.2 _ _

/-- More devices have reported `locked`: thermostats, which are never chosen, and what is known
for locks. -/
theorem Midway.told (midway : Midway w locks [] c) {more : List String}
    (known : ∀ device ∈ more, (c.ownId device).isSome ∨ c.Minds device) :
    Midway w (locks ++ more) [] c :=
  { midway with
    minded := fun device locked => (List.mem_append.mp locked).elim (midway.minded device)
      fun new => (known device new).imp_right .inl
    noLock := fun _ new => absurd new List.not_mem_nil }

theorem eq_of_told {device other : String} {payload : Json}
    (told : other ∈ locksTold (.input (.state device payload))) : other = device := by
  rw [locksTold] at told
  split at told
  · exact List.mem_singleton.mp told
  · cases told

theorem isSome_of_told {device other : String} {payload : Json}
    (told : other ∈ locksTold (.input (.state device payload))) : (payload.get "locked").isSome := by
  rw [locksTold] at told
  split at told
  · assumption
  · cases told

theorem onState_underway (underway : Underway w locks [] asked c) (idle : c.fx = [])
    (formats : Formats) (device : String) (payload : Json)
    (fits : ∀ choice ∈ chooses c (.input (.state device payload)), Fits w c choice.1 choice.2) :
    ∃ news, Underway w (locks ++ locksTold (.input (.state device payload))) news asked
      (c.onState formats device payload now) := by
  rw [Controller.onState]
  split
  · next id own =>
    have remembered : c.Acts { c with ownRestored := id :: c.ownRestored } :=
      .of_same (.of_therms rfl rfl rfl) rfl
    have restored : c.Acts (Controller.restoreOwn formats
        { c with ownRestored := id :: c.ownRestored } id payload now) := by
      refine remembered.trans (.of_same (.restoreOwn id payload) (Controller.restoreOwn_fx id payload) ?_)
      intro other isLock
      rwa [Controller.seenOf, Controller.restoreOwn_seen]
    have told : Underway w (locks ++ locksTold (.input (.state device payload))) [] asked c := by
      refine ⟨underway.told fun other told => .inl ?_, underway.tallied⟩
      rw [eq_of_told told, own]
      rfl
    split
    · exact ⟨[], told⟩
    · exact ⟨[], told.acts restored⟩
  next other =>
  have heard : c.Acts (c.see device (Controller.showing payload)) :=
    .see device fun isLock => by rw [Controller.showing, isLock, Bool.true_or]
  have told : Underway w (locks ++ locksTold (.input (.state device payload))) [] asked
      (c.see device (Controller.showing payload)) := by
    refine ⟨(underway.acts heard).told fun other told => .inr (.inl ?_), underway.tallied.acts heard⟩
    rw [eq_of_told told, Rule.see_seenOf, Controller.showing, isSome_of_told told, Bool.or_true]
  have settled : ∃ news, Underway w (locks ++ locksTold (.input (.state device payload))) news asked
      (if device ∈ (c.see device (Controller.showing payload)).candidates then
        (c.see device (Controller.showing payload)).settleCandidate device now
      else c.see device (Controller.showing payload)) := by
    split
    · refine settleCandidate_underway told idle other ?_
      intro candidate t awaited found shown
      rw [Rule.see_seenOf] at shown
      have is : c.shownSwitch device payload = true := shown
      have awaited : c.candidates[device]? = some candidate := awaited
      have found : c.therms[candidate.thermostat]? = some t := found
      have chosen : (t, device) ∈ chooses c (.input (.state device payload)) := by
        rw [chooses, other, is, awaited]
        simp [found]
      exact ⟨(fits _ chosen).known, (fits _ chosen).plain, (fits _ chosen).users⟩
    · exact ⟨[], told⟩
  obtain ⟨news, underway⟩ := settled
  have read (c' : Controller) : c'.Acts (c'.onSensorState formats device payload now) :=
    .onSensorState device payload
  refine ⟨news, ?_⟩
  split
  · exact underway.acts (read _)
  · exact underway.acts ((read _).trans (.onSwitchState device _))

theorem operate_underway (underway : Underway w w.locks [] w.asked w.ctl) (idle : w.ctl.fx = [])
    (formats : Formats) (operation : Operation) (now : DateTime) (well : w.ChoosesWell operation) :
    ∃ news, Underway w (w.locks ++ locksTold operation) news (w.asked ++ asks w.ctl operation now)
      (w.ctl.operate formats operation now) := by
  obtain ⟨stays, kept, free, well⟩ := well
  have fits : ∀ choice ∈ chooses w.ctl operation, Fits w w.ctl choice.1 choice.2 := by
    intro choice chosen
    obtain ⟨known, plain, users⟩ := well choice chosen
    exact ⟨known, plain, fun id u found => users u (Controller.mem_values.mpr ⟨id, found⟩)⟩
  have quiet {c : Controller} (underway : Underway w w.locks [] w.asked c) :
      ∃ news, Underway w (w.locks ++ []) news (w.asked ++ []) c := by
    rw [List.append_nil, List.append_nil]
    exact ⟨[], underway⟩
  cases operation with
  | learned doc => cases stays
  | start => exact quiet (underway.acts (.start now))
  | input input =>
    cases input with
    | state device payload =>
      have asked : asks w.ctl (.input (.state device payload)) now = [] := rfl
      rw [asked, List.append_nil]
      exact onState_underway underway idle formats device payload fits
    | availability device online => exact quiet (underway.acts (.onAvailability device online))
    | command device payload =>
      have none : w.locks ++ locksTold (.input (.command device payload)) = w.locks := List.append_nil _
      rw [none]
      exact onCommand_underway underway idle formats device payload kept free fits
    | tick => exact quiet (tick_underway underway)
    | add entry => cases stays
    | remove id => cases stays
    | recalculateAll force =>
      simp only [Controller.operate, Controller.handle, Controller.recalculateAll]
      split
      · have again : w.ctl.Acts { w.ctl with therms := w.ctl.therms.map fun _ => Thermo.resync } :=
          .of_same (.of_map fun _ => rfl) rfl
        exact quiet (tick_underway (underway.acts again))
      · exact quiet (tick_underway underway)
    | shutdown => exact quiet (underway.acts .shutdown)

end Step

/-! ### Every run -/

/-- Between operations. -/
structure Steady (w : ChoiceWatch) : Prop where
  midway : Midway w w.locks [] w.ctl
  idle : w.ctl.fx = []
  holds : w.Holds

theorem newSwitches_news {locks news : List String} {c : Controller} (midway : Midway w locks news c)
    {device : String} (new : device ∈ newSwitches w.ctl c) : device ∈ news := by
  obtain ⟨⟨id, t⟩, listed, rfl⟩ := List.mem_map.mp new
  obtain ⟨member, changed⟩ := List.mem_filter.mp listed
  rw [Std.ExtTreeMap.mem_toList_iff_getElem?_eq_some] at member
  simp only [Bool.and_eq_true, Bool.not_eq_true', bne_iff_ne, ne_eq] at changed
  rcases midway.moved id t member with empty | same | new
  · rw [changed.1] at empty
    cases empty
  · exact absurd same changed.2
  · exact new

theorem operate_inTime (formats : Formats) (c : Controller) (operation : Operation)
    (now : DateTime) :
    ∀ choice ∈ (c.operate formats operation now).awaiting, ∀ tick ∈ ticksAt operation now,
      tick < choice.2 := by
  intro choice waits tick ticked
  cases operation with
  | input input =>
    cases input with
    | tick =>
      cases ticked
      exact tick_inTime choice waits
    | recalculateAll force =>
      cases ticked
      simp only [Controller.operate, Controller.handle, Controller.recalculateAll] at waits
      split at waits <;> exact tick_inTime choice waits
    | _ => cases ticked
  | _ => cases ticked

/-- The new switches are counted as chosen. -/
theorem after_midway {news : List String} {c : Controller} {operation : Operation}
    (midway : Midway w (w.locks ++ locksTold operation) news c) :
    Midway (w.after c operation now) (w.locks ++ locksTold operation) [] c.takeEffects.1 := by
  have counted {device : String} (chosen : device ∈ (w.chosen ++ newSwitches w.ctl c) ++ []) :
      device ∈ w.chosen ++ news := by
    rw [List.append_nil] at chosen
    exact List.mem_append.mpr ((List.mem_append.mp chosen).imp_right (newSwitches_news midway))
  constructor
  · exact midway.keyed
  · exact midway.apart
  · exact fun id t found chosen => midway.plain id t found (counted chosen)
  · intro id t found
    exact .inr (.inl (congrArg (Option.map Thermo.act) found))
  · exact midway.awaited
  · intro device locked
    rcases midway.minded device locked with own | (isLock | queued) | forgot
    · exact .inl own
    · exact .inr (.inl (.inl isLock))
    · refine .inr (.inr (List.mem_append_right _ (List.mem_filter.mpr ⟨locked, ?_⟩)))
      exact decide_eq_true queued
    · exact .inr (.inr (List.mem_append_left _ forgot))
  · exact fun device new => absurd new List.not_mem_nil
  · exact fun effect queued => absurd queued List.not_mem_nil
  · exact fun device chosen => midway.named device (counted chosen)

theorem after_holds {news : List String} {c : Controller} {operation : Operation}
    (midway : Midway w (w.locks ++ locksTold operation) news c) (holds : w.Holds)
    (tallied : Tallied w (w.asked ++ asks w.ctl operation now) c)
    (inTime : ∀ choice ∈ c.awaiting, ∀ tick ∈ ticksAt operation now, tick < choice.2) :
    (w.after c operation now).Holds := by
  constructor
  · intro t member
    obtain ⟨id, found⟩ := Controller.mem_values.mp member
    exact midway.apart id t found
  · change w.lockedChoices ++ _ = []
    rw [holds.noLock, List.nil_append, List.filter_eq_nil_iff]
    intro device new locked
    exact midway.noLock device (newSwitches_news midway new) (of_decide_eq_true locked)
  · change w.strange ++ _ = []
    rw [holds.plain, List.nil_append, List.filter_eq_nil_iff]
    rintro ⟨actuator, on, payload⟩ sent
    obtain ⟨effect, queued, is⟩ := List.mem_filterMap.mp sent
    rw [decide_eq_true_eq, not_and_not_right]
    intro chosen
    refine midway.sent effect queued actuator on payload is ?_
    exact List.mem_append.mpr ((List.mem_append.mp chosen).imp_right (newSwitches_news midway))
  · exact tallied
  · exact inTime

theorem step_steady (steady : w.Steady) (formats : Formats) (operation : Operation × DateTime)
    (well : w.ChoosesWell operation.1) : (step formats w operation).Steady := by
  have tallied : Tallied w w.asked w.ctl := by
    rw [Tallied, Controller.choiceAnswers, steady.idle, List.filterMap_nil, List.append_nil]
    exact steady.holds.answered
  obtain ⟨news, midway, tallied⟩ :=
    operate_underway ⟨steady.midway, tallied⟩ steady.idle formats operation.1 operation.2 well
  have inTime := operate_inTime formats w.ctl operation.1 operation.2
  exact ⟨after_midway midway, rfl, after_holds midway steady.holds tallied inTime⟩

theorem starts_midway {c : Controller} (starts : Starts c) (locks : List String) :
    Midway (begin c locks) locks [] c where
  keyed := starts.keyed
  apart id t found := starts.apart t (Controller.mem_values.mpr ⟨id, found⟩)
  plain _ _ _ chosen := absurd chosen List.not_mem_nil
  moved _ _ found := .inr (.inl (congrArg (Option.map Thermo.act) found))
  awaited device candidate awaited := by
    rw [starts.calm] at awaited
    cases awaited
  minded device locked := by
    cases isLock : (c.seenOf device).lockish with
    | true => exact .inr (.inl (.inl isLock))
    | false => exact .inr (.inr (List.mem_filter.mpr ⟨locked, by rw [isLock, Bool.not_false]⟩))
  noLock _ new := absurd new List.not_mem_nil
  sent effect queued := by
    rw [starts.idle] at queued
    cases queued
  named _ chosen := absurd chosen List.not_mem_nil

theorem starts_steady {c : Controller} (starts : Starts c) (locks : List String) :
    Steady (begin c locks) := by
  refine ⟨starts_midway starts locks, starts.idle, ?_⟩
  constructor
  · exact starts.apart
  · rfl
  · rfl
  · change Ledger.Balanced _ _ c.awaiting _
    rw [Controller.awaiting, starts.calm]
    exact Ledger.balanced_nil
  · intro choice _ tick ticked
    cases ticked

/-- In every run whose choices are made well the switches are what was promised, and every choice
is answered once. -/
theorem choices_hold (formats : Formats) {c : Controller} (starts : Starts c)
    (locks : List String) (operations : List (Operation × DateTime))
    (well : Runs.EachStep (step formats) (fun w operation => w.ChoosesWell operation.1)
      (begin c locks) operations) :
    Runs.Always (step formats) Holds (begin c locks) operations :=
  (Runs.invariant Steady (fun _ operation steady well => step_steady steady formats operation well)
    (starts_steady starts locks) well).mono fun _ steady => steady.holds

/-! ### The den's new plug -/

theorem new_starts {entries : List ThermostatEntry}
    (apart : ∀ t ∈ (Controller.new entries).values, t.act.isEmpty = false →
      t.act ∉ t.cfg.sensorDeviceIds ∧ (Controller.new entries).ownId t.act = none) :
    Starts (.new entries) where
  keyed id t found := ((Controller.new_listening Controller.unasked_lasting entries).holds id t found).keyed
  apart := apart
  calm := rfl
  idle := rfl

instance (w : ChoiceWatch) (operation : Operation) : Decidable (w.ChoosesWell operation) :=
  inferInstanceAs (Decidable (_ ∧ _ ∧ _ ∧ ∀ choice ∈ chooses w.ctl operation,
    choice.2 ∉ w.forgotten ∧ choice.1.Plain ∧ ∀ t ∈ w.ctl.values, t.act = choice.2 → t.Plain))

def choose (device : String) : Operation :=
  .input (.command "thermostat_den" (.obj [("action", .str "set_actuator"), ("device_id", .str device)]))

def reports (device key : String) (value : Bool) : Operation :=
  .input (.state device (.obj [(key, .bool value)]))

def readPlug : Operation :=
  .input (.command "thermostat_den"
    (.obj [("action", .str "set_sensors"), ("sensor_ids", .arr [.str "plug"])]))

def turnOff : Operation := .input (.command "thermostat_den" (.obj [("hvac_mode", .str "off")]))

/-- The den with an OFF of its own in the config file. -/
def customDen : ThermostatEntry :=
  { OffWatch.den with actuatorOffCmd := some (.obj [("open", .bool false)]) }

/-- A plug is chosen that shows itself a switch, and refused as a sensor; a lock is refused, and
chosen again as is another that never says anything. -/
def chosenWell : List (Operation × DateTime) :=
  [(.start, 0), (choose "plug", secs 1), (reports "plug" "on" false, secs 3), (readPlug, secs 4),
    (choose "door", secs 5), (reports "door" "locked" true, secs 6), (choose "door", secs 7),
    (choose "ghost", secs 8), (.input .tick, secs 20)]

theorem den_chooses_well :
    Runs.Always (step OffWatch.plain) Holds (begin (.new [OffWatch.den]) []) chosenWell :=
  choices_hold OffWatch.plain (new_starts (by decide +kernel)) [] chosenWell (by decide +kernel)

/-- While the plug is awaited it is made a sensor. -/
def asOwnSensor : List (Operation × DateTime) :=
  [(.start, 0), (choose "plug", secs 1), (readPlug, secs 2), (reports "plug" "on" false, secs 3)]

/-- A lock is refused and forgotten, and chosen again. -/
def lockForgotten : List (Operation × DateTime) :=
  [(.start, 0), (choose "door", secs 1), (reports "door" "locked" true, secs 2), (choose "door", secs 3),
    (reports "door" "on" false, secs 4)]

/-- The plug is chosen, and sent the config file's OFF. -/
def customKept : List (Operation × DateTime) :=
  [(.start, 0), (choose "plug", secs 1), (reports "plug" "on" true, secs 2), (turnOff, secs 3)]

/-- The same plug is chosen twice before it shows what it is. -/
def chosenTwice : List (Operation × DateTime) :=
  [(.start, 0), (choose "plug", secs 1), (choose "plug", secs 2), (.input .tick, secs 20)]

theorem den_chooses_ill :
    Starts (.new [OffWatch.den]) ∧ Starts (.new [customDen]) ∧
      ¬ Runs.Always (step OffWatch.plain) Holds (begin (.new [OffWatch.den]) []) asOwnSensor ∧
      ¬ Runs.Always (step OffWatch.plain) Holds (begin (.new [OffWatch.den]) []) lockForgotten ∧
      ¬ Runs.Always (step OffWatch.plain) Holds (begin (.new [customDen]) []) customKept ∧
      ¬ Runs.Always (step OffWatch.plain) Holds (begin (.new [OffWatch.den]) []) chosenTwice := by
  refine ⟨new_starts (by decide +kernel), new_starts (by decide +kernel), ?_, ?_, ?_, ?_⟩
  · exact fun always => absurd always.last.apart (by decide +kernel)
  · exact fun always => absurd always.last.noLock (by decide +kernel)
  · exact fun always => absurd always.last.plain (by decide +kernel)
  · exact fun always => absurd always.last.answered.length (by decide +kernel)

end ChoiceWatch
end HomeCore.Thermostat
