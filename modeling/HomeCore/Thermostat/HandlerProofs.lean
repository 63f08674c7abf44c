import HomeCore.Maps
import HomeCore.Thermostat.EvaluationProofs

/-! What an input can do to the thermostats. A rule of two predicates, one of a thermostat that
was just decided and one of a thermostat that is still to be decided, is carried through every
handler. -/
namespace HomeCore.Thermostat

/-- A command that was sent: by which thermostat, what it asks for, and of which switch. -/
structure Command where
  thermostat : String
  on : Bool
  actuator : String
  deriving DecidableEq

def Effect.sentCommand : Effect → Option Command
  | .command thermostat on actuator _ => some ⟨thermostat, on, actuator⟩
  | _ => none

/-- What a thermostat's fate hangs on beside its own state: what each device last reported,
whether a sensor was heard at all, and the commands sent. -/
@[ext] structure View where
  on : String → Option Bool
  heard : String → Bool
  commands : List Command

def View.heardAny (v : View) (t : Thermo) : Bool := t.cfg.sensorDeviceIds.any v.heard

/-- A device reported whether it is on. -/
def View.reports (v : View) (device : String) (on : Bool) : View :=
  { v with on := fun other => if other = device then some on else v.on other }

def View.sent (v : View) (more : List Command) : View := { v with commands := v.commands ++ more }

namespace Controller
variable {c : Controller}

def commands (c : Controller) : List Command := c.fx.filterMap Effect.sentCommand

def view (c : Controller) : View where
  on device := (c.seenOf device).on
  heard s := (c.readings[s]?.any (·.receivedAt.isSome)) || (c.seenOf s).online == some false
  commands := c.commands

/-- The predicate holds of every thermostat. -/
def All (P : View → String → Thermo → Prop) (c : Controller) : Prop :=
  ∀ id t, c.therms[id]? = some t → P c.view id t

/-- The predicate of a thermostat hangs on its own switch and sensors alone. -/
def Local (P : View → String → Thermo → Prop) : Prop :=
  ∀ v v' id t, v'.commands = v.commands → (t.act.isEmpty = false → v'.on t.act = v.on t.act) →
    (∀ s ∈ t.cfg.sensorDeviceIds, v'.heard s = v.heard s) → P v id t → P v' id t

theorem mem_values {t : Thermo} : t ∈ c.values ↔ ∃ id : String, c.therms[id]? = some t := by
  unfold values
  simp only [List.mem_map, Prod.exists, exists_eq_right,
    Std.ExtTreeMap.mem_toList_iff_getElem?_eq_some]

theorem mem_usedIds {id : String} {t : Thermo} (found : c.therms[id]? = some t) {device : String}
    (uses : device ∈ t.cfg.sensorDeviceIds ∨ t.act.isEmpty = false ∧ device = t.act) :
    device ∈ c.usedIds := by
  unfold usedIds
  refine List.mem_append_left _ (List.mem_flatMap.mpr ⟨t, mem_values.mpr ⟨id, found⟩, ?_⟩)
  rcases uses with sensor | ⟨switch, rfl⟩
  · exact List.mem_append_left _ sensor
  · rw [switch]
    exact List.mem_append_right _ (List.mem_singleton.mpr rfl)

@[simp] theorem resubscribe_therms (before : List String) :
    (c.resubscribe before).therms = c.therms := rfl

@[simp] theorem resubscribe_started (before : List String) :
    (c.resubscribe before).started = c.started := rfl

theorem resubscribe_seen (before : List String) {device : String} (used : device ∈ c.usedIds) :
    (c.resubscribe before).seen[device]? = c.seen[device]? ∧
      (c.resubscribe before).readings[device]? = c.readings[device]? := by
  unfold resubscribe
  have stays : device ∉ (Std.ExtTreeSet.ofList (before.filter (· ∉ c.usedIds))).toList := by
    simp [used]
  exact ⟨Maps.getElem?_foldl_erase_of_not_mem stays, Maps.getElem?_foldl_erase_of_not_mem stays⟩

theorem resubscribe_commands (before : List String) :
    (c.resubscribe before).commands = c.commands := by
  have none : ∀ (make : String → Effect), (∀ d, (make d).sentCommand = none) → ∀ ids : List String,
      (ids.map make).filterMap Effect.sentCommand = [] := by
    intro make quiet ids
    simp [quiet]
  unfold commands resubscribe
  rw [List.filterMap_append, List.filterMap_append, none .subscribe fun _ => rfl,
    none .unsubscribe fun _ => rfl, List.append_nil, List.append_nil]

theorem resubscribe_all {P : View → String → Thermo → Prop} (isLocal : Local P)
    (all : All P c) (before : List String) : All P (c.resubscribe before) := by
  intro id t found
  rw [resubscribe_therms] at found
  refine isLocal c.view _ id t (resubscribe_commands before) ?_ ?_ (all id t found)
  · intro switch
    have kept := resubscribe_seen before (mem_usedIds found (.inr ⟨switch, rfl⟩))
    simp only [view, seenOf, kept.1]
  · intro s sensor
    have kept := resubscribe_seen before (mem_usedIds found (.inl sensor))
    simp only [view, seenOf, kept.1, kept.2]

/-! ## Evaluating -/

theorem fresh_of_unheard {t : Thermo} (unheard : c.view.heardAny t = false) (now : DateTime) :
    c.fresh t now = [] := by
  have silent : ∀ s ∈ t.cfg.sensorDeviceIds, ∀ r, c.readings[s]? = some r → r.receivedAt = none := by
    intro s sensor r found
    have quiet : c.view.heard s = false := by
      simpa using List.any_eq_false.mp unheard s sensor
    simp only [view, found, Option.any_some, Bool.or_eq_false_iff, Option.isSome_eq_false_iff,
      Option.isNone_iff_eq_none] at quiet
    exact quiet.1
  unfold fresh
  rw [List.filterMap_eq_nil_iff]
  intro r current
  simp only [List.mem_filter, List.mem_filterMap] at current
  obtain ⟨⟨s, ⟨sensor, _⟩, found⟩, current⟩ := current
  rw [silent s sensor r found] at current
  cases current

/-- What an evaluation at this time makes of a thermostat. -/
def evaluated (c : Controller) (t : Thermo) (now : DateTime) : Thermo × Option Bool :=
  t.evaluate (c.seenOf t.act) (c.fresh t now) (c.heardAny t) now

/-- The commands an evaluation sends. -/
def sends (id : String) (t : Thermo) (toSend : Option Bool) : List Command :=
  (toSend.map fun w => ⟨id, w, t.act⟩).toList

@[simp] theorem evaluate_started (id : String) (now : DateTime) :
    (c.evaluate id now).started = c.started := by
  unfold evaluate
  split
  · rfl
  · split <;> rfl

theorem evaluate_of_found {id : String} {t : Thermo} (started : c.started = true)
    (found : c.therms[id]? = some t) (now : DateTime) :
    (c.evaluate id now).therms = c.therms.insert id (c.evaluated t now).1 ∧
      (c.evaluate id now).view = c.view.sent (sends id t (c.evaluated t now).2) := by
  unfold evaluate
  rw [if_neg (by simp [started]), found]
  refine ⟨rfl, ?_⟩
  have sent : ((c.evaluated t now).2.map fun w => t.command id w t.act).toList.filterMap
      Effect.sentCommand = sends id t (c.evaluated t now).2 := by
    cases (c.evaluated t now).2 <;> rfl
  unfold View.sent
  rw [← sent]
  simp only [view, commands, seenOf, List.filterMap_append]
  rfl

theorem evaluate_of_absent {id : String} (absent : c.therms[id]? = none) (now : DateTime) :
    c.evaluate id now = c := by
  unfold evaluate
  rw [absent]
  split <;> rfl

/-! ## A message, up to the switch's report in it -/

/-- The controller once a message's candidate is settled and its reading taken. -/
def taken (formats : Formats) (c : Controller) (device : String) (payload : Json) (now : DateTime) :
    Controller :=
  let c := c.see device fun s =>
    { s with
      hasOn := s.hasOn || ((payload.get "on").bind Json.asBool).isSome
      lockish := s.lockish || (payload.get "locked").isSome }
  let c := if device ∈ c.candidates then c.settleCandidate device now else c
  c.onSensorState formats device payload now

theorem onState_of_own {formats : Formats} {device id : String} {payload : Json} {now : DateTime}
    (own : c.ownId device = some id) (started : c.started = true) :
    c.onState formats device payload now = c := by
  unfold onState
  rw [own]
  exact if_pos started

theorem onState_of_other {formats : Formats} {device : String} {payload : Json} {now : DateTime}
    (other : c.ownId device = none) :
    c.onState formats device payload now =
      match interpretActuatorOn payload with
      | none => c.taken formats device payload now
      | some on => (c.taken formats device payload now).onSwitchState device on now := by
  unfold onState
  rw [other]
  rfl

/-- The thermostat that waits for the device may take it. -/
def Moves (c : Controller) (Open : View → String → Thermo → Prop) (device : String)
    (now : DateTime) : Prop :=
  ∀ candidate t more, c.candidates[device]? = some candidate →
    c.therms[candidate.thermostat]? = some t → (∀ cmd ∈ more, cmd.on = false ∧ t.active = true) →
      Open (c.view.sent more) candidate.thermostat (t.moveTo device now)

end Controller

/-- Two predicates of thermostats, one after it was decided and one before, that evaluations
carry on: the one evaluated becomes decided, and the others stay what they are. -/
structure Rule (now : DateTime) (Decided Open : View → String → Thermo → Prop) : Prop where
  weaken {v id t} : Decided v id t → Open v id t
  evaluate {v id t sw fresh} (seen : sw.on = v.on t.act)
    (unheard : v.heardAny t = false → fresh = []) (isOpen : Open v id t) :
    Decided (v.sent (Controller.sends id t (t.evaluate sw fresh (v.heardAny t) now).2)) id
      (t.evaluate sw fresh (v.heardAny t) now).1
  others {v id t other} (sw : Seen) (fresh : List Rat) (u : Thermo) (seen : sw.on = v.on t.act)
    (apart : other ≠ id) (isOpen : Open v id t) :
    let after := v.sent (Controller.sends id t (t.evaluate sw fresh (v.heardAny t) now).2)
    (Decided v other u → Decided after other u) ∧ (Open v other u → Open after other u)
  isLocal : Controller.Local Decided
  /-- Before it is decided it matters not what was heard of the sensors. -/
  openLocal {v v' id t} (commands : v'.commands = v.commands)
    (on : t.act.isEmpty = false → v'.on t.act = v.on t.act) (isOpen : Open v id t) : Open v' id t
  retry {v id t} (isOpen : Open v id t) : Open v id { t with retryAt := some now }
  /-- Others may turn their switches off. -/
  stopped {v id t more} (offs : ∀ cmd ∈ more, cmd.on = false ∧ cmd.thermostat ≠ id)
    (decided : Decided v id t) : Decided (v.sent more) id t

namespace Rule
variable {now : DateTime} {Decided Open : View → String → Thermo → Prop} {c : Controller}

/-- Every thermostat is decided, but those listed are only open. -/
def But (Decided Open : View → String → Thermo → Prop) (ids : List String) :
    View → String → Thermo → Prop :=
  fun v id t => Decided v id t ∨ id ∈ ids ∧ Open v id t

theorem openIsLocal (rule : Rule now Decided Open) : Controller.Local Open := by
  intro v v' id t commands on _ isOpen
  exact rule.openLocal commands on isOpen

theorem butIsLocal (rule : Rule now Decided Open) (ids : List String) :
    Controller.Local (But Decided Open ids) := by
  intro v v' id t commands on heard
  exact Or.imp (rule.isLocal v v' id t commands on heard)
    (And.imp_right (rule.openLocal commands on))

/-- Evaluating one thermostat, whatever the others keep through it. -/
theorem evaluate_keeps (rule : Rule now Decided Open) (started : c.started = true) {id : String}
    {P : View → String → Thermo → Prop} (isOpen : ∀ t, c.therms[id]? = some t → Open c.view id t)
    (keeps : ∀ t sw fresh other u, sw.on = c.view.on t.act → other ≠ id → Open c.view id t →
      P c.view other u →
        P (c.view.sent (Controller.sends id t (t.evaluate sw fresh (c.view.heardAny t) now).2)) other u)
    (rest : c.All fun v other u => other ≠ id → P v other u) :
    (c.evaluate id now).All fun v other u =>
      (other = id → Decided v other u) ∧ (other ≠ id → P v other u) := by
  intro other u there
  cases found : c.therms[id]? with
  | none =>
    rw [Controller.evaluate_of_absent found] at there ⊢
    refine ⟨?_, rest other u there⟩
    rintro rfl
    rw [found] at there
    cases there
  | some t =>
    obtain ⟨therms, view⟩ := Controller.evaluate_of_found started found now
    rw [view]
    rw [therms, Std.ExtTreeMap.getElem?_insert] at there
    by_cases same : other = id
    · subst same
      rw [if_pos Std.ReflCmp.compare_self] at there
      cases there
      refine ⟨fun _ => ?_, absurd rfl⟩
      exact rule.evaluate rfl (fun unheard => Controller.fresh_of_unheard unheard now)
        (isOpen t found)
    · rw [if_neg fun equal => same (Std.LawfulEqCmp.eq_of_compare equal).symm] at there
      refine ⟨fun equal => absurd equal same, fun _ => ?_⟩
      exact keeps t (c.seenOf t.act) (c.fresh t now) other u rfl same (isOpen t found)
        (rest other u there same)

theorem evaluate_all (rule : Rule now Decided Open) (started : c.started = true) {id : String}
    {rest : List String} (all : c.All (But Decided Open (id :: rest))) :
    (c.evaluate id now).All (But Decided Open rest) := by
  have kept := rule.evaluate_keeps (P := But Decided Open rest) started
    (fun t found => (all id t found).elim rule.weaken (·.2)) ?_ ?_
  · intro other u found
    obtain ⟨self, others⟩ := kept other u found
    by_cases same : other = id
    · exact .inl (self same)
    · exact others same
  · intro t sw fresh other u seen apart isOpen
    obtain ⟨keepsDecided, keepsOpen⟩ := rule.others sw fresh u seen apart isOpen
    exact Or.imp keepsDecided (And.imp_right keepsOpen)
  · intro other u found apart
    exact (all other u found).imp_right (And.imp_left fun listed =>
      (List.mem_cons.mp listed).resolve_left apart)

theorem evaluateAll_all (rule : Rule now Decided Open) (started : c.started = true)
    {ids : List String} (all : c.All (But Decided Open ids)) :
    (c.evaluateAll ids now).All Decided := by
  unfold Controller.evaluateAll
  induction ids generalizing c with
  | nil => exact fun id t found => (all id t found).resolve_right fun listed => by cases listed.1
  | cons id rest ih =>
    exact ih (by rw [Controller.evaluate_started, started]) (rule.evaluate_all started all)

/-! ## Sensors, availability, ticks -/

/-- A thermostat's entry is kept under its own id. -/
def Keyed : View → String → Thermo → Prop := fun _ id t => t.cfg.id = id

theorem evaluateUsing_all (rule : Rule now Decided Open) (started : c.started = true)
    (keyed : c.All Keyed) {device : String} (opens : c.All Open)
    (unused : c.All fun v id t => Controller.usesDevice device t = false → Decided v id t) :
    (c.evaluateUsing device now).All Decided := by
  refine rule.evaluateAll_all started ?_
  intro id t found
  cases uses : Controller.usesDevice device t with
  | false => exact .inl (unused id t found uses)
  | true =>
    refine .inr ⟨List.mem_map.mpr ⟨t, List.mem_filter.mpr ⟨?_, uses⟩, keyed id t found⟩,
      opens id t found⟩
    exact Controller.mem_values.mpr ⟨id, found⟩

theorem uses_of_sensor {device : String} {t : Thermo} (sensor : device ∈ t.cfg.sensorDeviceIds) :
    Controller.usesDevice device t = true := by
  unfold Controller.usesDevice
  rw [Bool.or_eq_true]
  exact .inr (List.contains_iff_mem.mpr sensor)

/-- Another device's reading or availability is none of a thermostat's concern. -/
theorem sameSensors {c' : Controller} {device : String} {t : Thermo}
    (unused : Controller.usesDevice device t = false)
    (elsewhere : ∀ s, s ≠ device → c'.view.heard s = c.view.heard s) :
    ∀ s ∈ t.cfg.sensorDeviceIds, c'.view.heard s = c.view.heard s := by
  intro s sensor
  refine elsewhere s ?_
  rintro rfl
  rw [uses_of_sensor sensor] at unused
  cases unused

theorem getElem?_insert_of_ne {β : Type} {m : Std.ExtTreeMap String β} {key other : String} {b : β}
    (apart : other ≠ key) : (m.insert key b)[other]? = m[other]? := by
  rw [Std.ExtTreeMap.getElem?_insert, if_neg]
  intro equal
  exact apart (Std.LawfulEqCmp.eq_of_compare equal).symm

theorem onSensorState_all (rule : Rule now Decided Open) (started : c.started = true)
    (keyed : c.All Keyed) (all : c.All Decided) (formats : Formats) (device : String)
    (payload : Json) : (c.onSensorState formats device payload now).All Decided := by
  unfold Controller.onSensorState
  split
  · exact all
  split
  · exact all
  · next r _ =>
    have elsewhere : ∀ s, s ≠ device →
        { c with readings := c.readings.insert device r }.view.heard s = c.view.heard s := by
      intro s other
      simp only [Controller.view, getElem?_insert_of_ne other, Controller.seenOf]
    refine rule.evaluateUsing_all ?_ ?_ ?_ ?_
    · exact started
    · exact fun id t found => keyed id t found
    · exact fun id t found =>
        rule.openLocal (v := c.view) rfl (fun _ => rfl) (rule.weaken (all id t found))
    · intro id t found unused
      exact rule.isLocal c.view _ id t rfl (fun _ => rfl) (sameSensors unused elsewhere)
        (all id t found)

theorem see_seenOf {device : String} (change : Seen → Seen) :
    (c.see device change).seenOf device = change (c.seenOf device) := by
  simp only [Controller.see, Controller.seenOf, Std.ExtTreeMap.getElem?_insert_self,
    Option.getD_some]

theorem see_seenOf_of_ne {device other : String} (apart : other ≠ device) (change : Seen → Seen) :
    (c.see device change).seenOf other = c.seenOf other := by
  simp only [Controller.see, Controller.seenOf, getElem?_insert_of_ne apart]

@[simp] theorem see_readings (device : String) (change : Seen → Seen) :
    (c.see device change).readings = c.readings := rfl

@[simp] theorem see_commands (device : String) (change : Seen → Seen) :
    (c.see device change).view.commands = c.view.commands := rfl

theorem see_heard {device other : String} (apart : other ≠ device) (change : Seen → Seen) :
    (c.see device change).view.heard other = c.view.heard other := by
  simp only [Controller.view, see_seenOf_of_ne apart, see_readings]

/-- A device said something that is neither on nor off. -/
theorem see_on {device : String} {change : Seen → Seen}
    (sameOn : ∀ s, (change s).on = s.on) (other : String) :
    ((c.see device change).seenOf other).on = (c.seenOf other).on := by
  by_cases same : other = device
  · rw [same, see_seenOf, sameOn]
  · rw [see_seenOf_of_ne same]

theorem askAgain_cfg (device : String) (t : Thermo) :
    (Controller.askAgain device now t).cfg = t.cfg := by
  unfold Controller.askAgain
  split <;> rfl

theorem askAgain_of_unused {device : String} {t : Thermo}
    (unused : Controller.usesDevice device t = false) : Controller.askAgain device now t = t := by
  unfold Controller.askAgain
  simp only [Controller.usesDevice, Bool.or_eq_false_iff] at unused
  rw [unused.1]
  rfl

theorem askAgain_open (rule : Rule now Decided Open) {v : View} {id device : String} {t : Thermo}
    (isOpen : Open v id t) : Open v id (Controller.askAgain device now t) := by
  unfold Controller.askAgain
  split
  · exact rule.retry isOpen
  · exact isOpen

/-- Each thermostat changes on its own. -/
theorem all_map {P P' : View → String → Thermo → Prop} {change : Thermo → Thermo}
    (keeps : ∀ v id t, P v id t → P' v id (change t)) (all : c.All P) :
    { c with therms := c.therms.map fun _ => change }.All P' := by
  intro id t found
  rw [Std.ExtTreeMap.getElem?_map, Option.map_eq_some_iff] at found
  obtain ⟨before, found, rfl⟩ := found
  exact keeps _ id before (all id before found)

/-- After a device said something about whether it is online. -/
theorem see_opens (rule : Rule now Decided Open) (all : c.All Decided) (device : String)
    (change : Seen → Seen) (sameOn : ∀ s, (change s).on = s.on) :
    (c.see device change).All Open ∧ (c.see device change).All
      fun v id t => Controller.usesDevice device t = false → Decided v id t := by
  refine ⟨fun id t found => ?_, fun id t found unused => ?_⟩
  · exact rule.openLocal (v := c.view) (see_commands device change) (fun _ => see_on sameOn t.act)
      (rule.weaken (all id t found))
  · exact rule.isLocal c.view _ id t (see_commands device change) (fun _ => see_on sameOn t.act)
      (sameSensors unused fun s other => see_heard other change) (all id t found)

/-- The switch that is back online is asked again, and all that use it are decided. -/
theorem askAgain_all (rule : Rule now Decided Open) (started : c.started = true)
    (keyed : c.All Keyed) {device : String} (opens : c.All Open)
    (unused : c.All fun v id t => Controller.usesDevice device t = false → Decided v id t) :
    ({ c with therms := c.therms.map fun _ => Controller.askAgain device now }.evaluateUsing device
      now).All Decided := by
  refine rule.evaluateUsing_all ?_ ?_ ?_ ?_
  · exact started
  · exact all_map (fun _ id t keyed => by rw [Keyed, askAgain_cfg]; exact keyed) keyed
  · exact all_map (fun _ id t => rule.askAgain_open) opens
  · refine all_map (fun v id t unused => ?_) unused
    intro none
    have before : Controller.usesDevice device t = false := by
      simpa only [Controller.usesDevice, Thermo.act, askAgain_cfg] using none
    rw [askAgain_of_unused before]
    exact unused before

theorem onAvailability_all (rule : Rule now Decided Open) (started : c.started = true)
    (keyed : c.All Keyed) (all : c.All Decided) (device : String) (online : Bool) :
    (c.onAvailability device online now).All Decided := by
  unfold Controller.onAvailability
  split
  · exact all
  dsimp only
  obtain ⟨opens, unused⟩ :=
    rule.see_opens all device (fun s => { s with online := some online }) fun _ => rfl
  have seesKeyed : (c.see device fun s => { s with online := some online }).All Keyed :=
    fun id t found => keyed id t found
  have seesStarted : (c.see device fun s => { s with online := some online }).started = true :=
    started
  split
  · exact rule.askAgain_all seesStarted seesKeyed opens unused
  · exact rule.evaluateUsing_all seesStarted seesKeyed opens unused

theorem report_therms (id operation : String) (error : Option String) :
    (c.report id operation error).therms = c.therms := by
  unfold Controller.report
  split <;> rfl

theorem report_view (id operation : String) (error : Option String) :
    (c.report id operation error).view = c.view := by
  unfold Controller.report
  split
  · rfl
  · simp [Controller.view, Controller.push, Controller.commands, Controller.seenOf,
      Effect.sentCommand]

theorem report_all {P : View → String → Thermo → Prop} (all : c.All P) (id operation : String)
    (error : Option String) : (c.report id operation error).All P := by
  intro other t found
  rw [report_therms] at found
  rw [report_view]
  exact all other t found

theorem report_started (id operation : String) (error : Option String) :
    (c.report id operation error).started = c.started := by
  unfold Controller.report
  split <;> rfl

theorem dropCandidate_all {P : View → String → Thermo → Prop} (isLocal : Controller.Local P)
    (all : c.All P) (device : String) : (c.dropCandidate device).All P := by
  unfold Controller.dropCandidate
  split
  · exact all
  · refine Controller.resubscribe_all isLocal (report_all ?_ _ _ _) _
    exact fun id t found => all id t found

theorem dropCandidate_started (device : String) :
    (c.dropCandidate device).started = c.started := by
  unfold Controller.dropCandidate
  split
  · rfl
  · rw [Controller.resubscribe_started, report_started]

theorem tick_all (rule : Rule now Decided Open) (started : c.started = true) (opens : c.All Open) :
    (c.tick now).All Decided := by
  unfold Controller.tick
  dsimp only
  generalize (c.candidates.toList.filter _).map Prod.fst = expired
  induction expired generalizing c with
  | nil =>
    refine rule.evaluateAll_all started fun id t found => .inr ⟨?_, opens id t found⟩
    rw [List.foldl_nil, Std.ExtTreeMap.mem_keys, Std.ExtTreeMap.mem_iff_isSome_getElem?, found]
    rfl
  | cons device rest ih =>
    rw [List.foldl_cons]
    exact ih (by rw [dropCandidate_started, started]) (dropCandidate_all rule.openIsLocal opens device)

/-! ## Moving to another switch -/

/-- Some effects are queued, and the thermostats may change. -/
theorem view_queued (therms : Std.ExtTreeMap String Thermo) (effects : List Effect) :
    { c with therms := therms, fx := c.fx ++ effects }.view =
      c.view.sent (effects.filterMap Effect.sentCommand) := by
  simp only [Controller.view, Controller.commands, Controller.seenOf, View.sent,
    List.filterMap_append]

theorem switchTo_all (rule : Rule now Decided Open) (all : c.All Decided) {id actuator : String}
    (moves : ∀ t more, c.therms[id]? = some t →
      (∀ cmd ∈ more, cmd.on = false ∧ t.active = true) →
        Open (c.view.sent more) id (t.moveTo actuator now)) :
    (c.switchTo id actuator now).All (But Decided Open [id]) := by
  unfold Controller.switchTo
  split
  · exact fun other t found => .inl (all other t found)
  next t found =>
  have offs : ∀ cmd ∈ (if c.runsSwitch t then [t.command id false t.act] else []).filterMap
      Effect.sentCommand, cmd.thermostat = id ∧ cmd.on = false ∧ t.active = true := by
    intro cmd sent
    split at sent
    · next runs =>
      simp only [Controller.runsSwitch, Bool.and_eq_true] at runs
      cases List.mem_singleton.mp sent
      exact ⟨rfl, rfl, runs.1.2⟩
    · cases sent
  intro other u there
  rw [view_queued]
  rw [Std.ExtTreeMap.getElem?_insert] at there
  by_cases same : id = other
  · subst same
    rw [if_pos Std.ReflCmp.compare_self] at there
    cases there
    exact .inr ⟨List.mem_singleton.mpr rfl, moves t _ found fun cmd sent => (offs cmd sent).2⟩
  · rw [if_neg fun equal => same (Std.LawfulEqCmp.eq_of_compare equal)] at there
    refine .inl (rule.stopped (fun cmd sent => ⟨(offs cmd sent).2.1, ?_⟩) (all other u there))
    rw [(offs cmd sent).1]
    exact same

theorem switchTo_started (id actuator : String) :
    (c.switchTo id actuator now).started = c.started := by
  unfold Controller.switchTo
  split <;> rfl

/-- A thermostat that was changed is decided after what is used was settled. -/
theorem finish_all (rule : Rule now Decided Open) (started : c.started = true) {id : String}
    (all : c.All (But Decided Open [id])) (before : List String) :
    ((c.resubscribe before).evaluate id now).All Decided := by
  have kept := rule.evaluate_all (c := c.resubscribe before) started
    (Controller.resubscribe_all (rule.butIsLocal [id]) all before)
  exact fun other t found => (kept other t found).resolve_right fun listed => by cases listed.1

theorem settleCandidate_all (rule : Rule now Decided Open) (started : c.started = true)
    (all : c.All Decided) {device : String}
    (moves : c.Moves Open device now) :
    (c.settleCandidate device now).All Decided := by
  unfold Controller.settleCandidate
  dsimp only
  split
  · exact all
  split
  · exact all
  next candidate found =>
  have forgotten : { c with candidates := c.candidates.erase device }.All Decided :=
    fun id t there => all id t there
  refine rule.finish_all ?_ ?_ _
  · split
    · rw [report_started, switchTo_started]
      exact started
    · rw [report_started]
      exact started
  · split
    · exact report_all (rule.switchTo_all forgotten fun t more there => moves candidate t more found there)
        _ _ _
    · exact report_all (fun id t there => .inl (forgotten id t there)) _ _ _

/-! ## Switches -/

theorem modify_getElem? (id other : String) (change : Thermo → Thermo) :
    (c.modify id change).therms[other]? =
      if id = other then c.therms[id]?.map change else c.therms[other]? := by
  simp only [Controller.modify, Std.ExtTreeMap.getElem?_modify, Std.compare_eq_iff_eq]

theorem modify_all {P P' : View → String → Thermo → Prop} {id : String} {change : Thermo → Thermo}
    (self : ∀ t, c.therms[id]? = some t → P' c.view id (change t))
    (others : ∀ other t, other ≠ id → P c.view other t → P' c.view other t) (all : c.All P) :
    (c.modify id change).All P' := by
  intro other t found
  rw [modify_getElem?] at found
  by_cases same : id = other
  · subst same
    rw [if_pos rfl, Option.map_eq_some_iff] at found
    obtain ⟨before, found, rfl⟩ := found
    exact self before found
  · rw [if_neg same] at found
    exact others other t (Ne.symm same) (all other t found)

theorem ids_nodup (keyed : c.All Keyed) (p : Thermo → Bool) :
    ((c.values.filter p).map (·.cfg.id)).Nodup := by
  have ids : c.values.map (·.cfg.id) = c.therms.toList.map Prod.fst := by
    unfold Controller.values
    rw [List.map_map]
    refine List.map_congr_left fun entry member => ?_
    exact keyed entry.1 entry.2 (Std.ExtTreeMap.mem_toList_iff_getElem?_eq_some.mp member)
  have distinct : (c.values.map (·.cfg.id)).Nodup := by
    rw [ids, List.Nodup, List.pairwise_map]
    refine c.therms.distinct_keys_toList.imp fun {a b} differ same => ?_
    exact differ (by rw [same]; exact Std.ReflCmp.compare_self)
  exact distinct.sublist (List.filter_sublist.map _)

section Report
variable {device : String} {on : Bool}

/-- A switch's report on its way: those still to be told of it, and all others decided. -/
def Telling (Decided Told : View → String → Thermo → Prop) (ids : List String) :
    View → String → Thermo → Prop :=
  fun v id t => (id ∈ ids → Told v id t) ∧ (id ∉ ids → Decided v id t)

theorem tell_all (rule : Rule now Decided Open) {prev : Option Bool}
    {Told : View → String → Thermo → Prop}
    (keeps : ∀ {v id t} sw fresh other u, sw.on = v.on t.act → other ≠ id → Open v id t →
      Told v other u →
        Told (v.sent (Controller.sends id t (t.evaluate sw fresh (v.heardAny t) now).2)) other u)
    (hears : ∀ v id t, Told v id t → Open v id (Controller.hearSwitch true prev on now t))
    (started : c.started = true) {ids : List String} (distinct : ids.Nodup)
    (all : c.All (Telling Decided Told ids)) :
    (ids.foldl (fun c id => (c.modify id (Controller.hearSwitch c.started prev on now)).evaluate id now)
      c).All Decided := by
  induction ids generalizing c with
  | nil => exact fun id t found => (all id t found).2 List.not_mem_nil
  | cons id rest ih =>
    obtain ⟨fresh, distinct⟩ := List.nodup_cons.mp distinct
    rw [List.foldl_cons]
    refine ih ?_ distinct ?_
    · rw [Controller.evaluate_started]
      exact started
    rw [started]
    have told : (c.modify id (Controller.hearSwitch true prev on now)).All fun v other u =>
        (other = id → Open v other u) ∧ (other ≠ id → Telling Decided Told rest v other u) := by
      refine modify_all (fun t found => ⟨fun _ => ?_, absurd rfl⟩) ?_ all
      · exact hears _ id t ((all id t found).1 List.mem_cons_self)
      · intro other t apart telling
        refine ⟨fun same => absurd same apart, fun _ => ⟨fun listed => ?_, fun absent => ?_⟩⟩
        · exact telling.1 (List.mem_cons_of_mem id listed)
        · exact telling.2 (by simp [apart, absent])
    have toldStarted : (c.modify id (Controller.hearSwitch true prev on now)).started = true := started
    have kept := rule.evaluate_keeps (P := Telling Decided Told rest) toldStarted
      (fun t found => (told id t found).1 rfl) ?_ (fun other u found => (told other u found).2)
    · intro other u found
      obtain ⟨self, others⟩ := kept other u found
      by_cases same : other = id
      · exact ⟨fun listed => absurd (same ▸ listed) fresh, fun _ => self same⟩
      · exact others same
    · intro t sw fresh other u seen apart isOpen telling
      exact ⟨fun listed => keeps sw fresh other u seen apart isOpen (telling.1 listed),
        fun absent => (rule.others sw fresh u seen apart isOpen).1 (telling.2 absent)⟩

theorem see_reports :
    (c.see device fun s => { s with on := some on }).view = c.view.reports device on := by
  have on_eq : (c.see device fun s => { s with on := some on }).view.on =
      (c.view.reports device on).on := by
    funext other
    simp only [View.reports, Controller.view]
    split
    · next same => rw [same, see_seenOf]
    · next other => rw [see_seenOf_of_ne other]
  have heard_eq : (c.see device fun s => { s with on := some on }).view.heard = c.view.heard := by
    funext s
    by_cases same : s = device
    · simp only [same, Controller.view, see_seenOf, see_readings]
    · exact see_heard same _
  exact View.ext on_eq heard_eq (see_commands device _)

/-- What a report needs of the predicates: those to be told of it keep what they had from before
it while others are evaluated, and told of it they are open. -/
structure Reports (now : DateTime) (Decided Open : View → String → Thermo → Prop) (device : String)
    (on : Bool) (Told : Option Bool → View → String → Thermo → Prop) : Prop where
  keeps {prev v id t} (sw : Seen) (fresh : List Rat) (other : String) (u : Thermo)
    (seen : sw.on = v.on t.act) (apart : other ≠ id) (isOpen : Open v id t)
    (told : Told prev v other u) :
    Told prev (v.sent (Controller.sends id t (t.evaluate sw fresh (v.heardAny t) now).2)) other u
  tells {v id t} (uses : t.act = device) (decided : Decided v id t) :
    Told (v.on device) (v.reports device on) id t
  hears {prev v id t} (told : Told prev v id t) :
    Open v id (Controller.hearSwitch true prev on now t)

/-- Those that use the switch are told of its report, each by what it was before. -/
theorem onSwitchState_tells (rule : Rule now Decided Open) (started : c.started = true)
    (keyed : c.All Keyed) {Told : View → String → Thermo → Prop}
    (keeps : ∀ {v id t} sw fresh other u, sw.on = v.on t.act → other ≠ id → Open v id t →
      Told v other u →
        Told (v.sent (Controller.sends id t (t.evaluate sw fresh (v.heardAny t) now).2)) other u)
    (hears : ∀ v id t, Told v id t →
      Open v id (Controller.hearSwitch true (c.view.on device) on now t))
    (tells : ∀ id t, c.therms[id]? = some t → t.act = device → Told (c.view.reports device on) id t)
    (rest : ∀ id t, c.therms[id]? = some t → t.act ≠ device →
      Decided (c.view.reports device on) id t) :
    (c.onSwitchState device on now).All Decided := by
  unfold Controller.onSwitchState
  dsimp only
  refine rule.tell_all keeps hears ?_ (ids_nodup (fun id t found => keyed id t found) _) ?_
  · exact started
  intro id t found
  rw [see_reports]
  refine ⟨fun listed => tells id t found ?_, fun absent => rest id t found fun uses => ?_⟩
  · obtain ⟨u, member, same⟩ := List.mem_map.mp listed
    obtain ⟨member, uses⟩ := List.mem_filter.mp member
    obtain ⟨other, there⟩ := Controller.mem_values.mp member
    have sameKey : other = id := (keyed other u there).symm.trans same
    subst sameKey
    cases there.symm.trans found
    exact beq_iff_eq.mp uses
  · refine absent (List.mem_map.mpr ⟨t, List.mem_filter.mpr ⟨?_, beq_iff_eq.mpr uses⟩,
      keyed id t found⟩)
    exact Controller.mem_values.mpr ⟨id, found⟩

theorem onSwitchState_all (rule : Rule now Decided Open) (started : c.started = true)
    (keyed : c.All Keyed) (all : c.All Decided)
    {Told : Option Bool → View → String → Thermo → Prop}
    (reports : Reports now Decided Open device on Told) :
    (c.onSwitchState device on now).All Decided := by
  refine rule.onSwitchState_tells started keyed reports.keeps (fun _ _ _ => reports.hears) ?_ ?_
  · exact fun id t found uses => reports.tells uses (all id t found)
  · intro id t found other
    exact rule.isLocal c.view _ id t rfl (fun _ => if_neg other) (fun _ _ => rfl) (all id t found)

/-- A device said neither whether it is on nor whether it is online. -/
theorem see_view {change : Seen → Seen} (sameOn : ∀ s, (change s).on = s.on)
    (sameOnline : ∀ s, (change s).online = s.online) : (c.see device change).view = c.view := by
  refine View.ext (funext fun other => see_on sameOn other) (funext fun other => ?_) rfl
  by_cases same : other = device
  · simp only [same, Controller.view, see_seenOf, see_readings, sameOnline]
  · exact see_heard same change

theorem evaluateAll_started (ids : List String) :
    (c.evaluateAll ids now).started = c.started := by
  unfold Controller.evaluateAll
  induction ids generalizing c with
  | nil => rfl
  | cons id rest ih => rw [List.foldl_cons, ih, Controller.evaluate_started]

theorem settleCandidate_started (device : String) :
    (c.settleCandidate device now).started = c.started := by
  unfold Controller.settleCandidate
  dsimp only
  split
  · rfl
  split
  · rfl
  · rw [Controller.evaluate_started, Controller.resubscribe_started]
    split
    · rw [report_started, switchTo_started]
    · rw [report_started]

theorem onSensorState_started (formats : Formats) (device : String) (payload : Json) :
    (c.onSensorState formats device payload now).started = c.started := by
  unfold Controller.onSensorState
  split
  · rfl
  split
  · rfl
  · exact evaluateAll_started _

/-- Entries stay under their own ids. -/
theorem keyedRule (now : DateTime) : Rule now Keyed Keyed where
  weaken := id
  evaluate := by
    intro v id t sw fresh _ _ keyed
    rw [Keyed, Thermo.evaluate_cfg]
    exact keyed
  others _ _ _ _ _ _ := ⟨id, id⟩
  isLocal _ _ _ _ _ _ _ := id
  openLocal _ _ := id
  retry := id
  stopped _ := id

/-- A candidate is settled only where there is one. -/
theorem settled_all (rule : Rule now Decided Open) (started : c.started = true)
    (all : c.All Decided) {device : String}
    (moves : c.Moves Open device now) :
    (if device ∈ c.candidates then c.settleCandidate device now else c).All Decided := by
  split
  · exact rule.settleCandidate_all started all moves
  · exact all

theorem settled_started (now : DateTime) (device : String) :
    (if device ∈ c.candidates then c.settleCandidate device now else c).started = c.started := by
  split
  · exact settleCandidate_started device
  · rfl

theorem settled_keyed (started : c.started = true) (keyed : c.All Keyed) (now : DateTime)
    (device : String) :
    (if device ∈ c.candidates then c.settleCandidate device now else c).All Keyed := by
  refine (keyedRule now).settled_all started keyed ?_
  intro candidate t more _ found _
  exact keyed candidate.thermostat t found

theorem taken_all (rule : Rule now Decided Open) (started : c.started = true)
    (keyed : c.All Keyed) (all : c.All Decided) (formats : Formats) (device : String) (payload : Json)
    (moves : c.Moves Open device now) :
    (c.taken formats device payload now).All Decided := by
  unfold Controller.taken
  dsimp only
  generalize said : (c.see device _) = told
  have sameView : told.view = c.view := by
    rw [← said]
    exact see_view (fun _ => rfl) fun _ => rfl
  have toldStarted : told.started = true := by
    rw [← said]
    exact started
  have sameTherms : told.therms = c.therms ∧ told.candidates = c.candidates := by
    rw [← said]
    exact ⟨rfl, rfl⟩
  have toldAll {P} (all : c.All P) : told.All P := by
    intro id t found
    rw [sameTherms.1] at found
    rw [sameView]
    exact all id t found
  have settled : (if device ∈ told.candidates then told.settleCandidate device now else told).All
      Decided := by
    refine rule.settled_all toldStarted (toldAll all) ?_
    rw [Controller.Moves, sameView, sameTherms.1, sameTherms.2]
    exact moves
  have settledKeyed := settled_keyed toldStarted (toldAll keyed) now device
  have settledStarted := (settled_started (c := told) now device).trans toldStarted
  generalize (if device ∈ told.candidates then told.settleCandidate device now else told) = c'
    at settled settledKeyed settledStarted
  exact rule.onSensorState_all settledStarted settledKeyed settled formats device payload

theorem taken_started (formats : Formats) (device : String) (payload : Json) :
    (c.taken formats device payload now).started = c.started := by
  unfold Controller.taken
  rw [onSensorState_started, settled_started]
  rfl

theorem taken_keyed (started : c.started = true) (keyed : c.All Keyed) (formats : Formats)
    (device : String) (payload : Json) : (c.taken formats device payload now).All Keyed :=
  (keyedRule now).taken_all started keyed keyed formats device payload
    fun candidate t _ _ found _ => keyed candidate.thermostat t found

theorem onState_all (rule : Rule now Decided Open) (started : c.started = true)
    (keyed : c.All Keyed) (all : c.All Decided) (formats : Formats) (device : String) (payload : Json)
    (moves : c.Moves Open device now)
    (reports : ∀ on, interpretActuatorOn payload = some on →
      ∃ Told, Reports now Decided Open device on Told) :
    (c.onState formats device payload now).All Decided := by
  cases own : c.ownId device with
  | some id =>
    rw [Controller.onState_of_own own started]
    exact all
  | none =>
    have read := rule.taken_all started keyed all formats device payload moves
    rw [Controller.onState_of_other own]
    cases report : interpretActuatorOn payload with
    | none => exact read
    | some on =>
      obtain ⟨_, reports⟩ := reports on report
      refine rule.onSwitchState_all ?_ (taken_keyed started keyed formats device payload) read reports
      rw [taken_started]
      exact started

end Report

end Rule

/-! ## Commands -/

/-- The mode a command asks for. -/
def modeAsked (p : Json) : Option String :=
  if commandOf p = "set_mode" then (p.get "value").bind Json.asStr
  else if commandOf p = "" then (attributeWrites p).2
  else none

/-- The switch a command chooses. -/
def actuatorAsked (p : Json) : Option String :=
  if commandOf p = "set_actuator" then (p.get "device_id").bind Json.asStr else none

/-- A command that sends again what the switch should be. -/
def asksAgain (p : Json) : Bool := commandOf p ∈ ["resume", "resync", "recalculate"]

/-- A command that ends an override: it sets the target or the mode, holds, or resumes. -/
def endsOverride (p : Json) : Bool :=
  commandOf p ∈ ["set_setpoint", "set_mode", "", "hold", "resume"]

theorem endsOverride_of_mode {p : Json} {m : String} (asked : modeAsked p = some m) :
    endsOverride p = true := by
  unfold modeAsked at asked
  split at asked
  · next cmd => simp [endsOverride, cmd]
  split at asked
  · next cmd => simp [endsOverride, cmd]
  · cases asked

/-- Settings that concern neither the mode nor the switch. -/
structure Adjusted (t t' : Thermo) : Prop where
  id : t'.cfg.id = t.cfg.id := by rfl
  mode : t'.cfg.mode = t.cfg.mode := by rfl
  act : t'.act = t.act := by rfl
  maxRun : t'.cfg.maxRunSecs = t.cfg.maxRunSecs := by rfl
  commanded : t'.commanded = t.commanded := by rfl
  confirmed : t'.confirmed = t.confirmed := by rfl
  onSince : t'.onSince = t.onSince := by rfl
  enteringOff : t'.enteringOff = t.enteringOff := by rfl
  overrideUntil : t'.overrideUntil = t.overrideUntil ∨ t'.overrideUntil = none

/-- What a command for a thermostat can do before the thermostat is evaluated. -/
inductive Applied (c : Controller) (id : String) (t : Thermo) (p : Json) (now : DateTime) :
    Controller → Prop where
  | untouched (candidates) : Applied c id t p now { c with candidates := candidates }
  | adjusted {c'} (applied : Applied c id t p now c') (change : Thermo → Thermo)
      (adjusts : ∀ u, Adjusted u (change u)) (calm : ∀ u, (change u).force = u.force)
      (spares : endsOverride p = true ∨ ∀ u, (change u).overrideUntil = u.overrideUntil) :
      Applied c id t p now (c'.modify id change)
  | forced (change : Thermo → Thermo) (adjusts : ∀ u, Adjusted u (change u))
      (active : ∀ u, (change u).force = true → u.active = true) (asked : asksAgain p = true)
      (spares : endsOverride p = true ∨ ∀ u, (change u).overrideUntil = u.overrideUntil) :
      Applied c id t p now (c.modify id change)
  | mode (mode : Mode) (asked : modeAsked p = some mode.asStr) (allowed : mode ∈ t.cfg.kind.modes) :
      Applied c id t p now (c.modify id fun u =>
        (if u.cfg.mode ≠ mode then Controller.changeMode mode u else u).personChangedIt)
  | moved (device : String) (asked : actuatorAsked p = some device) :
      Applied c id t p now (c.switchTo id device now)

namespace Applied
variable {c : Controller} {id : String} {t : Thermo} {p : Json} {now : DateTime}

theorem same : Applied c id t p now c := .untouched c.candidates

theorem setSetpoint {c' : Controller} (applied : Applied c id t p now c') (formats : Formats)
    (v : Rat) (ends : endsOverride p = true) :
    Applied c id t p now (c'.setSetpoint formats id v).1 := by
  unfold Controller.setSetpoint
  split
  · exact applied
  · exact .adjusted applied _ (fun _ => { overrideUntil := .inr rfl }) (fun _ => rfl) (.inl ends)

theorem setMode {m : String} (asked : modeAsked p = some m) :
    Applied c id t p now (c.setMode id t m).1 := by
  unfold Controller.setMode
  dsimp only
  split
  · exact same
  · next mode chosen =>
    have named : mode.asStr = m := by simpa using List.find?_some chosen
    exact .mode mode (named ▸ asked) (List.mem_of_find?_eq_some chosen)

theorem setActuator (cmd : commandOf p = "set_actuator") :
    Applied c id t p now (c.setActuator id t p now).1 := by
  unfold Controller.setActuator
  split
  · exact same
  split
  · exact same
  next device named =>
  have asked : actuatorAsked p = some device := by rw [actuatorAsked, if_pos cmd, named]
  split
  · next empty =>
    have isEmpty : device = "" := by simpa using empty
    exact .moved "" (isEmpty ▸ asked)
  split
  · exact same
  split
  · exact same
  split
  · exact same
  split
  · exact .moved device asked
  split
  · exact same
  · exact .untouched _

theorem holdFor (formats : Formats) (ends : endsOverride p = true) :
    Applied c id t p now (c.holdFor formats id p now).1 := by
  unfold Controller.holdFor
  split
  · exact same
  split
  · exact same
  dsimp only
  split
  · exact same
  split
  · exact .adjusted same _ (fun _ => { overrideUntil := .inr rfl }) (fun _ => rfl) (.inl ends)
  · exact same

theorem setShortCycle : Applied c id t p now (c.setShortCycle id p).1 := by
  unfold Controller.setShortCycle
  dsimp only
  split
  · exact same
  split
  · exact same
  · exact .adjusted same _ (fun _ => { overrideUntil := .inl rfl }) (fun _ => rfl) (.inr fun _ => rfl)

theorem setSensors : Applied c id t p now (c.setSensors id t p now).1 := by
  unfold Controller.setSensors
  dsimp only
  split
  · exact same
  split
  · exact same
  split
  · exact same
  split
  · exact same
  · exact .adjusted same _ (fun _ => { overrideUntil := .inl rfl }) (fun _ => rfl) (.inr fun _ => rfl)

theorem writeAttributes (formats : Formats) (cmd : commandOf p = "") :
    Applied c id t p now (c.writeAttributes formats id t p).1 := by
  have asked {m : String} (written : (attributeWrites p).2 = some m) : modeAsked p = some m := by
    rw [modeAsked, if_neg (by rw [cmd]; decide), if_pos cmd, written]
  have ends : endsOverride p = true := by simp [endsOverride, cmd]
  unfold Controller.writeAttributes
  dsimp only
  cases written : (attributeWrites p).2 with
  | none =>
    cases (attributeWrites p).1 with
    | none => exact same
    | some v => exact same.setSetpoint formats v ends
  | some m =>
    have modeSet : Applied c id t p now (c.setMode id t m).1 := setMode (asked written)
    cases (attributeWrites p).1 with
    | none => exact modeSet
    | some v =>
      dsimp only
      split
      · next refused => rwa [refused] at modeSet
      · next _ set =>
        rw [set] at modeSet
        exact modeSet.setSetpoint formats v ends

theorem applyCommand (formats : Formats) :
    Applied c id t p now (c.applyCommand formats id (commandOf p) t p now).1 := by
  unfold Controller.applyCommand
  dsimp only
  split
  · next cmd =>
    split
    · exact same
    · exact same.setSetpoint formats _ (by simp [endsOverride, cmd])
  · next cmd =>
    split
    · exact same
    · next m value => exact setMode (by rw [modeAsked, if_pos cmd, value])
  · next cmd => exact writeAttributes formats cmd
  · next cmd => exact holdFor formats (by simp [endsOverride, cmd])
  · next cmd =>
    refine .forced _ (fun _ => { overrideUntil := .inr rfl }) (fun u again => again) ?_ ?_
    · simp [asksAgain, cmd]
    · exact .inl (by simp [endsOverride, cmd])
  · next cmd =>
    refine .forced _ (fun _ => { overrideUntil := .inl rfl })
      (fun u again => ((Bool.and_eq_true _ _).mp again).1) ?_ (.inr fun _ => rfl)
    simp [asksAgain, cmd]
  · next cmd =>
    refine .forced _ (fun _ => { overrideUntil := .inl rfl })
      (fun u again => ((Bool.and_eq_true _ _).mp again).1) ?_ (.inr fun _ => rfl)
    simp [asksAgain, cmd]
  · exact .adjusted same _ (fun _ => { overrideUntil := .inl rfl }) (fun _ => rfl) (.inr fun _ => rfl)
  · split
    · exact same
    split
    · exact .adjusted same _ (fun _ => { overrideUntil := .inl rfl }) (fun _ => rfl) (.inr fun _ => rfl)
    · exact same
  · split
    · exact same
    · exact .adjusted same _ (fun _ => { overrideUntil := .inl rfl }) (fun _ => rfl) (.inr fun _ => rfl)
  · exact setShortCycle
  · exact setSensors
  · next cmd => exact setActuator cmd
  · exact same

theorem started {c' : Controller} (applied : Applied c id t p now c') : c'.started = c.started := by
  induction applied with
  | untouched => rfl
  | adjusted _ _ _ _ _ ih => exact ih
  | forced => rfl
  | mode => rfl
  | moved device => exact Rule.switchTo_started id device

variable {Decided Open : View → String → Thermo → Prop}

theorem all {c' : Controller} (applied : Applied c id t p now c') (rule : Rule now Decided Open)
    (found : c.therms[id]? = some t) (decided : c.All Decided)
    (adjusts : ∀ v u u', Adjusted u u' → u'.force = u.force →
      (endsOverride p = true ∨ u'.overrideUntil = u.overrideUntil) → Open v id u → Open v id u')
    (forces : ∀ u', asksAgain p = true → Adjusted t u' → (u'.force = true → t.active = true) →
      (endsOverride p = true ∨ u'.overrideUntil = t.overrideUntil) → Open c.view id u')
    (modes : ∀ mode : Mode, modeAsked p = some mode.asStr → mode ∈ t.cfg.kind.modes →
      Open c.view id
        (if t.cfg.mode ≠ mode then Controller.changeMode mode t else t).personChangedIt)
    (moves : ∀ device more, actuatorAsked p = some device →
      (∀ cmd ∈ more, cmd.on = false ∧ t.active = true) →
        Open (c.view.sent more) id (t.moveTo device now)) :
    c'.All (Rule.But Decided Open [id]) := by
  have others : ∀ {c' : Controller} other u, other ≠ id → Decided c'.view other u →
      Rule.But Decided Open [id] c'.view other u := fun _ _ _ => .inl
  induction applied with
  | untouched => exact fun other u there => .inl (decided other u there)
  | adjusted applied change adjusted calm spares ih =>
    refine Rule.modify_all (fun u there => .inr ⟨List.mem_singleton.mpr rfl, ?_⟩)
      (fun _ _ _ kept => kept) ih
    exact adjusts _ u _ (adjusted u) (calm u) (spares.imp_right (· u))
      ((ih id u there).elim rule.weaken (·.2))
  | forced change adjusted active asked spares =>
    refine Rule.modify_all (fun u there => .inr ⟨List.mem_singleton.mpr rfl, ?_⟩) others decided
    cases found.symm.trans there
    exact forces _ asked (adjusted t) (active t) (spares.imp_right (· t))
  | mode mode asked allowed =>
    refine Rule.modify_all (fun u there => .inr ⟨List.mem_singleton.mpr rfl, ?_⟩) others decided
    cases found.symm.trans there
    exact modes mode asked allowed
  | moved device asked =>
    refine rule.switchTo_all decided fun u more there offs => ?_
    cases found.symm.trans there
    exact moves device more asked offs

end Applied

namespace Rule
variable {now : DateTime} {Decided Open : View → String → Thermo → Prop} {c : Controller}

theorem onCommand_all (rule : Rule now Decided Open) (started : c.started = true)
    (all : c.All Decided) (formats : Formats) (device : String) (payload : Json)
    (applies : ∀ id t c', c.ownId device = some id → c.therms[id]? = some t →
      Applied c id t payload now c' → c'.All (But Decided Open [id])) :
    (c.onCommand formats device payload now).All Decided := by
  unfold Controller.onCommand
  split
  · exact all
  next id own =>
  split
  · exact all
  next t found =>
  have applied : Applied c id t payload now _ := .applyCommand formats
  have after := applies id t _ own found applied
  have afterStarted := applied.started.trans started
  dsimp only
  split
  · next is =>
    rw [is] at after afterStarted
    exact rule.finish_all afterStarted after _
  all_goals
    next is =>
    rw [is] at after afterStarted
    refine rule.finish_all ?_ (report_all after _ _ _) _
    rw [report_started]
    exact afterStarted

theorem push_view (effects : List Effect) :
    (c.push effects).view = c.view.sent (effects.filterMap Effect.sentCommand) :=
  view_queued c.therms effects

theorem push_all {P : View → String → Thermo → Prop} (all : c.All P) {effects : List Effect}
    (silent : effects.filterMap Effect.sentCommand = []) : (c.push effects).All P := by
  intro id t found
  rw [push_view, silent, View.sent, List.append_nil]
  exact all id t found

/-- Once the one thermostat left open is evaluated, all are decided. -/
theorem evaluate_last (rule : Rule now Decided Open) {id : String}
    (all : c.All (But Decided Open [id])) (started : c.started = true) :
    (c.evaluate id now).All Decided :=
  fun other t found => ((rule.evaluate_all started all) other t found).resolve_right
    fun listed => by cases listed.1

theorem add_all (rule : Rule now Decided Open) (started : c.started = true) (all : c.All Decided)
    (entry : ThermostatEntry) (opens : Open c.view entry.id (Thermo.added entry now)) :
    (c.add entry now).All Decided := by
  unfold Controller.add
  dsimp only
  have inserted : { c with
      fileEntries := c.fileEntries.insert entry.id entry
      therms := c.therms.insert entry.id (Thermo.added entry now) }.All
        (But Decided Open [entry.id]) := by
    intro id t found
    rw [Std.ExtTreeMap.getElem?_insert] at found
    by_cases same : entry.id = id
    · subst same
      rw [if_pos Std.ReflCmp.compare_self] at found
      cases found
      exact .inr ⟨List.mem_singleton.mpr rfl, opens⟩
    · rw [if_neg fun equal => same (Std.LawfulEqCmp.eq_of_compare equal)] at found
      exact .inl (all id t found)
  have settled := Controller.resubscribe_all (rule.butIsLocal [entry.id]) inserted c.usedIds
  split
  · exact rule.evaluate_last (push_all settled rfl) started
  · exact rule.evaluate_last settled started

theorem remove_all (rule : Rule now Decided Open) (all : c.All Decided) (id : String) :
    (c.remove id).All Decided := by
  unfold Controller.remove
  split
  · exact all
  next t found =>
  refine Controller.resubscribe_all rule.isLocal ?_ _
  intro other u there
  have apart : other ≠ id := by
    rintro rfl
    simp only [Std.ExtTreeMap.getElem?_erase_self] at there
    cases there
  have before : c.therms[other]? = some u := by
    simp only [Std.ExtTreeMap.getElem?_erase, Std.compare_eq_iff_eq, Ne.symm apart, if_false] at there
    exact there
  change Decided (c.push _).view other u
  rw [push_view]
  refine rule.stopped (fun cmd sent => ?_) (all other u before)
  rw [List.filterMap_append, List.mem_append] at sent
  rcases sent with sent | sent
  · split at sent
    · cases List.mem_singleton.mp sent
      exact ⟨rfl, Ne.symm apart⟩
    · cases sent
  · cases sent

theorem recalculateAll_all (rule : Rule now Decided Open) (started : c.started = true)
    (opens : c.All Open) (force : Bool)
    (forced : force = true → ∀ id t, c.therms[id]? = some t → Open c.view id t.resync) :
    (c.recalculateAll force now).All Decided := by
  unfold Controller.recalculateAll
  dsimp only
  split
  · next again =>
    refine rule.tick_all ?_ ?_
    · exact started
    · intro id t found
      rw [Std.ExtTreeMap.getElem?_map, Option.map_eq_some_iff] at found
      obtain ⟨before, found, rfl⟩ := found
      exact forced again id before found
  · exact rule.tick_all started opens

theorem shutdown_all {P : View → String → Thermo → Prop} (keyed : c.All Keyed) (all : c.All P)
    (stops : ∀ {v id t more},
      (∀ cmd ∈ more, cmd.on = false ∧ (cmd.thermostat = id → t.active = true)) →
        P v id t → P (v.sent more) id t) :
    c.shutdown.All P := by
  intro id t found
  unfold Controller.shutdown
  rw [push_view]
  refine stops (fun cmd sent => ?_) (all id t found)
  obtain ⟨effect, queued, sent⟩ := List.mem_filterMap.mp sent
  obtain ⟨u, member, queued⟩ := List.mem_flatMap.mp queued
  obtain ⟨other, there⟩ := Controller.mem_values.mp member
  split at queued
  · cases queued
  next heats =>
  split at queued
  · cases List.mem_singleton.mp queued
    cases sent
    refine ⟨rfl, fun mine => ?_⟩
    have same : other = id := (keyed other u there).symm.trans mine
    subst same
    cases there.symm.trans found
    simp only [Bool.or_eq_true, not_or, Bool.not_eq_true, Bool.not_eq_false'] at heats
    exact heats.1.2
  · cases queued

/-! ## Every input -/

theorem keyedReports (now : DateTime) (device : String) (on : Bool) :
    Reports now Keyed Keyed device on fun _ => Keyed where
  keeps _ _ _ _ _ _ _ := id
  tells _ := id
  hears told := by
    rw [Keyed, (hearSwitch_frame true _ on now _).1]
    exact told

theorem handle_keyed (started : c.started = true) (keyed : c.All Keyed) (formats : Formats)
    (input : Input) (now : DateTime) : (c.handle formats input now).All Keyed := by
  have rule := keyedRule now
  cases input with
  | state device payload =>
    refine rule.onState_all started keyed keyed formats device payload ?_ fun on _ =>
      ⟨_, keyedReports now device on⟩
    exact fun candidate t more _ found _ => keyed candidate.thermostat t found
  | availability device online => exact rule.onAvailability_all started keyed keyed device online
  | command device payload =>
    refine rule.onCommand_all started keyed formats device payload fun id t c' _ found applied => ?_
    refine applied.all rule found keyed ?_ ?_ ?_ ?_
    · exact fun v u u' adjusted _ _ isKeyed => adjusted.id.trans isKeyed
    · exact fun u' _ adjusted _ _ => adjusted.id.trans (keyed id t found)
    · intro mode _ _
      have kept := keyed id t found
      split
      · unfold Controller.changeMode
        dsimp only
        split <;> exact kept
      · exact kept
    · exact fun _ _ _ _ => keyed id t found
  | tick => exact rule.tick_all started keyed
  | add entry => exact rule.add_all started keyed entry rfl
  | remove id => exact rule.remove_all keyed id
  | recalculateAll force =>
    exact rule.recalculateAll_all started keyed force fun _ id t found => keyed id t found
  | shutdown => exact shutdown_all keyed keyed fun _ => id

theorem tick_started : (c.tick now).started = c.started := by
  unfold Controller.tick
  dsimp only
  rw [evaluateAll_started]
  generalize (c.candidates.toList.filter _).map Prod.fst = expired
  induction expired generalizing c with
  | nil => rfl
  | cons device rest ih => rw [List.foldl_cons, ih, dropCandidate_started]

theorem onSwitchState_started (device : String) (on : Bool) :
    (c.onSwitchState device on now).started = c.started := by
  unfold Controller.onSwitchState
  dsimp only
  generalize told : (c.see device _) = c'
  have same : c'.started = c.started := by rw [← told]; rfl
  rw [← same]
  generalize List.map _ _ = ids
  generalize (c.seenOf device).on = prev
  clear told same
  induction ids generalizing c' with
  | nil => rfl
  | cons id rest ih =>
    rw [List.foldl_cons, ih, Controller.evaluate_started]
    rfl

theorem handle_started (started : c.started = true) (formats : Formats) (input : Input)
    (now : DateTime) : (c.handle formats input now).started = true := by
  cases input with
  | state device payload =>
    unfold Controller.handle Controller.onState
    dsimp only
    split
    · rw [if_pos started]
      exact started
    · split
      · rw [onSensorState_started, settled_started]
        exact started
      · rw [onSwitchState_started, onSensorState_started, settled_started]
        exact started
  | availability device online =>
    unfold Controller.handle Controller.onAvailability
    dsimp only
    split
    · exact started
    · unfold Controller.evaluateUsing
      rw [evaluateAll_started]
      split <;> exact started
  | command device payload =>
    unfold Controller.handle Controller.onCommand
    dsimp only
    split
    · exact started
    next id own =>
    split
    · exact started
    next t found =>
    have applied : Applied c id t payload now _ := .applyCommand formats
    have kept := applied.started.trans started
    rw [Controller.evaluate_started, Controller.resubscribe_started]
    split
    · next is => rwa [is] at kept
    all_goals
      next is =>
      rw [is] at kept
      rw [report_started]
      exact kept
  | tick => exact tick_started.trans started
  | add entry =>
    unfold Controller.handle Controller.add
    dsimp only
    rw [Controller.evaluate_started]
    split <;> exact started
  | remove id =>
    unfold Controller.handle Controller.remove
    dsimp only
    split <;> exact started
  | recalculateAll force =>
    unfold Controller.handle Controller.recalculateAll
    dsimp only
    rw [tick_started]
    split <;> exact started
  | shutdown => exact started

end Rule

end HomeCore.Thermostat
