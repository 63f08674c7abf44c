import HomeCore.Runs
import HomeCore.Thermostat.BootProofs

/-! Off means off, then hands off. The one OFF that is owed to the switch stays asked for and
unanswered until the switch reports off, as long as it is never owed to a switch that already
reports off. -/
namespace HomeCore.Thermostat
namespace Thermo
variable {t : Thermo} {sw : Seen} (nowOn : Option Bool) (fresh : List Rat) (heardAny : Bool)
  (now : DateTime)

/-- Off with nothing owed: the switch is left alone. -/
theorem decision_of_off {waiting : Bool} (off : t.active = false) (nothing : t.enteringOff = false) :
    (t.decision waiting).desired = none := by
  unfold decision
  split
  · rfl
  · rw [if_neg (by rw [nothing]; exact Bool.false_ne_true), if_pos (by rw [off]; rfl)]

/-- An OFF that is owed is desired, whatever the guards say. -/
theorem decision_of_owed {waiting : Bool} (switch : t.act.isEmpty = false)
    (owed : t.enteringOff = true) : t.decision waiting = ⟨t, some false, true⟩ := by
  unfold decision
  rw [if_neg (by rw [switch]; exact Bool.false_ne_true), if_pos owed]

theorem decided_of_owed (switch : t.act.isEmpty = false) (owed : t.enteringOff = true) :
    (t.decided nowOn fresh heardAny now).desired = some false ∧
      (t.decided nowOn fresh heardAny now).safety = true := by
  unfold decided
  rw [decision_of_owed (by simpa using switch) (by simpa using owed)]
  exact ⟨rfl, rfl⟩

/-- The one OFF that is owed was asked for, and the switch has not answered. -/
def OwesUnanswered (on : Option Bool) (t : Thermo) : Prop :=
  t.enteringOff = true → t.act.isEmpty = false ∧ t.active = false ∧ t.commanded = some false ∧
    t.confirmed = false ∧ on ≠ some false

/-- An OFF that is owed can still be asked for. -/
def OwesAskable (on : Option Bool) (t : Thermo) : Prop :=
  t.enteringOff = true → t.act.isEmpty = false → t.active = false ∧ on ≠ some false ∧
    (t.commanded = some false → t.confirmed = true → t.force = true)

theorem OwesUnanswered.askable {on : Option Bool} (owes : OwesUnanswered on t) :
    OwesAskable on t := by
  intro owed _
  obtain ⟨_, off, _, waiting, unseen⟩ := owes owed
  refine ⟨off, unseen, ?_⟩
  intro _ confirmed
  rw [waiting] at confirmed
  cases confirmed

theorem evaluate_owes (owes : OwesAskable sw.on t) :
    OwesUnanswered sw.on (t.evaluate sw fresh heardAny now).1 := by
  have evaluated := evaluate_evaluated t sw fresh heardAny now
  intro owed
  obtain ⟨owedBefore, switch⟩ := evaluated.owed owed
  obtain ⟨off, unseen, again⟩ := owes owedBefore switch
  obtain ⟨desired, safety⟩ :=
    decided_of_owed (sw.on.or t.commanded) fresh heardAny now switch owedBefore
  have isOff : ∀ {w}, (t.decided (sw.on.or t.commanded) fresh heardAny now).desired = some w →
      w = false := by
    intro w wanted
    rw [desired] at wanted
    exact (Option.some.inj wanted).symm
  refine ⟨?_, ?_, ?_⟩
  · rw [act, evaluate_cfg]
    exact switch
  · rw [active, evaluate_cfg]
    exact off
  cases evaluated with
  | idle _ _ nothing =>
    rw [desired] at nothing
    cases nothing
  | unanswered w _ kept wanted asked waiting =>
    cases isOff wanted
    exact ⟨kept.commanded.trans asked, kept.confirmed.trans waiting, unseen⟩
  | assumed w _ _ wanted asked answered _ calm =>
    cases isOff wanted
    rw [decided_force, again asked answered] at calm
    cases calm
  | guarded _ _ _ _ usual =>
    rw [safety] at usual
    cases usual
  | agreed w _ wanted reported =>
    cases isOff wanted
    exact absurd reported unseen
  | sent w _ wanted _ commanded confirmed =>
    cases isOff wanted
    exact ⟨commanded, by rw [confirmed]; simpa using unseen, unseen⟩

variable (sw) in
/-- Off and owing nothing, it sends nothing and goes on owing nothing. -/
theorem evaluate_off (off : t.active = false) (nothing : t.enteringOff = false) :
    (t.evaluate sw fresh heardAny now).2 = none ∧
      (t.evaluate sw fresh heardAny now).1.enteringOff = false := by
  have evaluated := evaluate_evaluated t sw fresh heardAny now
  have desired : (t.decided (sw.on.or t.commanded) fresh heardAny now).desired = none := by
    unfold decided
    exact decision_of_off (by simpa using off) (by simpa using nothing)
  refine ⟨evaluated.silent desired, ?_⟩
  · cases owed : (t.evaluate sw fresh heardAny now).1.enteringOff with
    | false => rfl
    | true =>
      rw [(evaluated.owed owed).1] at nothing
      cases nothing

/-- Told of a report, the thermostat owes its OFF only where the switch is on. -/
theorem hearSwitch_owes (prev : Option Bool) (on : Bool)
    (asked : t.enteringOff = true →
      t.active = false ∧ t.commanded = some false ∧ t.confirmed = false) :
    OwesAskable (some on) (Controller.hearSwitch true prev on now t) := by
  intro owed _
  obtain ⟨cfg, _, _⟩ := hearSwitch_frame true prev on now t
  rw [active, cfg]
  cases hearSwitch_told prev on now t with
  | echo commanded waiting _ _ enteringOff =>
    rw [enteringOff, Bool.and_eq_true] at owed
    obtain ⟨_, askedOff, _⟩ := asked owed.1
    rw [commanded, owed.2] at askedOff
    cases askedOff
  | onItsWay commanded _ _ confirmed enteringOff =>
    obtain ⟨off, askedOff, _⟩ := asked (enteringOff ▸ owed)
    refine ⟨off, ?_, ?_⟩
    · rintro ⟨rfl⟩
      rw [commanded] at askedOff
      cases askedOff
    · intro _ answered
      rw [confirmed] at answered
      cases answered
  | byHand _ answered _ _ enteringOff =>
    obtain ⟨_, askedOff, waiting⟩ := asked (enteringOff ▸ owed)
    rw [askedOff, waiting] at answered
    rcases answered with none | confirmed
    · cases none
    · cases confirmed
  | known _ answered _ _ enteringOff =>
    obtain ⟨_, askedOff, waiting⟩ := asked (enteringOff ▸ owed)
    rw [askedOff, waiting] at answered
    rcases answered with none | confirmed
    · cases none
    · cases confirmed

end Thermo

/-! ## Every input -/

/-- A thermostat that has settled in off sends nothing while it stays off. -/
def Silent (settled : List String) (v : View) (id : String) (t : Thermo) : Prop :=
  id ∈ settled → t.active = false →
    t.enteringOff = false ∧ ∀ cmd ∈ v.commands, cmd.thermostat ≠ id

def OffDecided (settled : List String) (v : View) (id : String) (t : Thermo) : Prop :=
  t.OwesUnanswered (v.on t.act) ∧ Silent settled v id t

def OffOpen (settled : List String) (v : View) (id : String) (t : Thermo) : Prop :=
  t.OwesAskable (v.on t.act) ∧ Silent settled v id t

namespace OffOpen
variable {settled : List String} {v : View} {id : String} {t : Thermo} {now : DateTime}

theorem others {other : String} {u : Thermo} (silent : Silent settled v other u)
    (apart : other ≠ id) (toSend : Option Bool) :
    Silent settled (v.sent (Controller.sends id t toSend)) other u := by
  intro isSettled off
  obtain ⟨nothing, quiet⟩ := silent isSettled off
  refine ⟨nothing, fun cmd sent => ?_⟩
  rcases List.mem_append.mp sent with sent | sent
  · exact quiet cmd sent
  · cases toSend with
    | none => cases sent
    | some w =>
      cases List.mem_singleton.mp sent
      exact Ne.symm apart

theorem rule (settled : List String) (now : DateTime) :
    Rule now (OffDecided settled) (OffOpen settled) where
  weaken decided := ⟨decided.1.askable, decided.2⟩
  evaluate := by
    intro v id t sw fresh seen _ isOpen
    have act : (t.evaluate sw fresh (v.heardAny t) now).1.act = t.act := by
      rw [Thermo.act, Thermo.evaluate_cfg]
      rfl
    refine ⟨?_, ?_⟩
    · rw [act]
      have owes := isOpen.1
      rw [← seen] at owes
      have after := Thermo.evaluate_owes fresh (v.heardAny t) now owes
      rw [seen] at after
      exact after
    · intro isSettled off
      have offBefore : t.active = false := by
        rw [Thermo.active, Thermo.evaluate_cfg] at off
        exact off
      obtain ⟨nothing, quiet⟩ := isOpen.2 isSettled offBefore
      obtain ⟨unsent, owesNothing⟩ :=
        Thermo.evaluate_off sw fresh (v.heardAny t) now offBefore nothing
      rw [unsent]
      refine ⟨owesNothing, ?_⟩
      simpa [View.sent, Controller.sends] using quiet
  others := by
    intro v id t other sw fresh u _ apart _
    exact ⟨And.imp_right (others · apart _), And.imp_right (others · apart _)⟩
  isLocal := by
    intro v v' id t commands on _ decided
    refine ⟨fun owed => ?_, ?_⟩
    · rw [on (decided.1 owed).1]
      exact decided.1 owed
    · rw [Silent, commands]
      exact decided.2
  openLocal := by
    intro v v' id t commands on isOpen
    refine ⟨fun owed switch => ?_, ?_⟩
    · rw [on switch]
      exact isOpen.1 owed switch
    · rw [Silent, commands]
      exact isOpen.2
  retry isOpen := isOpen
  stopped := by
    intro v id t more offs decided
    refine ⟨decided.1, fun isSettled off => ?_⟩
    obtain ⟨nothing, quiet⟩ := decided.2 isSettled off
    refine ⟨nothing, fun cmd sent mine => ?_⟩
    rcases List.mem_append.mp sent with sent | sent
    · exact quiet cmd sent mine
    · exact (offs cmd sent).2 mine

theorem stops (decided : OffDecided settled v id t) {more : List Command}
    (offs : ∀ cmd ∈ more, cmd.on = false ∧ (cmd.thermostat = id → t.active = true)) :
    OffDecided settled (v.sent more) id t := by
  refine ⟨decided.1, fun isSettled off => ?_⟩
  obtain ⟨nothing, quiet⟩ := decided.2 isSettled off
  refine ⟨nothing, fun cmd sent mine => ?_⟩
  rcases List.mem_append.mp sent with sent | sent
  · exact quiet cmd sent mine
  · rw [(offs cmd sent).2 mine] at off
    cases off

/-- A switch that is not already off can be owed the OFF. -/
theorem moveTo (decided : OffDecided settled v id t) {device : String}
    (notOff : t.enteringOff = true → v.on device ≠ some false) {more : List Command}
    (offs : ∀ cmd ∈ more, cmd.on = false ∧ t.active = true) :
    OffOpen settled (v.sent more) id (t.moveTo device now) := by
  refine ⟨fun owed _ => ?_, fun isSettled off => ?_⟩
  · refine ⟨(decided.1 owed).2.1, notOff owed, ?_⟩
    intro asked
    cases asked
  · obtain ⟨nothing, quiet⟩ := decided.2 isSettled off
    refine ⟨nothing, fun cmd sent => ?_⟩
    rcases List.mem_append.mp sent with sent | sent
    · exact quiet cmd sent
    · have active : t.active = true := (offs cmd sent).2
      have off : t.active = false := off
      rw [active] at off
      cases off

theorem adjusted {t' : Thermo} (isOpen : OffOpen settled v id t) (adjusts : Adjusted t t')
    (forced : t.enteringOff = true → t.confirmed = true → t.force = true → t'.force = true) :
    OffOpen settled v id t' := by
  have active : t'.active = t.active := by rw [Thermo.active, adjusts.mode, Thermo.active]
  refine ⟨fun owed switch => ?_, fun isSettled off => ?_⟩
  · rw [adjusts.enteringOff] at owed
    rw [adjusts.act] at switch
    obtain ⟨off, unseen, again⟩ := isOpen.1 owed switch
    rw [active, adjusts.act, adjusts.commanded, adjusts.confirmed]
    exact ⟨off, unseen, fun asked answered => forced owed answered (again asked answered)⟩
  · rw [adjusts.enteringOff]
    exact isOpen.2 isSettled (active ▸ off)

/-- While an OFF is owed, it matters not whether sending again is forced. -/
theorem forced {t' : Thermo} (decided : OffDecided settled v id t) (adjusts : Adjusted t t') :
    OffOpen settled v id t' := by
  refine adjusted ⟨decided.1.askable, decided.2⟩ adjusts fun owed answered => ?_
  rw [(decided.1 owed).2.2.2.1] at answered
  cases answered

/-- Set to off, the thermostat owes its switch an OFF that can be asked for. -/
theorem changeMode (decided : OffDecided settled v id t) (wasOff : id ∈ settled → t.active = false)
    {mode : Mode} (notOff : mode = .off → t.active = true → t.act.isEmpty = false →
      v.on t.act ≠ some false) :
    OffOpen settled v id
      (if t.cfg.mode ≠ mode then Controller.changeMode mode t else t).personChangedIt := by
  split
  · next changes =>
    unfold Controller.changeMode
    dsimp only
    split
    · next off =>
      have wasActive : t.active = true := by simpa [Thermo.active, off] using changes
      refine ⟨fun _ switch => ⟨by simp [Thermo.personChangedIt, Thermo.active, off], ?_, fun _ _ => rfl⟩, ?_⟩
      · exact notOff off wasActive switch
      · intro isSettled
        rw [wasOff isSettled] at wasActive
        cases wasActive
    · next on =>
      refine ⟨fun owed => (by cases owed), fun _ off => ?_⟩
      refine absurd ?_ on
      simpa [Thermo.personChangedIt, Thermo.active] using off
  · exact ⟨decided.1.askable, decided.2⟩

/-- Told of a switch's report, with what it owed before. -/
def Telling (settled : List String) (on : Bool) (v : View) (id : String) (t : Thermo) : Prop :=
  (t.enteringOff = true → t.active = false ∧ t.commanded = some false ∧ t.confirmed = false) ∧
    v.on t.act = some on ∧ Silent settled v id t

theorem reports (settled : List String) (now : DateTime) (device : String) (on : Bool) :
    Rule.Reports now (OffDecided settled) (OffOpen settled) device on
      fun _ => Telling settled on where
  keeps := by
    intro prev v id t sw fresh other u _ apart _ told
    exact ⟨told.1, told.2.1, others told.2.2 apart _⟩
  tells := by
    intro v id t uses decided
    refine ⟨fun owed => ?_, if_pos uses, decided.2⟩
    obtain ⟨_, off, asked, waiting, _⟩ := decided.1 owed
    exact ⟨off, asked, waiting⟩
  hears := by
    intro prev v id t told
    obtain ⟨asked, reported, silent⟩ := told
    obtain ⟨cfg, _, _⟩ := hearSwitch_frame true prev on now t
    refine ⟨?_, fun isSettled off => ?_⟩
    · rw [Thermo.act, cfg]
      have owes := Thermo.hearSwitch_owes now prev on asked
      rw [← reported] at owes
      exact owes
    · rw [Thermo.active, cfg] at off
      obtain ⟨nothing, quiet⟩ := silent isSettled off
      refine ⟨?_, quiet⟩
      cases hearSwitch_told prev on now t with
      | echo _ _ _ _ enteringOff => rw [enteringOff, nothing, Bool.false_and]
      | onItsWay _ _ _ _ enteringOff => rw [enteringOff, nothing]
      | byHand _ _ _ _ enteringOff => rw [enteringOff, nothing]
      | known _ _ _ _ enteringOff => rw [enteringOff, nothing]

end OffOpen

namespace Controller
variable {c : Controller}

def offAlready (c : Controller) (device : String) : Bool := (c.seenOf device).on == some false

/-- The input makes a thermostat owe an OFF to a switch that already reports off: the thermostat
is set to off, or it is given that switch with its OFF not answered by the one before. -/
def owesToOff (c : Controller) : Input → Bool
  | .command device payload => (c.ownId device).any fun id => c.therms[id]?.any fun t =>
      t.active && !t.act.isEmpty && modeAsked payload == some "off" && c.offAlready t.act ||
        t.enteringOff && (actuatorAsked payload).any c.offAlready
  | .state device _ => c.candidates[device]?.any fun candidate =>
      c.therms[candidate.thermostat]?.any fun t => t.enteringOff && c.offAlready device
  | _ => false

theorem handle_off (formats : Formats) (input : Input) (now : DateTime) {settled : List String}
    (started : c.started = true) (keyed : c.All Rule.Keyed) (all : c.All (OffDecided settled))
    (idle : c.commands = [])
    (wasOff : c.All fun _ id t => id ∈ settled → t.active = false)
    (safe : c.owesToOff input = false) : (c.handle formats input now).All (OffDecided settled) := by
  have rule := OffOpen.rule settled now
  cases input with
  | state device payload =>
    refine rule.onState_all started keyed all formats device payload ?_ fun on _ =>
      ⟨_, OffOpen.reports settled now device on⟩
    intro candidate t more chosen found offs
    refine OffOpen.moveTo (all _ t found) (fun owed off => ?_) offs
    have reported : c.offAlready device = true := beq_iff_eq.mpr off
    simp only [owesToOff, chosen, found, owed, Option.any_some, reported] at safe
    cases safe
  | availability device online => exact rule.onAvailability_all started keyed all device online
  | command device payload =>
    refine rule.onCommand_all started all formats device payload fun id t c' own found applied => ?_
    simp only [owesToOff, own, found, Option.any_some, Bool.or_eq_false_iff] at safe
    refine applied.all rule found all ?_ ?_ ?_ ?_
    · exact fun v u u' adjusts calm _ isOpen =>
        OffOpen.adjusted isOpen adjusts fun _ _ force => calm.trans force
    · exact fun u' _ adjusts _ _ => OffOpen.forced (all id t found) adjusts
    · intro mode asked _
      refine OffOpen.changeMode (all id t found) (wasOff id t found) ?_
      rintro rfl active switch off
      have reported : c.offAlready t.act = true := beq_iff_eq.mpr off
      rw [active, switch, asked, reported] at safe
      exact Bool.noConfusion safe.1
    · intro actuator more asked offs
      refine OffOpen.moveTo (all id t found) (fun owed off => ?_) offs
      have reported : c.offAlready actuator = true := beq_iff_eq.mpr off
      rw [owed, asked, Option.any_some, reported] at safe
      exact Bool.noConfusion safe.2
  | tick => exact rule.tick_all started fun id t found => rule.weaken (all id t found)
  | add entry =>
    refine rule.add_all started all entry ⟨fun owed => (by cases owed), fun _ _ => ⟨rfl, ?_⟩⟩
    intro cmd sent
    rw [view, idle] at sent
    cases sent
  | remove id => exact rule.remove_all all id
  | recalculateAll force =>
    refine rule.recalculateAll_all started (fun id t found => rule.weaken (all id t found)) force ?_
    exact fun _ id t found => OffOpen.forced (all id t found) { overrideUntil := .inl rfl }
  | shutdown => exact Rule.shutdown_all keyed all fun offs decided => OffOpen.stops decided offs

end Controller
/-! ## Whole runs -/

/-- A controller as it runs, with the thermostats that have settled in off, each with its switch:
the thermostat is off, and the switch has been reported off while it was. -/
structure OffWatch where
  ctl : Controller
  settled : List (String × String)

namespace OffWatch

def isOff (c : Controller) (id : String) : Bool := c.therms[id]?.any fun t => !t.active

def settle (c : Controller) (settled : List (String × String)) : List (String × String) :=
  (settled.filter fun entry => isOff c entry.1) ++
    (c.therms.toList.filter fun entry =>
      !entry.2.active && (c.seenOf entry.2.act).on == some false).map fun entry =>
        (entry.1, entry.2.act)

/-- The controller took an input in: its effects are carried out. -/
def after (c : Controller) (settled : List (String × String)) : OffWatch :=
  ⟨c.takeEffects.1, settle c settled⟩

def start (formats : Formats) (entries : List ThermostatEntry) (heard : List (Heard × DateTime))
    (now : DateTime) : OffWatch :=
  after ((Controller.boot formats entries heard).start now) []

def step (formats : Formats) (w : OffWatch) (input : Input × DateTime) : OffWatch :=
  after (w.ctl.handle formats input.1 input.2) w.settled

/-- No thermostat that has settled in off sends its switch a command while it stays off. -/
def HandsOff (formats : Formats) (w : OffWatch) (input : Input × DateTime) : Prop :=
  let c := w.ctl.handle formats input.1 input.2
  ∀ entry ∈ w.settled, isOff c entry.1 = true →
    ∀ cmd ∈ c.commands, ¬ (cmd.thermostat = entry.1 ∧ cmd.actuator = entry.2)

structure Sound (w : OffWatch) : Prop where
  started : w.ctl.started = true
  keyed : w.ctl.All Rule.Keyed
  idle : w.ctl.commands = []
  owes : w.ctl.All fun v _ t => t.OwesUnanswered (v.on t.act)
  settled : w.ctl.All fun _ id t =>
    id ∈ w.settled.map Prod.fst → t.active = false ∧ t.enteringOff = false

theorem isOff_of_found {c : Controller} {id : String} {t : Thermo}
    (found : c.therms[id]? = some t) : isOff c id = !t.active := by
  rw [isOff, found, Option.any_some]

theorem Sound.decided {w : OffWatch} (sound : w.Sound) : w.ctl.All (OffDecided (w.settled.map Prod.fst)) := by
  intro id t found
  refine ⟨sound.owes id t found, fun isSettled _ => ⟨(sound.settled id t found isSettled).2, ?_⟩⟩
  intro cmd sent
  rw [Controller.view, sound.idle] at sent
  cases sent

/-- Whatever the controller did, it is sound again once its effects are carried out. -/
theorem sound_after {c : Controller} {settled : List (String × String)} (started : c.started = true)
    (keyed : c.All Rule.Keyed) (decided : c.All (OffDecided (settled.map Prod.fst))) :
    (after c settled).Sound where
  started := started
  keyed := keyed
  idle := rfl
  owes id t found := (decided id t found).1
  settled id t found := by
    have found : c.therms[id]? = some t := found
    intro isSettled
    obtain ⟨entry, listed, rfl⟩ := List.mem_map.mp isSettled
    rcases List.mem_append.mp listed with earlier | reported
    · obtain ⟨earlier, off⟩ := List.mem_filter.mp earlier
      rw [isOff_of_found found, Bool.not_eq_true'] at off
      exact ⟨off, ((decided entry.1 t found).2 (List.mem_map_of_mem earlier) off).1⟩
    · obtain ⟨⟨id, u⟩, kept, rfl⟩ := List.mem_map.mp reported
      obtain ⟨there, reported⟩ := List.mem_filter.mp kept
      cases (Std.ExtTreeMap.mem_toList_iff_getElem?_eq_some.mp there).symm.trans found
      simp only [Bool.and_eq_true, Bool.not_eq_true', beq_iff_eq] at reported
      refine ⟨reported.1, ?_⟩
      cases owed : t.enteringOff with
      | false => rfl
      | true => exact absurd reported.2 ((decided id t found).1 owed).2.2.2.2

theorem start_sound (formats : Formats) (entries : List ThermostatEntry)
    (heard : List (Heard × DateTime)) (now : DateTime) : (start formats entries heard now).Sound := by
  have listening := Controller.boot_listening formats entries heard
  refine sound_after (Controller.start_started _ now) ?_ ?_
  · exact Controller.start_all (Rule.keyedRule now) fun id t found =>
      (listening.holds id t found).keyed
  · refine Controller.start_all (OffOpen.rule [] now) fun id t found => ⟨fun owed => ?_, ?_⟩
    · have owed : t.enteringOff = true := owed
      rw [(listening.holds id t found).enteringOff] at owed
      cases owed
    · intro isSettled
      cases isSettled

theorem step_sound (formats : Formats) {w : OffWatch} (input : Input × DateTime) (sound : w.Sound)
    (safe : w.ctl.owesToOff input.1 = false) :
    (w.ctl.handle formats input.1 input.2).All (OffDecided (w.settled.map Prod.fst)) ∧
      (step formats w input).Sound := by
  have decided := Controller.handle_off formats input.1 input.2 sound.started sound.keyed
    sound.decided sound.idle (fun id t found isSettled => (sound.settled id t found isSettled).1) safe
  refine ⟨decided, sound_after ?_ ?_ decided⟩
  · exact Rule.handle_started sound.started formats input.1 input.2
  · exact Rule.handle_keyed sound.started sound.keyed formats input.1 input.2

/-- Off, then hands off, in every run whose inputs never make a thermostat owe an OFF to a switch
that already reports off. -/
theorem off_then_hands_off (formats : Formats) (entries : List ThermostatEntry)
    (heard : List (Heard × DateTime)) (startedAt : DateTime) (inputs : List (Input × DateTime))
    (owed : Runs.EachStep (step formats) (fun w input => w.ctl.owesToOff input.1 = false)
      (start formats entries heard startedAt) inputs) :
    Runs.EachStep (step formats) (HandsOff formats) (start formats entries heard startedAt)
      inputs := by
  have sound := Runs.invariant Sound (fun w input sound safe => (step_sound formats input sound safe).2)
    (start_sound formats entries heard startedAt) owed
  have each := owed.and (sound.eachStep fun w (_ : Input × DateTime) sound => sound)
  refine each.mono fun w input now => ?_
  obtain ⟨safe, sound⟩ := now
  have decided := (step_sound formats input sound safe).1
  intro entry isSettled off cmd sent mine
  obtain ⟨t, found, inactive⟩ := (Option.any_eq_true _ _).mp off
  have silent := (decided entry.1 t found).2 (List.mem_map_of_mem isSettled) (by simpa using inactive)
  exact silent.2 cmd sent mine.1

/-! ## The den's AC -/

instance (formats : Formats) (w : OffWatch) (input : Input × DateTime) :
    Decidable (HandsOff formats w input) :=
  inferInstanceAs (Decidable (∀ entry ∈ w.settled,
    isOff (w.ctl.handle formats input.1 input.2) entry.1 = true →
      ∀ cmd ∈ (w.ctl.handle formats input.1 input.2).commands,
        ¬ (cmd.thermostat = entry.1 ∧ cmd.actuator = entry.2)))

/-- Formats that no input below calls on. -/
def plain : Formats :=
  ⟨fun _ => "", fun _ => none, fun _ => .null, fun _ => none, fun _ names => names, .rfl⟩

def den : ThermostatEntry where
  id := "den"
  name := "Den"
  sensorDeviceIds := ["den_temp"]
  sensorAttribute := "temperature"
  aggregation := .average
  setpoint := 21
  hysteresis := 1
  mode := .cool
  kind? := some .ac
  actuatorDeviceId := "den_ac"
  actuatorOnCmd := none
  actuatorOffCmd := none
  minOnSecs := 0
  minOffSecs := 0
  maxRunSecs? := none
  sensorTimeoutSecs? := none
  onStale := none
  overrideSecs? := none

def switchReport (on : Bool) : Input := .state "den_ac" (.obj [("on", .bool on)])

def setOff : Input := .command "thermostat_den" (.obj [("hvac_mode", .str "off")])

/-- Set to off while the AC runs; it reports off, and is then switched by hand. -/
def offWhileOn : List (Input × DateTime) :=
  [(switchReport true, secs 1), (setOff, secs 2), (switchReport false, secs 3),
    (switchReport true, secs 60), (.tick, secs 70)]

/-- Set to off while the AC already reports off, and then switched on by hand. -/
def offWhileOff : List (Input × DateTime) :=
  [(switchReport false, secs 1), (setOff, secs 2), (switchReport true, secs 60)]

theorem den_left_alone :
    Runs.EachStep (step plain) (fun w input => w.ctl.owesToOff input.1 = false)
        (start plain [den] [] 0) offWhileOn ∧
      Runs.EachStep (step plain) (HandsOff plain) (start plain [den] [] 0) offWhileOn := by
  have owed : Runs.EachStep (step plain) (fun w input => w.ctl.owesToOff input.1 = false)
      (start plain [den] [] 0) offWhileOn := by decide
  exact ⟨owed, off_then_hands_off plain [den] [] 0 offWhileOn owed⟩

theorem den_switched_off_again :
    ¬ Runs.EachStep (step plain) (HandsOff plain) (start plain [den] [] 0) offWhileOff := by
  decide

end OffWatch
end HomeCore.Thermostat
