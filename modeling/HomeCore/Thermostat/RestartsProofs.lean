import HomeCore.Thermostat.ToldProofs
import HomeCore.Thermostat.OverrideProofs

/-! A restart: the start decides each thermostat once, as the document left it, and what comes of
that is the old one just where it outlives a restart. -/
namespace HomeCore.Thermostat
open Controller

namespace Controller
variable {b : Controller} {now : DateTime}

/-! ## Started -/

theorem evaluate_other {id other : String} (apart : other ≠ id) :
    (b.evaluate id now).therms[other]? = b.therms[other]? := by
  rw [evaluate]
  split
  · rfl
  split
  · rfl
  · exact Rule.getElem?_insert_of_ne apart

theorem evaluate_evaluated (id : String) (t : Thermo) : (b.evaluate id now).evaluated t now = b.evaluated t now := by
  rw [evaluate]
  split
  · rfl
  split <;> rfl

theorem evaluateAll_found (started : b.started = true) {ids : List String} (distinct : ids.Nodup) {id : String}
    (listed : id ∈ ids) {t : Thermo} (found : b.therms[id]? = some t) :
    (b.evaluateAll ids now).therms[id]? = some (b.evaluated t now).1 := by
  rw [evaluateAll]
  induction ids generalizing b with
  | nil => cases listed
  | cons first rest ih =>
    obtain ⟨absent, distinct⟩ := List.nodup_cons.mp distinct
    rw [List.foldl_cons]
    by_cases same : id = first
    · subst same
      have others : ∀ (ids : List String) (b : Controller), id ∉ ids →
          (ids.foldl (fun c id => c.evaluate id now) b).therms[id]? = b.therms[id]? := by
        intro ids
        induction ids with
        | nil => exact fun b _ => rfl
        | cons other ids ih =>
          intro b absent
          rw [List.mem_cons, not_or] at absent
          rw [List.foldl_cons, ih _ absent.2, evaluate_other absent.1]
      rw [others rest _ absent, (evaluate_of_found started found now).1, Std.ExtTreeMap.getElem?_insert_self]
    · have stays : (b.evaluate first now).therms[id]? = some t := by rw [evaluate_other same, found]
      rw [ih (by rw [evaluate_started, started]) distinct ((List.mem_cons.mp listed).resolve_left same) stays,
        evaluate_evaluated]

theorem start_found {id : String} {t : Thermo} (found : b.therms[id]? = some t) :
    (b.start now).therms[id]? =
      some (b.evaluated (startThermo (b.seenOf t.act).on now t) now).1 := by
  have distinct : b.therms.keys.Nodup := by
    refine b.therms.distinct_keys.imp fun {a b} differ same => ?_
    exact differ (by rw [same]; exact Std.ReflCmp.compare_self)
  have listed : id ∈ b.therms.keys := by
    rw [Std.ExtTreeMap.mem_keys, Std.ExtTreeMap.mem_iff_isSome_getElem?, found]
    rfl
  simp only [start]
  rw [evaluateAll_found rfl distinct listed]
  · rfl
  · change (b.therms.map fun _ t => startThermo (b.seenOf t.act).on now t)[id]? = _
    rw [Std.ExtTreeMap.getElem?_map, found]
    rfl

end Controller

/-! ## Deciding once -/

namespace Thermo
variable {t r : Thermo} {sw : Seen} {nowOn : Option Bool} {fresh : List Rat} {heardAny : Bool} {now : DateTime}

theorem expire_hold : (t.expire now).hold = t.hold.filter fun hold => decide (now < hold.ends) := by
  have afterwards (u : Thermo) : (if u.overrideUntil.any fun ends => decide (ends ≤ now) then
      { u with overrideUntil := none, overrideAt := none, force := true } else u).hold = u.hold := by
    split <;> rfl
  unfold expire
  dsimp only
  rw [afterwards]
  cases held : t.hold with
  | none => simp [held]
  | some hold =>
    by_cases past : hold.ends ≤ now
    · simp [past, Option.filter, Int.not_lt.mpr past]
    · simp [past, held, Option.filter, Int.not_le.mp past]

theorem evaluate_hold : (t.evaluate sw fresh heardAny now).1.hold =
    t.hold.filter fun hold => decide (now < hold.ends) := by
  rw [(evaluate_decided t sw fresh heardAny now).hold,
    (decided_expired t (sw.on.or t.commanded) fresh heardAny now).hold, expire_hold]

/-- Nothing was asked of its switch, whatever is wanted of it is to be sent, and nothing of it is over. -/
structure Afresh (now : DateTime) (r : Thermo) : Prop where
  commanded : r.commanded = none
  tripped : r.maxRunTripped = false
  enteringOff : r.enteringOff = false
  bypassGuard : r.bypassGuard = false
  force : r.force = r.active
  grace : ∃ ends, r.graceUntil = some ends ∧ now < ends
  hold : ∀ hold, r.hold = some hold → now < hold.ends
  override : ∀ ends, r.overrideUntil = some ends → now < ends

def overrun (r : Thermo) (nowOn : Option Bool) (now : DateTime) : Bool :=
  r.active && decide (0 < r.cfg.maxRunSecs) && nowOn == some true &&
    r.onSince.any fun since => decide ((r.cfg.maxRunSecs : Int) ≤ numSeconds (now - since))

def deciding (r : Thermo) (fresh : List Rat) (heardAny : Bool) : Bool :=
  !r.act.isEmpty && r.active && r.overrideUntil.isNone && (!fresh.isEmpty || heardAny)

def callFor (r : Thermo) (fresh : List Rat) : Bool :=
  computeCallFor ((aggregate fresh r.cfg.aggregation).getD r.target) r.target r.cfg.hysteresis r.cfg.mode
    (if r.calling then r.cfg.mode.call else .idle) != .idle

theorem Afresh.prepare (afresh : Afresh now r) : ∃ trippedAt,
    r.prepare nowOn fresh heardAny now = { r with
      temperature := aggregate fresh r.cfg.aggregation
      stale := r.active && fresh.isEmpty && !(fresh.isEmpty && !heardAny)
      maxRunTripped := r.overrun nowOn now
      trippedAt } := by
  obtain ⟨ends, grace, runs⟩ := afresh.grace
  have standing : r.expire now = r := by
    unfold expire
    have held : (r.hold.any fun hold => decide (hold.ends ≤ now)) = false := by
      cases isHold : r.hold with
      | none => rfl
      | some hold => simpa using afresh.hold hold isHold
    have overridden : (r.overrideUntil.any fun ends => decide (ends ≤ now)) = false := by
      cases isOverride : r.overrideUntil with
      | none => rfl
      | some ends => simpa using afresh.override ends isOverride
    simp only [held, Bool.false_eq_true, if_false, overridden]
  have reading : r.takeReadings fresh heardAny now = { r with
      temperature := aggregate fresh r.cfg.aggregation
      stale := r.active && fresh.isEmpty && !(fresh.isEmpty && !heardAny) } := by
    unfold takeReadings
    have kept : ((some ends).any fun ends => decide (ends ≤ now)) = false := by
      simpa using runs
    simp only [grace, kept, Bool.false_eq_true, if_false, waitingForFirst, Option.isSome_some, Bool.true_and,
      active]
  unfold Thermo.prepare
  rw [standing, reading]
  unfold longestRun
  by_cases long : r.overrun nowOn now = true
  · refine ⟨some now, ?_⟩
    rw [if_pos, long]
    simp only [overrun, Bool.and_eq_true] at long
    simp only [Bool.and_eq_true, Bool.not_eq_true']
    exact ⟨⟨long.1, afresh.tripped⟩, long.2⟩
  · refine ⟨r.trippedAt, ?_⟩
    rw [if_neg, Bool.not_eq_true _ |>.mp long, ← afresh.tripped]
    intro runs
    refine long ?_
    simp only [Bool.and_eq_true, Bool.not_eq_true'] at runs
    simp only [overrun, Bool.and_eq_true]
    exact ⟨runs.1.1, runs.2⟩

theorem Afresh.decided (afresh : Afresh now r) : ∃ trippedAt,
    r.decided nowOn fresh heardAny now = { r with
      temperature := aggregate fresh r.cfg.aggregation
      stale := r.active && fresh.isEmpty && !(fresh.isEmpty && !heardAny)
      maxRunTripped := r.overrun nowOn now
      trippedAt }.decision (fresh.isEmpty && !heardAny) := by
  obtain ⟨trippedAt, prepared⟩ := @Afresh.prepare r nowOn fresh heardAny now afresh
  obtain ⟨ends, grace, -⟩ := afresh.grace
  refine ⟨trippedAt, ?_⟩
  unfold Thermo.decided
  rw [prepared]
  simp only [waitingForFirst, grace, Option.isSome_some, Bool.true_and]

/-- It decides unless one of what leaves the switch alone holds. -/
theorem deciding_eq : r.deciding fresh heardAny =
    (!r.act.isEmpty && !(!r.active || r.overrideUntil.isSome || fresh.isEmpty && !heardAny)) := by
  rw [deciding, Bool.not_or, Bool.not_or, Bool.not_and, Bool.not_not, Bool.not_not, Option.not_isSome,
    Bool.and_assoc, Bool.and_assoc]
  simp only [Bool.and_assoc]

theorem runs_of_deciding (decides : r.deciding fresh heardAny = true) :
    r.act.isEmpty = false ∧ r.active = true ∧
      (!r.active || r.overrideUntil.isSome || fresh.isEmpty && !heardAny) = false := by
  rw [deciding_eq, Bool.and_eq_true, Bool.not_eq_true', Bool.not_eq_true'] at decides
  obtain ⟨switched, runs⟩ := decides
  refine ⟨switched, ?_, runs⟩
  simp only [Bool.or_eq_false_iff, Bool.not_eq_false'] at runs
  exact runs.1.1

section Decisions
variable {waiting : Bool}

theorem decision_idle (switched : t.act.isEmpty = false) (settled : t.enteringOff = false)
    (idle : (!t.active || t.overrideUntil.isSome || waiting) = true) : t.decision waiting = ⟨t, none, false⟩ := by
  rw [decision, switched, if_neg Bool.false_ne_true, settled, if_neg Bool.false_ne_true, if_pos idle]

theorem decision_silent (switched : t.act.isEmpty = false) (settled : t.enteringOff = false)
    (runs : (!t.active || t.overrideUntil.isSome || waiting) = false) (silent : t.stale = true) :
    t.decision waiting = ⟨{ t with calling := false }, if t.cfg.offWhenStale then some false else none,
      t.cfg.offWhenStale⟩ := by
  rw [decision, switched, if_neg Bool.false_ne_true, settled, if_neg Bool.false_ne_true, runs,
    if_neg Bool.false_ne_true, if_pos silent]
  cases t.cfg.offWhenStale <;> rfl

/-- A trip ends with the call. -/
theorem decision_heard (switched : t.act.isEmpty = false) (settled : t.enteringOff = false)
    (runs : (!t.active || t.overrideUntil.isSome || waiting) = false) (current : t.stale = false) :
    let call := computeCallFor (t.temperature.getD t.target) t.target t.cfg.hysteresis t.cfg.mode
      (if t.calling then t.cfg.mode.call else .idle) != .idle
    let d := t.decision waiting
    d.thermo.calling = call ∧ d.thermo.maxRunTripped = (t.maxRunTripped && call) ∧
      d.desired = some (call && !(t.maxRunTripped && call)) ∧ d.safety = (t.maxRunTripped && call) := by
  dsimp only
  rw [decision, switched, if_neg Bool.false_ne_true, settled, if_neg Bool.false_ne_true, runs,
    if_neg Bool.false_ne_true, current, if_neg Bool.false_ne_true]
  dsimp only
  generalize (computeCallFor _ _ _ _ _ != Call.idle) = call
  cases t.maxRunTripped <;> cases call <;> exact ⟨rfl, rfl, rfl, rfl⟩

end Decisions

theorem Afresh.undecided (afresh : Afresh now r) (undecided : r.deciding fresh heardAny = false) :
    let d := r.decided nowOn fresh heardAny now
    d.desired = none ∧ d.thermo.calling = r.calling ∧ d.thermo.maxRunTripped = r.overrun nowOn now := by
  obtain ⟨trippedAt, decided⟩ := @Afresh.decided r nowOn fresh heardAny now afresh
  dsimp only
  cases switched : r.act.isEmpty with
  | true =>
    have unswitched := decided.trans (if_pos switched)
    rw [unswitched]
    exact ⟨rfl, rfl, rfl⟩
  | false =>
    have idle : (!r.active || r.overrideUntil.isSome || fresh.isEmpty && !heardAny) = true := by
      rw [deciding_eq, switched, Bool.not_false, Bool.true_and, Bool.not_eq_false'] at undecided
      exact undecided
    rw [decided.trans (decision_idle switched afresh.enteringOff idle)]
    exact ⟨rfl, rfl, rfl⟩

theorem Afresh.silent (afresh : Afresh now r) (decides : r.deciding fresh heardAny = true) (silent : fresh = []) :
    let d := r.decided nowOn fresh heardAny now
    d.desired = (if r.cfg.offWhenStale then some false else none) ∧ (d.desired.isSome = true → d.safety = true) ∧
      d.thermo.calling = false ∧ d.thermo.maxRunTripped = r.overrun nowOn now := by
  obtain ⟨trippedAt, decided⟩ := @Afresh.decided r nowOn fresh heardAny now afresh
  obtain ⟨switched, active, runs⟩ := runs_of_deciding decides
  have stale : (r.active && fresh.isEmpty && !(fresh.isEmpty && !heardAny)) = true := by
    simp only [active, Bool.not_true, Bool.false_or, Bool.or_eq_false_iff] at runs
    rw [active, runs.2, silent]
    rfl
  dsimp only
  rw [decided.trans (decision_silent switched afresh.enteringOff runs stale)]
  refine ⟨rfl, fun wants => ?_, rfl, rfl⟩
  cases off : r.cfg.offWhenStale with
  | true => rfl
  | false => simp [off] at wants

theorem Afresh.heard (afresh : Afresh now r) (decides : r.deciding fresh heardAny = true) (heard : fresh ≠ []) :
    let d := r.decided nowOn fresh heardAny now
    d.thermo.calling = r.callFor fresh ∧
      d.thermo.maxRunTripped = (r.overrun nowOn now && r.callFor fresh) ∧
      d.desired = some (r.callFor fresh && !(r.overrun nowOn now && r.callFor fresh)) ∧
      d.safety = (r.overrun nowOn now && r.callFor fresh) := by
  obtain ⟨trippedAt, decided⟩ := @Afresh.decided r nowOn fresh heardAny now afresh
  obtain ⟨switched, active, runs⟩ := runs_of_deciding decides
  have current : (r.active && fresh.isEmpty && !(fresh.isEmpty && !heardAny)) = false := by
    rw [List.isEmpty_eq_false_iff.mpr heard, Bool.and_false, Bool.false_and]
  dsimp only
  rw [decided]
  exact decision_heard switched afresh.enteringOff runs current

/-- The guard's clock starts anew where the switch is to change and need not wait. -/
theorem choose_lastChange {d : Decision} (unasked : d.thermo.commanded = none)
    (usual : d.thermo.bypassGuard = false) (forced : d.desired.isSome = true → d.thermo.force = true) :
    (choose d sw sw.on now).1.lastChange = match d.desired with
      | none => d.thermo.lastChange
      | some w => if sw.on = some w ∨ d.safety = false ∧ 0 < lockoutRemaining (sw.on == some true)
          d.thermo.cfg.minOnSecs d.thermo.cfg.minOffSecs d.thermo.lastChange now
        then d.thermo.lastChange else some now := by
  unfold choose
  dsimp only
  cases wanted : d.desired with
  | none => rfl
  | some w =>
    have force := forced (by rw [wanted]; rfl)
    have never : ((none : Option Bool) == some w) = false := rfl
    simp only [unasked, force, usual, never, Bool.not_true, Bool.and_false, Bool.false_and, Bool.false_eq_true,
      if_false, Bool.or_false]
    by_cases same : sw.on = some w
    · simp [same]
    · have apart : (sw.on != some w && none != some w) = true := by
        simp [same]
      rw [apart]
      by_cases safe : d.safety = true
      · simp [safe, same]
      · simp only [(Bool.not_eq_true _).mp safe, same, false_or, true_and]
        simp only [Bool.not_true, Bool.or_false, Bool.false_eq_true, if_false, if_true]
        split <;> rfl

/-- A decision made afresh leaves what concerns the switch as it was. -/
theorem Afresh.frame (afresh : Afresh now r) :
    let d := r.decided nowOn fresh heardAny now
    d.thermo.commanded = none ∧ d.thermo.bypassGuard = false ∧ d.thermo.force = r.active ∧
      d.thermo.lastChange = r.lastChange ∧ d.thermo.cfg = r.cfg := by
  obtain ⟨trippedAt, decided⟩ := @Afresh.decided r nowOn fresh heardAny now afresh
  dsimp only
  rw [decided]
  obtain ⟨calling, tripped, since, decision⟩ := decision_frame { r with
      temperature := aggregate fresh r.cfg.aggregation
      stale := r.active && fresh.isEmpty && !(fresh.isEmpty && !heardAny)
      maxRunTripped := r.overrun nowOn now
      trippedAt } (fresh.isEmpty && !heardAny)
  rw [decision]
  exact ⟨afresh.commanded, afresh.bypassGuard, afresh.force, rfl, rfl⟩

theorem evaluate_lastChange : (t.evaluate sw fresh heardAny now).1.lastChange =
    (choose (t.decided (sw.on.or t.commanded) fresh heardAny now) sw (sw.on.or t.commanded) now).1.lastChange := by
  obtain ⟨silent, result⟩ := evaluate_eq t sw fresh heardAny now _ rfl
  rw [result]
  dsimp only
  cases (choose (t.decided (sw.on.or t.commanded) fresh heardAny now) sw (sw.on.or t.commanded) now).2 <;> rfl

/-- The guard's clock after it is decided afresh. -/
theorem Afresh.clock (afresh : Afresh now r)
    (active : (r.decided sw.on fresh heardAny now).desired.isSome = true → r.active = true) :
    (r.evaluate sw fresh heardAny now).1.lastChange =
      match (r.decided sw.on fresh heardAny now).desired with
      | none => r.lastChange
      | some w => if sw.on = some w ∨ (r.decided sw.on fresh heardAny now).safety = false ∧
            0 < lockoutRemaining (sw.on == some true) r.cfg.minOnSecs r.cfg.minOffSecs r.lastChange now
          then r.lastChange else some now := by
  have nowOn : sw.on.or r.commanded = sw.on := by rw [afresh.commanded, Option.or_none]
  obtain ⟨unasked, usual, forced, clock, cfg⟩ := @Afresh.frame r sw.on fresh heardAny now afresh
  rw [evaluate_lastChange, nowOn, choose_lastChange unasked usual fun wants => forced.trans (active wants),
    clock, cfg]

end Thermo

/-! ## What lasts -/

namespace Controller
section Lasts
variable {formats : Formats} {c : Controller} {learnedAt now : DateTime}

theorem settledCfg_eq_iff (stamps : Stamps formats) {file cfg : ThermostatEntry} (inFile : file.NoNull)
    (plain : cfg.NoNull) :
    settledCfg formats file cfg = cfg ↔ cfg = file ∨ cfg.id = file.id ∧ cfg.problem formats = none := by
  have same_of_written (written : formats.writeEntry file = formats.writeEntry cfg) : file = cfg := by
    have read := congrArg formats.readEntry written
    rw [stamps.readEntry_writeEntry file inFile, stamps.readEntry_writeEntry cfg plain] at read
    exact Option.some_inj.mp read
  rw [settledCfg]
  split
  next written => exact ⟨fun same => .inl same.symm, fun _ => same_of_written written⟩
  next differ =>
    have apart : cfg ≠ file := fun same => differ (by rw [same])
    split
    next runs =>
      rw [Bool.and_eq_true, beq_iff_eq, Option.isNone_iff_eq_none] at runs
      exact ⟨fun _ => .inr runs, fun _ => rfl⟩
    next halts =>
      rw [Bool.and_eq_true, beq_iff_eq, Option.isNone_iff_eq_none] at halts
      constructor
      · intro same
        exact absurd same.symm apart
      · rintro (same | runs)
        · exact absurd same apart
        · exact absurd runs halts

/-- What a start leaves of a hold that was kept is the hold just where it has not ended. -/
theorem hold_lasts_iff (inTime : learnedAt ≤ now) (hold : Option Hold) :
    let kept := ((hold.map fun hold => (⟨hold.setpoint, wholeSecond hold.ends⟩ : Hold)).filter fun hold =>
      decide (learnedAt < hold.ends) && (setpointProblem formats hold.setpoint).isNone).filter fun hold =>
        decide (now < hold.ends)
    (kept.map (·.setpoint) = hold.map (·.setpoint) ∧
        kept.map (wholeSecond ·.ends) = hold.map (wholeSecond ·.ends)) ↔
      ∀ h, hold = some h → now < wholeSecond h.ends ∧ setpointProblem formats h.setpoint = none := by
  cases hold with
  | none =>
    refine ⟨fun _ h isHold => ?_, fun _ => ⟨rfl, rfl⟩⟩
    cases isHold
  | some hold =>
    simp only [Option.map_some, Option.some_inj, forall_eq']
    constructor
    · rintro ⟨setpoint, -⟩
      obtain ⟨kept, isKept, -⟩ := Option.map_eq_some_iff.mp setpoint
      rw [Option.filter_eq_some_iff, Option.filter_eq_some_iff] at isKept
      obtain ⟨⟨same, valid⟩, lasts⟩ := isKept
      cases same
      rw [Bool.and_eq_true, Option.isNone_iff_eq_none] at valid
      exact ⟨of_decide_eq_true lasts, valid.2⟩
    · rintro ⟨lasts, valid⟩
      have kept : decide (learnedAt < wholeSecond hold.ends) = true :=
        decide_eq_true (Int.lt_of_le_of_lt inTime lasts)
      rw [Option.filter_some, kept, valid, if_pos (by rfl), Option.filter_some, if_pos (decide_eq_true lasts)]
      simp only [Option.map_some, wholeSecond_wholeSecond, and_self]

theorem override_lasts_iff (inTime : learnedAt ≤ now) (ends : Option DateTime) :
    let kept := ((ends.map wholeSecond).filter fun ends => decide (learnedAt < ends)).filter fun ends =>
      decide (now < ends)
    kept.map wholeSecond = ends.map wholeSecond ↔ ∀ e, ends = some e → now < wholeSecond e := by
  cases ends with
  | none =>
    refine ⟨fun _ e isEnd => ?_, fun _ => rfl⟩
    cases isEnd
  | some ends =>
    simp only [Option.map_some, Option.some_inj, forall_eq']
    constructor
    · intro same
      obtain ⟨kept, isKept, -⟩ := Option.map_eq_some_iff.mp same
      rw [Option.filter_eq_some_iff] at isKept
      obtain ⟨kept, lasts⟩ := isKept
      rw [Option.filter_eq_some_iff] at kept
      cases kept.1
      exact of_decide_eq_true lasts
    · intro lasts
      have kept : decide (learnedAt < wholeSecond ends) = true := decide_eq_true (Int.lt_of_le_of_lt inTime lasts)
      rw [Option.filter_some, if_pos kept, Option.filter_some, if_pos (decide_eq_true lasts), Option.map_some,
        wholeSecond_wholeSecond]

end Lasts

/-! ## The same states -/

section Same
variable {c b : Controller} {now : DateTime} {id : String} {t r : Thermo}

theorem fresh_spoken (same : c.SameStates b now) (found : c.therms[id]? = some t) (cfg : r.cfg = t.cfg) :
    b.fresh r now = c.spoken t := by
  rw [fresh, spoken, cfg]
  have online : (t.cfg.sensorDeviceIds.filter fun s => (b.seenOf s).online != some false) =
      t.cfg.sensorDeviceIds.filter fun s => (c.seenOf s).online != some false :=
    List.filter_congr fun s listed => by rw [same.online id t found s listed]
  have current : ∀ sensors : List String, (sensors.filterMap (b.readings[·]?)).filter (fun r =>
      r.receivedAt.any fun since => decide (numSeconds (now - since) ≤ t.cfg.sensorTimeoutSecs)) =
        sensors.filterMap (b.readings[·]?) := by
    intro sensors
    refine List.filter_eq_self.mpr fun reading listed => ?_
    obtain ⟨sensor, -, isReading⟩ := List.mem_filterMap.mp listed
    obtain ⟨heard, isHeard, recent⟩ := same.current sensor reading isReading
    have least : minSensorTimeoutSecs ≤ t.cfg.sensorTimeoutSecs := Nat.le_max_left _ _
    rw [isHeard, Option.any_some, decide_eq_true_eq]
    exact recent.trans (Int.ofNat_le.mpr least)
  rw [online, current, List.filterMap_filterMap, List.filterMap_filterMap]
  refine List.filterMap_congr fun s listed => ?_
  have value := same.values id t found s (List.mem_filter.mp listed).1
  cases ofB : b.readings[s]? <;> cases ofC : c.readings[s]? <;> simp [ofB, ofC] at value ⊢
  exact value

theorem heardAny_hears (same : c.SameStates b now) (found : c.therms[id]? = some t) (cfg : r.cfg = t.cfg) :
    b.heardAny r = c.hears t := by
  rw [heardAny, hears, cfg, Bool.eq_iff_iff, List.any_eq_true, List.any_eq_true]
  refine exists_congr fun s => and_congr_right fun listed => ?_
  have heard : (b.readings[s]?.any fun r => r.receivedAt.isSome) = c.readings[s]?.isSome := by
    have value := congrArg Option.isSome (same.values id t found s listed)
    rw [Option.isSome_map, Option.isSome_map] at value
    rw [← value]
    cases isReading : b.readings[s]? with
    | none => rfl
    | some reading =>
      obtain ⟨since, isHeard, -⟩ := same.current s reading isReading
      rw [Option.any_some, isHeard]
      rfl
  rw [heard, same.online id t found s listed]

end Same

/-! ## The restart -/

section Started
variable {formats : Formats} {stamps : Stamps formats} {c : Controller} (restart : Restart stamps c) {id : String}
  {t : Thermo} {file : ThermostatEntry}

/-- The thermostat of a new controller at its start, before it is decided. -/
def Restart.resumed (t : Thermo) (file : ThermostatEntry) : Thermo :=
  startThermo (restart.booted.seenOf (settledCfg formats file t.cfg).actuatorDeviceId).on restart.now
    { restoredFrom formats t restart.learnedAt (Thermo.new file) with cfg := settledCfg formats file t.cfg }

theorem controller_found (found : c.therms[id]? = some t) (filed : c.fileEntries[id]? = some file) :
    restart.controller.therms[id]? = some (restart.booted.evaluated (restart.resumed t file) restart.now).1 :=
  start_found (booted_found restart found filed)

include restart in
theorem file_plain (filed : c.fileEntries[id]? = some file) : file.NoNull := by
  have inFile : (new restart.entries).fileEntries[id]? = some file := restart.sameFile ▸ filed
  obtain ⟨entry, listed, same⟩ := List.mem_map.mp (Maps.mem_of_getElem?_ofList inFile)
  cases same
  exact restart.payloads.1 file listed

/-- The settings, the hold and the override stand where they last. -/
theorem lasts_iff {file : ThermostatEntry} {t : Thermo} (inFile : file.NoNull) (plain : t.cfg.NoNull) :
    let t' := (restart.booted.evaluated (restart.resumed t file) restart.now).1
    (t'.cfg = t.cfg ↔ t.cfg = file ∨ t.cfg.id = file.id ∧ t.cfg.problem formats = none) ∧
    (t'.hold.map (·.setpoint) = t.hold.map (·.setpoint) ∧
        t'.hold.map (wholeSecond ·.ends) = t.hold.map (wholeSecond ·.ends) ↔
      ∀ hold, t.hold = some hold →
        restart.now < wholeSecond hold.ends ∧ setpointProblem formats hold.setpoint = none) ∧
    (t'.overrideUntil.map wholeSecond = t.overrideUntil.map wholeSecond ↔
      ∀ ends, t.overrideUntil = some ends → restart.now < wholeSecond ends) := by
  simp only [evaluated, Thermo.evaluate_cfg, Thermo.evaluate_hold, Thermo.evaluate_overrideUntil]
  exact ⟨settledCfg_eq_iff stamps inFile plain, hold_lasts_iff restart.inTime t.hold,
    override_lasts_iff restart.inTime t.overrideUntil⟩

/-- What lasts, as it is at the start. -/
structure Lasts (formats : Formats) (file : ThermostatEntry) (t : Thermo) (now : DateTime) : Prop where
  inFile : file.NoNull
  plain : t.cfg.NoNull
  settings : t.cfg = file ∨ t.cfg.id = file.id ∧ t.cfg.problem formats = none
  hold : ∀ hold, t.hold = some hold →
    now < wholeSecond hold.ends ∧ setpointProblem formats hold.setpoint = none
  override : ∀ ends, t.overrideUntil = some ends → now < wholeSecond ends

theorem filter_of_all {α : Type} {p : α → Bool} {o : Option α} (all : ∀ a, o = some a → p a = true) :
    o.filter p = o := by
  cases o with
  | none => rfl
  | some a => exact Option.filter_some_pos (all a rfl)

section Resumed
variable (lasts : Lasts formats file t restart.now)
include lasts

theorem resumed_cfg : (restart.resumed t file).cfg = t.cfg :=
  (settledCfg_eq_iff stamps lasts.inFile lasts.plain).mpr lasts.settings

theorem resumed_hold : (restart.resumed t file).hold =
    t.hold.map fun hold => ⟨hold.setpoint, wholeSecond hold.ends⟩ := by
  refine filter_of_all fun hold isHold => ?_
  obtain ⟨old, isOld, rfl⟩ := Option.map_eq_some_iff.mp isHold
  obtain ⟨lasting, valid⟩ := lasts.hold old isOld
  rw [Bool.and_eq_true, decide_eq_true_eq, Option.isNone_iff_eq_none]
  exact ⟨Int.lt_of_le_of_lt restart.inTime lasting, valid⟩

theorem resumed_override : (restart.resumed t file).overrideUntil = t.overrideUntil.map wholeSecond := by
  refine filter_of_all fun ends isEnd => ?_
  obtain ⟨old, isOld, rfl⟩ := Option.map_eq_some_iff.mp isEnd
  exact decide_eq_true (Int.lt_of_le_of_lt restart.inTime (lasts.override old isOld))

theorem resumed_target : (restart.resumed t file).target = t.target := by
  rw [Thermo.target, Thermo.target, resumed_hold restart lasts, resumed_cfg restart lasts]
  cases t.hold <;> rfl

theorem resumed_afresh : (restart.resumed t file).Afresh restart.now where
  commanded := rfl
  tripped := rfl
  enteringOff := rfl
  bypassGuard := rfl
  force := rfl
  grace := ⟨restart.now + secs startupGraceSecs, rfl, Int.lt_add_of_pos_right _ (by decide)⟩
  hold hold isHold := by
    rw [resumed_hold restart lasts] at isHold
    obtain ⟨old, isOld, rfl⟩ := Option.map_eq_some_iff.mp isHold
    exact (lasts.hold old isOld).1
  override ends isEnd := by
    rw [resumed_override restart lasts] at isEnd
    obtain ⟨old, isOld, rfl⟩ := Option.map_eq_some_iff.mp isEnd
    exact lasts.override old isOld

theorem resumed_deciding : (restart.resumed t file).deciding (c.spoken t) (c.hears t) = c.decides t := by
  rw [Thermo.deciding, decides, resumed_override restart lasts, Thermo.act, Thermo.active,
    resumed_cfg restart lasts, Option.isNone_map]
  rfl

theorem resumed_callFor : (restart.resumed t file).callFor (c.spoken t) = c.spokenCall t := by
  rw [Thermo.callFor, spokenCall, resumed_target restart lasts, resumed_cfg restart lasts]
  rfl

variable (found : c.therms[id]? = some t)
include found

theorem resumed_on : (restart.booted.seenOf (restart.resumed t file).act).on = (c.seenOf t.act).on := by
  rw [Thermo.act, resumed_cfg restart lasts]
  exact restart.sameStates.switch id t found

theorem resumed_overrun : (restart.resumed t file).overrun (c.seenOf t.act).on restart.now =
    c.overruns t restart.now := by
  have on : (restart.booted.seenOf (settledCfg formats file t.cfg).actuatorDeviceId).on = (c.seenOf t.act).on :=
    resumed_on restart lasts found
  rw [Thermo.overrun, overruns, Thermo.active, resumed_cfg restart lasts]
  cases isOn : (c.seenOf t.act).on == some true with
  | false => simp
  | true =>
    have since : (restart.resumed t file).onSince = (t.onSince.map wholeSecond).or (some restart.now) := by
      rw [Restart.resumed, startThermo, on, beq_iff_eq.mp isOn]
      rfl
    rw [since]
    cases t.onSince with
    | some began => rfl
    | none =>
      -- The run begins with the start, and no longest run is that short.
      have short : (decide (0 < t.cfg.maxRunSecs) &&
          decide ((t.cfg.maxRunSecs : Int) ≤ numSeconds (restart.now - restart.now))) = false := by
        rw [Int.sub_self, show numSeconds 0 = 0 from rfl, Bool.and_eq_false_iff, decide_eq_false_iff_not,
          decide_eq_false_iff_not]
        omega
      rw [Option.map_none, Option.none_or, Option.any_some, Option.any_none, Bool.and_false, Bool.and_true,
        Bool.and_assoc, short, Bool.and_false]

/-- What is decided of it at the start. -/
def Restart.decided (restart : Restart stamps c) (t : Thermo) (file : ThermostatEntry) : Thermo.Decision :=
  (restart.resumed t file).decided (c.seenOf t.act).on (c.spoken t) (c.hears t) restart.now

theorem evaluated_eq : restart.booted.evaluated (restart.resumed t file) restart.now =
    (restart.resumed t file).evaluate (restart.booted.seenOf (restart.resumed t file).act) (c.spoken t) (c.hears t)
      restart.now := by
  have same : c.SameStates restart.booted restart.now := restart.sameStates
  rw [evaluated, fresh_spoken same found (resumed_cfg restart lasts),
    heardAny_hears same found (resumed_cfg restart lasts)]

theorem evaluated_call :
    let t' := (restart.booted.evaluated (restart.resumed t file) restart.now).1
    t'.calling = (restart.decided t file).thermo.calling ∧
      t'.maxRunTripped = (restart.decided t file).thermo.maxRunTripped := by
  have nowOn : (restart.booted.seenOf (restart.resumed t file).act).on.or (restart.resumed t file).commanded =
      (c.seenOf t.act).on := by
    rw [(resumed_afresh restart lasts).commanded, Option.or_none, resumed_on restart lasts found]
  dsimp only
  rw [evaluated_eq restart lasts found, Restart.decided, ← nowOn]
  exact ⟨(Thermo.evaluate_decided ..).calling, (Thermo.evaluate_decided ..).maxRunTripped⟩

/-- The call and the trip are what they were just where they can be told. -/
theorem call_iff :
    let t' := (restart.booted.evaluated (restart.resumed t file) restart.now).1
    t'.calling = t.calling ∧ t'.maxRunTripped = t.maxRunTripped ↔
      (c.decides t = false → t.calling = t.toldCall) ∧
      (c.decides t = true → c.spoken t = [] → t.calling = false) ∧
      (c.decides t = true → c.spoken t ≠ [] → t.calling = c.spokenCall t) ∧
      (t.maxRunTripped = true ↔ c.overruns t restart.now = true ∧
        (c.decides t = true → c.spoken t ≠ [] → t.calling = true)) := by
  obtain ⟨calling, tripped⟩ := evaluated_call restart lasts found
  have afresh := resumed_afresh restart lasts
  dsimp only
  rw [calling, tripped, Restart.decided]
  have deciding := resumed_deciding restart lasts
  cases decides : c.decides t with
  | false =>
    obtain ⟨-, called, trips⟩ := @Thermo.Afresh.undecided _ (c.seenOf t.act).on (c.spoken t) (c.hears t)
      restart.now afresh (deciding.trans decides)
    rw [called, trips, resumed_overrun restart lasts found]
    have told : (restart.resumed t file).calling = t.toldCall := rfl
    rw [told]
    cases c.overruns t restart.now <;> cases t.maxRunTripped <;> cases t.calling <;> cases t.toldCall <;> simp
  | true =>
    by_cases silent : c.spoken t = []
    · obtain ⟨-, -, called, trips⟩ := @Thermo.Afresh.silent _ (c.seenOf t.act).on (c.spoken t) (c.hears t)
        restart.now afresh (deciding.trans decides) silent
      rw [called, trips, resumed_overrun restart lasts found]
      cases c.overruns t restart.now <;> cases t.maxRunTripped <;> cases t.calling <;> simp [silent]
    · obtain ⟨called, trips, -, -⟩ := @Thermo.Afresh.heard _ (c.seenOf t.act).on (c.spoken t) (c.hears t)
        restart.now afresh (deciding.trans decides) silent
      rw [called, trips, resumed_overrun restart lasts found, resumed_callFor restart lasts]
      cases c.overruns t restart.now <;> cases t.maxRunTripped <;> cases t.calling <;> cases c.spokenCall t <;>
        simp [silent]

omit lasts found in
theorem kept_iff {keeps : Bool → Prop} [DecidablePred keeps] {now : DateTime} (desired : Option Bool)
    (last : Option DateTime) :
    Option.map wholeSecond (match desired with
        | none => last.map wholeSecond
        | some w => if keeps w then last.map wholeSecond else some now) = last.map wholeSecond ↔
      ∀ w, desired = some w → keeps w ∨ last.map wholeSecond = some (wholeSecond now) := by
  have same : (last.map wholeSecond).map wholeSecond = last.map wholeSecond := by
    rw [Option.map_map]
    exact congrArg (Option.map · last) (funext wholeSecond_wholeSecond)
  cases desired with
  | none => simp [same]
  | some w =>
    by_cases kept : keeps w
    · simp [kept, same]
    · simp [kept, eq_comm]

/-- The guard's clock is what it was where the switch is not to change. -/
theorem clock_iff (calling : (restart.decided t file).thermo.calling = t.calling)
    (tripped : (restart.decided t file).thermo.maxRunTripped = t.maxRunTripped) :
    let t' := (restart.booted.evaluated (restart.resumed t file) restart.now).1
    t'.lastChange.map wholeSecond = t.lastChange.map wholeSecond ↔
      (c.decides t = true → ∀ on safety, c.wants t = some (on, safety) →
        (c.seenOf t.act).on = some on ∨
          safety = false ∧ 0 < lockoutRemaining ((c.seenOf t.act).on == some true) t.cfg.minOnSecs
            t.cfg.minOffSecs (t.lastChange.map wholeSecond) restart.now ∨
          t.lastChange.map wholeSecond = some (wholeSecond restart.now)) := by
  have afresh := resumed_afresh restart lasts
  have deciding := resumed_deciding restart lasts
  have active : (restart.decided t file).desired.isSome = true → (restart.resumed t file).active = true := by
    intro wants
    cases decides : c.decides t with
    | false =>
      rw [Restart.decided, (afresh.undecided (deciding.trans decides)).1] at wants
      cases wants
    | true => exact (Thermo.runs_of_deciding (deciding.trans decides)).2.1
  have clock := @Thermo.Afresh.clock _ (restart.booted.seenOf (restart.resumed t file).act) (c.spoken t)
    (c.hears t) restart.now afresh
  rw [resumed_on restart lasts found, resumed_cfg restart lasts] at clock
  dsimp only
  rw [evaluated_eq restart lasts found, clock active]
  refine (kept_iff (restart.decided t file).desired t.lastChange).trans ?_
  cases decides : c.decides t with
  | false =>
    obtain ⟨nothing, -, -⟩ := @Thermo.Afresh.undecided _ (c.seenOf t.act).on (c.spoken t) (c.hears t)
      restart.now afresh (deciding.trans decides)
    refine ⟨fun _ deciding => (by cases deciding), fun _ w wants => ?_⟩
    rw [Restart.decided, nothing] at wants
    cases wants
  | true =>
    have wanted : c.wants t = (restart.decided t file).desired.map (·, (restart.decided t file).safety) := by
      rw [wants]
      by_cases silent : c.spoken t = []
      · obtain ⟨desired, safe, -, -⟩ := @Thermo.Afresh.silent _ (c.seenOf t.act).on (c.spoken t) (c.hears t)
          restart.now afresh (deciding.trans decides) silent
        rw [if_pos (List.isEmpty_iff.mpr silent)]
        rw [resumed_cfg restart lasts] at desired
        change (restart.decided t file).desired = _ at desired
        change (restart.decided t file).desired.isSome = true → (restart.decided t file).safety = true at safe
        rw [desired] at safe ⊢
        cases off : t.cfg.offWhenStale with
        | false => rfl
        | true =>
          rw [off] at safe
          rw [safe rfl]
          rfl
      · obtain ⟨called, trips, desired, safety⟩ := @Thermo.Afresh.heard _ (c.seenOf t.act).on (c.spoken t)
          (c.hears t) restart.now afresh (deciding.trans decides) silent
        rw [if_neg (by rwa [List.isEmpty_iff]), ← calling, ← tripped, Restart.decided, called, trips, desired,
          safety, Option.map_some]
    rw [wanted]
    constructor
    · rintro kept - on safety isWanted
      obtain ⟨w, isDesired, same⟩ := Option.map_eq_some_iff.mp isWanted
      cases same
      rcases kept on isDesired with (agrees | guarded) | sameSecond
      · exact .inl agrees
      · exact .inr (.inl guarded)
      · exact .inr (.inr sameSecond)
    · intro switched w isDesired
      rw [or_assoc]
      exact switched rfl w (restart.decided t file).safety (by rw [isDesired, Option.map_some])

end Resumed

/-- Where a restart is transparent, and that it is nowhere else. -/
theorem restart_transparent_iff {entries : List ThermostatEntry} {operations : List (Operation × DateTime)}
    (stamps : Stamps formats) (restart : Restart stamps (run formats entries operations)) (id : String) (t : Thermo)
    (found : (run formats entries operations).therms[id]? = some t) :
    ∃ file t', (run formats entries operations).fileEntries[id]? = some file ∧
      restart.controller.therms[id]? = some t' ∧
      (SameRun t t' ↔ Outlives formats (run formats entries operations) file t restart.now) := by
  obtain ⟨file, filed⟩ := filesKnown_run formats entries operations id t found
  refine ⟨file, _, filed, controller_found restart found filed, ?_⟩
  have plain := restart.payloads.2 id t found
  have inFile := file_plain restart filed
  obtain ⟨settings, hold, override⟩ := lasts_iff restart inFile plain
  constructor
  · intro same
    have lasts : Lasts formats file t restart.now :=
      ⟨inFile, plain, settings.mp same.cfg, hold.mp ⟨same.setpoint, same.holds⟩, override.mp same.overrides⟩
    obtain ⟨undecided, silent, called, tripped⟩ := (call_iff restart lasts found).mp ⟨same.calling, same.tripped⟩
    obtain ⟨calls, trips⟩ := evaluated_call restart lasts found
    exact ⟨lasts.settings, lasts.hold, lasts.override, undecided, silent, called, tripped,
      (clock_iff restart lasts found (calls.symm.trans same.calling) (trips.symm.trans same.tripped)).mp same.clock⟩
  · intro outlives
    have lasts : Lasts formats file t restart.now :=
      ⟨inFile, plain, outlives.settings, outlives.hold, outlives.override⟩
    obtain ⟨calling, tripped⟩ := (call_iff restart lasts found).mpr
      ⟨outlives.undecided, outlives.silent, outlives.called, outlives.tripped⟩
    obtain ⟨calls, trips⟩ := evaluated_call restart lasts found
    obtain ⟨setpoint, holds⟩ := hold.mpr outlives.hold
    exact ⟨settings.mpr outlives.settings, setpoint, holds, override.mpr outlives.override,
      (clock_iff restart lasts found (calls.symm.trans calling) (trips.symm.trans tripped)).mpr outlives.switched,
      calling, tripped⟩

end Started
end Controller

/-! ## A longest run that is forgotten -/

namespace Restarts

def Kind.asStr : Kind → String
  | .ac => "ac"
  | .heater => "heater"
  | .fan => "fan"

def Aggregation.asStr : Aggregation → String
  | .average => "average"
  | .min => "min"
  | .max => "max"

def OnStale.asStr : OnStale → String
  | .off => "off"
  | .hold => "hold"

/-- A field that is left out where there is nothing. -/
def optional (key : String) (value : Option Json) : List (String × Json) := (value.map (key, ·)).toList

def fieldsOf (e : ThermostatEntry) : List (String × Json) :=
  [("id", .str e.id), ("name", .str e.name), ("sensor_device_ids", .arr (e.sensorDeviceIds.map .str)),
    ("sensor_attribute", .str e.sensorAttribute), ("aggregation", .str (Aggregation.asStr e.aggregation)),
    ("setpoint", .num (.float e.setpoint)), ("hysteresis", .num (.float e.hysteresis)), ("mode", .str e.mode.asStr),
    ("actuator_device_id", .str e.actuatorDeviceId), ("min_on_secs", .num (.posInt e.minOnSecs)),
    ("min_off_secs", .num (.posInt e.minOffSecs))] ++
  (optional "kind" (e.kind?.map fun kind => .str (Kind.asStr kind)) ++
  (optional "actuator_on_cmd" e.actuatorOnCmd ++
  (optional "actuator_off_cmd" e.actuatorOffCmd ++
  (optional "max_run_secs" (e.maxRunSecs?.map fun secs => .num (.posInt secs)) ++
  (optional "sensor_timeout_secs" (e.sensorTimeoutSecs?.map fun secs => .num (.posInt secs)) ++
  (optional "on_stale" (e.onStale.map fun stale => .str (OnStale.asStr stale)) ++
  (optional "override_secs" (e.overrideSecs?.map fun secs => .num (.posInt secs)))))))))

/-- `serde_json::to_value` of an entry. -/
def writeEntry (e : ThermostatEntry) : Json := .obj (fieldsOf e)

section Reading
variable (fields : List (String × Json)) (key : String)

def text : Option String := (fields.lookup key).bind Json.asStr

def number : Option Nat := (fields.lookup key).bind Json.asU64

def double : Option Rat := (fields.lookup key).bind Json.asF64

def payload : Option Json := (fields.lookup key).filter fun value => !(value matches .null)

end Reading

def readEntry : Json → Option ThermostatEntry
  | .obj fields =>
    (text fields "id").bind fun id => (text fields "name").bind fun name => (double fields "setpoint").map fun setpoint =>
      { id, name, setpoint
        sensorDeviceIds := ((fields.lookup "sensor_device_ids").bind sensorIdsOf).getD []
        sensorAttribute := (text fields "sensor_attribute").getD "temperature"
        aggregation := ((text fields "aggregation").bind Aggregation.parse).getD .average
        hysteresis := (double fields "hysteresis").getD 1
        mode := ((text fields "mode").bind fun word => [Mode.heat, .cool, .off].find? (·.asStr == word)).getD .off
        kind? := (text fields "kind").bind fun word => [Kind.ac, .heater, .fan].find? (Kind.asStr · == word)
        actuatorDeviceId := (text fields "actuator_device_id").getD ""
        actuatorOnCmd := payload fields "actuator_on_cmd"
        actuatorOffCmd := payload fields "actuator_off_cmd"
        minOnSecs := (number fields "min_on_secs").getD 0
        minOffSecs := (number fields "min_off_secs").getD 0
        maxRunSecs? := number fields "max_run_secs"
        sensorTimeoutSecs? := number fields "sensor_timeout_secs"
        onStale := (text fields "on_stale").bind fun word => [OnStale.off, .hold].find? (OnStale.asStr · == word)
        overrideSecs? := number fields "override_secs" }
  | _ => none

theorem lookup_optional (key other : String) (value : Option Json) (rest : List (String × Json)) :
    (optional key value ++ rest).lookup other =
      if other == key then value.or (rest.lookup other) else rest.lookup other := by
  cases value with
  | none => simp [optional]
  | some value =>
    rw [optional, Option.map_some, Option.toList_some, List.singleton_append, List.lookup_cons]
    split <;> simp [*]

theorem lookup_optional_last (key other : String) (value : Option Json) :
    (optional key value).lookup other = if other == key then value else none := by
  have last := lookup_optional key other value []
  rwa [List.append_nil, List.lookup_nil, Option.or_none] at last

theorem sensorIdsOf_strings (ids : List String) : sensorIdsOf (.arr (ids.map .str)) = some ids := by
  rw [sensorIdsOf, List.filterMap_map]
  exact congrArg some (List.filterMap_some)

theorem payload_kept {value : Option Json} (noNull : value ≠ some .null) :
    (value.filter fun value => !(value matches .null)) = value := by
  cases value with
  | none => rfl
  | some value => cases value <;> first | rfl | exact absurd rfl noNull

/-- The fields that may be left out, after all that may not. -/
theorem lookup_fieldsOf (e : ThermostatEntry) :
    (fieldsOf e).lookup "kind" = e.kind?.map (fun kind => .str (Kind.asStr kind)) ∧
    (fieldsOf e).lookup "actuator_on_cmd" = e.actuatorOnCmd ∧
    (fieldsOf e).lookup "actuator_off_cmd" = e.actuatorOffCmd ∧
    (fieldsOf e).lookup "max_run_secs" = e.maxRunSecs?.map (fun secs => .num (.posInt secs)) ∧
    (fieldsOf e).lookup "sensor_timeout_secs" = e.sensorTimeoutSecs?.map (fun secs => .num (.posInt secs)) ∧
    (fieldsOf e).lookup "on_stale" = e.onStale.map (fun stale => .str (OnStale.asStr stale)) ∧
    (fieldsOf e).lookup "override_secs" = e.overrideSecs?.map (fun secs => .num (.posInt secs)) := by
  simp [fieldsOf, List.lookup_cons, lookup_optional, lookup_optional_last]

theorem readEntry_writeEntry (e : ThermostatEntry) (noNull : e.NoNull) : readEntry (writeEntry e) = some e := by
  obtain ⟨kind, on, off, maxRun, timeout, stale, override⟩ := lookup_fieldsOf e
  have sensors : ((fieldsOf e).lookup "sensor_device_ids").bind sensorIdsOf = some e.sensorDeviceIds :=
    sensorIdsOf_strings e.sensorDeviceIds
  have aggregation : (text (fieldsOf e) "aggregation").bind Aggregation.parse = some e.aggregation := by
    change Aggregation.parse (Aggregation.asStr e.aggregation) = _
    cases e.aggregation <;> rfl
  have mode : ((text (fieldsOf e) "mode").bind fun word => [Mode.heat, .cool, .off].find? (·.asStr == word)) =
      some e.mode := by
    change [Mode.heat, .cool, .off].find? (·.asStr == e.mode.asStr) = _
    cases e.mode <;> rfl
  have kind : ((text (fieldsOf e) "kind").bind fun word => [Kind.ac, .heater, .fan].find? (Kind.asStr · == word)) =
      e.kind? := by
    rw [text, kind]
    cases e.kind? with
    | none => rfl
    | some kind => cases kind <;> rfl
  have stale : ((text (fieldsOf e) "on_stale").bind fun word => [OnStale.off, .hold].find? (OnStale.asStr · == word)) =
      e.onStale := by
    rw [text, stale]
    cases e.onStale with
    | none => rfl
    | some stale => cases stale <;> rfl
  have number_kept : ∀ n : Option Nat, (n.map fun secs => Json.num (.posInt secs)).bind Json.asU64 = n := by
    intro n
    cases n <;> rfl
  have maxRun : number (fieldsOf e) "max_run_secs" = e.maxRunSecs? := by rw [number, maxRun, number_kept]
  have timeout : number (fieldsOf e) "sensor_timeout_secs" = e.sensorTimeoutSecs? := by
    rw [number, timeout, number_kept]
  have override : number (fieldsOf e) "override_secs" = e.overrideSecs? := by rw [number, override, number_kept]
  have on : payload (fieldsOf e) "actuator_on_cmd" = e.actuatorOnCmd := by rw [payload, on, payload_kept noNull.1]
  have off : payload (fieldsOf e) "actuator_off_cmd" = e.actuatorOffCmd := by
    rw [payload, off, payload_kept noNull.2]
  rw [writeEntry, readEntry]
  simp only [sensors, aggregation, mode, kind, stale, maxRun, timeout, override, on, off, Option.getD_some]
  rfl

/-- What time it is below as RFC 3339 has it, and any other by its seconds. -/
def showTime (time : DateTime) : String :=
  if time / second = 61 then "1970-01-01T00:01:01Z"
  else match time / second with
    | .ofNat n => String.ofList ('+' :: List.replicate n 's')
    | .negSucc n => String.ofList ('-' :: List.replicate n 's')

def parseTime (text : String) : Option DateTime :=
  if text = "1970-01-01T00:01:01Z" then some (61 * second)
  else match text.toList with
    | '+' :: rest => some (Int.ofNat rest.length * second)
    | '-' :: rest => some (Int.negSucc rest.length * second)
    | _ => none

theorem parseTime_showTime (time : DateTime) : parseTime (showTime time) = some (wholeSecond time) := by
  have other : ∀ (sign : Char) (n : Nat), sign = '+' ∨ sign = '-' →
      String.ofList (sign :: List.replicate n 's') ≠ "1970-01-01T00:01:01Z" := by
    intro sign n isSign same
    have chars := congrArg String.toList same
    rw [String.toList_ofList] at chars
    rcases isSign with rfl | rfl <;> cases chars
  rw [showTime, wholeSecond]
  split
  next this => rw [this]; rfl
  · generalize time / second = count
    cases count with
    | ofNat n =>
      rw [parseTime, if_neg (other '+' n (.inl rfl)), String.toList_ofList]
      simp only [List.length_replicate]
    | negSucc n =>
      rw [parseTime, if_neg (other '-' n (.inr rfl)), String.toList_ofList]
      simp only [List.length_replicate]

def formats : Formats := ⟨fun _ => "", parseTime, writeEntry, readEntry, fun _ names => names, @Formats.mem_hashOrder OffWatch.plain⟩

def stamps : Stamps formats := ⟨showTime, parseTime_showTime, readEntry_writeEntry⟩

def den : ThermostatEntry := { OffWatch.den with maxRunSecs? := some 60 }

/-- It is warm, and the AC has run for its longest run. -/
def tripped : Controller :=
  run formats [den] [(.start, secs 0), (.input (OverrideWatch.denReading 25), secs 1),
    (.input (OffWatch.switchReport true), secs 2), (.input .tick, secs 61),
    (.input (OffWatch.switchReport false), secs 62)]

/-- What the sensor and the AC say to the new controller. -/
def told : List (Heard × DateTime) :=
  [(.state "den_temp" (.obj [("temperature", .num (.posInt 25))]), secs 63),
    (.state "den_ac" (.obj [("on", .bool false)]), secs 63)]

theorem tripped_cfg {id : String} {t : Thermo} (found : tripped.therms[id]? = some t) : t.cfg = den := by
  have all : ∀ entry ∈ tripped.therms.toList, entry.2.cfg = den := by decide +kernel
  exact all (id, t) (Std.ExtTreeMap.mem_toList_iff_getElem?_eq_some.mpr found)

theorem told_same : tripped.SameStates
    (boot formats [den] ([] ++ (.learned (tripped.keptDocument stamps), secs 62) :: told)) (secs 64) where
  switch id t found := by
    rw [Thermo.act, tripped_cfg found]
    decide +kernel
  online id t found sensor listed := by
    rw [tripped_cfg found] at listed
    obtain rfl : sensor = "den_temp" := List.mem_singleton.mp listed
    decide +kernel
  values id t found sensor listed := by
    rw [tripped_cfg found] at listed
    obtain rfl : sensor = "den_temp" := List.mem_singleton.mp listed
    decide +kernel
  current sensor r found := by
    have all : ∀ entry ∈ (boot formats [den]
        ([] ++ (.learned (tripped.keptDocument stamps), secs 62) :: told)).readings.toList,
        (entry.2.receivedAt.any fun heard => decide (numSeconds (secs 64 - heard) ≤ minSensorTimeoutSecs)) = true := by
      decide +kernel
    have recent := all (sensor, r) (Std.ExtTreeMap.mem_toList_iff_getElem?_eq_some.mpr found)
    rw [Option.any_eq_true] at recent
    obtain ⟨heard, isHeard, recent⟩ := recent
    exact ⟨heard, isHeard, of_decide_eq_true recent⟩

/-- The AC, switched off for its longest run, is switched on again by the new controller. -/
def again : Restart stamps tripped where
  entries := [den]
  sameFile := by decide +kernel
  payloads := by
    have noNull : den.NoNull := ⟨by decide, by decide⟩
    refine ⟨fun entry listed => ?_, fun id t found => ?_⟩
    · rw [List.mem_singleton.mp listed]
      exact noNull
    · rw [tripped_cfg found]
      exact noNull
  before := []
  after := told
  tells message listed := by
    rcases List.mem_pair.mp listed with rfl | rfl
    · exact ⟨by decide, by decide⟩
    · exact ⟨by decide, by decide +kernel⟩
  learnedAt := secs 62
  now := secs 64
  inTime := by decide
  sameStates := told_same

theorem den_restarted : ∃ t file t', tripped.therms["den"]? = some t ∧ tripped.fileEntries["den"]? = some file ∧
    again.controller.therms["den"]? = some t' ∧
      (SameRun t t' ↔ Outlives formats tripped file t again.now) := by
  obtain ⟨t, found⟩ : ∃ t, tripped.therms["den"]? = some t := Option.isSome_iff_exists.mp (by decide +kernel)
  obtain ⟨file, t', filed, started, same⟩ := restart_transparent_iff stamps again "den" t found
  exact ⟨t, file, t', found, filed, started, same⟩

theorem longest_run_forgotten : tripped.started = true ∧ ∃ t t', tripped.therms["den"]? = some t ∧
    again.controller.therms["den"]? = some t' ∧ ¬ SameRun t t' := by
  have was : tripped.therms["den"]?.map (·.maxRunTripped) = some true := by decide +kernel
  have becomes : again.controller.therms["den"]?.map (·.maxRunTripped) = some false := by decide +kernel
  obtain ⟨t, found, isTripped⟩ := Option.map_eq_some_iff.mp was
  obtain ⟨t', found', isClear⟩ := Option.map_eq_some_iff.mp becomes
  refine ⟨by decide +kernel, t, t', found, found', fun same => ?_⟩
  have kept := same.tripped
  rw [isTripped, isClear] at kept
  cases kept

end Restarts
end HomeCore.Thermostat
