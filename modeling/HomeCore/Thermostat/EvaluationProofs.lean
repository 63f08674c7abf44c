import HomeCore.Thermostat.Controller

/-! What an evaluation and a switch's report can do to one thermostat, each described once. -/
namespace HomeCore.Thermostat
namespace Thermo

/-! ## One evaluation -/

theorem expire_frame (t : Thermo) (now : DateTime) : ∃ hold ends since force,
    t.expire now =
      { t with hold := hold, overrideUntil := ends, overrideAt := since, force := force } := by
  unfold expire
  dsimp only
  split <;> split <;> exact ⟨_, _, _, _, rfl⟩

theorem longestRun_frame (t : Thermo) (nowOn : Option Bool) (now : DateTime) : ∃ tripped since,
    t.longestRun nowOn now = { t with maxRunTripped := tripped, trippedAt := since } := by
  unfold longestRun
  dsimp only
  split <;> exact ⟨_, _, rfl⟩

variable (t : Thermo) (sw : Seen) (nowOn : Option Bool) (fresh : List Rat) (heardAny : Bool)
  (now : DateTime)

/-- What is prepared leaves the settings and all that concerns the switch as they were. -/
theorem prepare_frame : ∃ temperature hold ends since force grace stale tripped trippedAt,
    t.prepare nowOn fresh heardAny now =
      { t with
        temperature := temperature, hold := hold, overrideUntil := ends, overrideAt := since,
        force := force, graceUntil := grace, stale := stale, maxRunTripped := tripped,
        trippedAt := trippedAt } := by
  obtain ⟨hold, ends, since, force, expired⟩ := expire_frame t now
  unfold prepare
  rw [expired]
  unfold takeReadings
  dsimp only
  obtain ⟨tripped, trippedAt, run⟩ := longestRun_frame _ nowOn now
  rw [run]
  exact ⟨_, _, _, _, _, _, _, _, _, rfl⟩

theorem decision_frame (waiting : Bool) : ∃ calling tripped since,
    (t.decision waiting).thermo =
      { t with
        calling := calling, maxRunTripped := tripped, trippedAt := since,
        enteringOff := t.enteringOff && !t.act.isEmpty } := by
  unfold decision
  cases empty : t.act.isEmpty
  · rw [Bool.not_false, Bool.and_true, if_neg Bool.false_ne_true]
    dsimp only
    split_ifs <;> exact ⟨_, _, _, rfl⟩
  · rw [Bool.not_true, Bool.and_false, if_pos rfl]
    exact ⟨_, _, _, rfl⟩

/-- What choosing makes of a decision, with why. -/
inductive Chosen (d : Decision) (sw : Seen) (nowOn : Option Bool) : Thermo × Option Bool → Prop where
  | idle (pending lockout) (nothing : d.desired = none) :
      Chosen d sw nowOn ({ d.thermo with
        pending := pending, lockoutUntil := lockout, retryAt := none, force := false }, none)
  | unanswered (pending lockout) (w : Bool) (wanted : d.desired = some w)
      (asked : d.thermo.commanded = some w) (waiting : d.thermo.confirmed = false) :
      Chosen d sw nowOn ({ d.thermo with pending := pending, lockoutUntil := lockout }, none)
  | assumed (pending lockout) (w : Bool) (wanted : d.desired = some w) (seems : nowOn = some w)
      (unseen : sw.on ≠ some w) (calm : d.thermo.force = false)
      (answered : d.thermo.commanded = some w → d.thermo.confirmed = true) :
      Chosen d sw nowOn ({ d.thermo with pending := pending, lockoutUntil := lockout }, none)
  | guarded (pending lockout) (w : Bool) (wanted : d.desired = some w) (usual : d.safety = false)
      (held : pending.isSome = true) :
      Chosen d sw nowOn ({ d.thermo with pending := pending, lockoutUntil := lockout }, none)
  | agreed (pending lockout) (w : Bool) (wanted : d.desired = some w) (reported : sw.on = some w) :
      Chosen d sw nowOn ({ d.thermo with
        pending := pending, lockoutUntil := lockout, commanded := some w, confirmed := true }, none)
  | sent (pending lockout) (since) (w : Bool) (wanted : d.desired = some w)
      (why : d.thermo.commanded = some w ∧ d.thermo.confirmed = false ∨
        nowOn ≠ some w ∨ d.thermo.force = true) :
      Chosen d sw nowOn ({ d.thermo with
        pending := pending, lockoutUntil := lockout, lastChange := since }, some w)

theorem chosen (d : Decision) : Chosen d sw nowOn (choose d sw nowOn now) := by
  unfold choose
  dsimp only
  cases wanted : d.desired with
  | none => exact .idle _ _ wanted
  | some w =>
    dsimp only
    by_cases asked : (d.thermo.commanded == some w && !d.thermo.confirmed && !d.thermo.force) = true
    · rw [if_pos asked]
      simp only [Bool.and_eq_true, beq_iff_eq, Bool.not_eq_true'] at asked
      split
      · exact .sent _ _ _ w wanted (.inl asked.1)
      · exact .unanswered _ _ w wanted asked.1.1 asked.1.2
    · rw [if_neg asked]
      by_cases seems : (nowOn == some w && !d.thermo.force) = true
      · rw [if_pos seems]
        simp only [Bool.and_eq_true, beq_iff_eq, Bool.not_eq_true'] at seems asked
        split
        · next reported => exact .agreed _ _ w wanted (beq_iff_eq.mp reported)
        · next unseen =>
          refine .assumed _ _ w wanted seems.1 (fun reported => unseen (beq_iff_eq.mpr reported)) seems.2 ?_
          intro same
          cases confirmed : d.thermo.confirmed with
          | true => rfl
          | false => exact absurd ⟨⟨same, confirmed⟩, seems.2⟩ asked
      · rw [if_neg seems]
        simp only [Bool.and_eq_true, beq_iff_eq, Bool.not_eq_true', not_and_or,
          Bool.not_eq_false] at seems
        by_cases free : (d.safety || d.thermo.bypassGuard ||
            !(nowOn != some w && d.thermo.commanded != some w)) = true
        · rw [if_pos free, if_neg (Nat.lt_irrefl 0)]
          exact .sent _ _ _ w wanted (.inr seems)
        · rw [if_neg free]
          split
          · simp only [Bool.or_eq_true, not_or, Bool.not_eq_true] at free
            exact .guarded _ _ w wanted free.1.1 rfl
          · exact .sent _ _ _ w wanted (.inr seems)

/-- A decision changes neither the settings nor what was asked of the switch and answered. -/
theorem decided_frame : ∃ temperature calling hold ends since force grace stale tripped trippedAt,
    (t.decided nowOn fresh heardAny now).thermo =
      { t with
        temperature := temperature, calling := calling, hold := hold, overrideUntil := ends,
        overrideAt := since, force := force, graceUntil := grace, stale := stale,
        maxRunTripped := tripped, trippedAt := trippedAt,
        enteringOff := t.enteringOff && !t.act.isEmpty } := by
  obtain ⟨temperature, hold, ends, since, force, grace, stale, tripped, trippedAt, prepared⟩ :=
    prepare_frame t nowOn fresh heardAny now
  unfold decided
  dsimp only
  rw [prepared]
  obtain ⟨calling, trippedAfter, since, decision⟩ := decision_frame _ _
  rw [decision]
  exact ⟨_, _, _, _, _, _, _, _, _, _, rfl⟩

@[simp] theorem prepare_cfg : (t.prepare nowOn fresh heardAny now).cfg = t.cfg := by
  obtain ⟨_, _, _, _, _, _, _, _, _, prepared⟩ := prepare_frame t nowOn fresh heardAny now
  rw [prepared]

@[simp] theorem prepare_act : (t.prepare nowOn fresh heardAny now).act = t.act := by
  rw [act, prepare_cfg, act]

@[simp] theorem prepare_active : (t.prepare nowOn fresh heardAny now).active = t.active := by
  rw [active, prepare_cfg, active]

@[simp] theorem prepare_enteringOff :
    (t.prepare nowOn fresh heardAny now).enteringOff = t.enteringOff := by
  obtain ⟨_, _, _, _, _, _, _, _, _, prepared⟩ := prepare_frame t nowOn fresh heardAny now
  rw [prepared]

/-- The thermostat after an evaluation is what was chosen, sent where something was. -/
theorem evaluate_eq (chosen) (is : choose (t.decided (sw.on.or t.commanded) fresh heardAny now) sw
      (sw.on.or t.commanded) now = chosen) : ∃ silent,
    t.evaluate sw fresh heardAny now =
      ({ chosen.2.elim chosen.1 (chosen.1.send sw.on · now) with notResponding := silent },
        chosen.2) := by
  unfold evaluate
  dsimp only
  rw [is]
  exact ⟨_, rfl⟩

/-- Sending again is due where it was, and where an override has run out. -/
theorem expire_force : (t.expire now).force =
    (t.force || t.overrideUntil.any fun ends => decide (ends ≤ now)) := by
  unfold expire
  dsimp only
  split <;> split <;> simp_all

/-- What has run out by the time of an evaluation, which decides nothing about it. -/
structure AsExpired (t expired : Thermo) : Prop where
  hold : t.hold = expired.hold
  overrideUntil : t.overrideUntil = expired.overrideUntil
  force : t.force = expired.force

theorem prepare_expired : AsExpired (t.prepare nowOn fresh heardAny now) (t.expire now) := by
  unfold prepare takeReadings
  dsimp only
  obtain ⟨_, _, run⟩ := longestRun_frame _ nowOn now
  rw [run]
  exact ⟨rfl, rfl, rfl⟩

theorem decided_expired : AsExpired (t.decided nowOn fresh heardAny now).thermo (t.expire now) := by
  unfold decided
  dsimp only
  obtain ⟨_, _, _, decision⟩ := decision_frame (t.prepare nowOn fresh heardAny now)
    ((t.prepare nowOn fresh heardAny now).waitingForFirst fresh heardAny)
  rw [decision]
  obtain ⟨hold, overrideUntil, force⟩ := prepare_expired t nowOn fresh heardAny now
  exact ⟨hold, overrideUntil, force⟩

theorem decided_force : (t.decided nowOn fresh heardAny now).thermo.force =
    (t.force || t.overrideUntil.any fun ends => decide (ends ≤ now)) :=
  (decided_expired t nowOn fresh heardAny now).force.trans (expire_force t now)

/-- What was asked of the switch, and what is known of it, stays as it was. -/
structure Kept (t t' : Thermo) : Prop where
  commanded : t'.commanded = t.commanded
  confirmed : t'.confirmed = t.confirmed
  onSince : t'.onSince = t.onSince
  enteringOff : t'.enteringOff = (t.enteringOff && !t.act.isEmpty)

/-- What an evaluation may do with what it decides, and why. -/
inductive Evaluated (t : Thermo) (sw : Seen) (now : DateTime) (d : Decision) (t' : Thermo)
    (toSend : Option Bool) : Prop where
  | idle (silent : toSend = none) (kept : Kept t t') (nothing : d.desired = none)
      (calm : t'.force = false)
  | unanswered (w : Bool) (silent : toSend = none) (kept : Kept t t') (wanted : d.desired = some w)
      (asked : t.commanded = some w) (waiting : t.confirmed = false)
  | assumed (w : Bool) (silent : toSend = none) (kept : Kept t t') (wanted : d.desired = some w)
      (asked : t.commanded = some w) (answered : t.confirmed = true) (unseen : sw.on = none)
      (calm : d.thermo.force = false)
  | guarded (w : Bool) (silent : toSend = none) (kept : Kept t t') (wanted : d.desired = some w)
      (usual : d.safety = false) (held : t'.pending.isSome = true)
  | agreed (w : Bool) (silent : toSend = none) (wanted : d.desired = some w)
      (reported : sw.on = some w) (commanded : t'.commanded = some w)
      (confirmed : t'.confirmed = true) (onSince : t'.onSince = t.onSince)
      (enteringOff : t'.enteringOff = (t.enteringOff && !t.act.isEmpty))
  | sent (w : Bool) (send : toSend = some w) (wanted : d.desired = some w)
      (why : t.commanded = some w ∧ t.confirmed = false ∨ sw.on.or t.commanded ≠ some w ∨
        d.thermo.force = true)
      (commanded : t'.commanded = some w) (confirmed : t'.confirmed = (sw.on == some w))
      (calm : t'.force = false)
      (onSince : t'.onSince = if w then t.onSince.or (some now) else
        if sw.on.isNone then none else t.onSince)
      (enteringOff : t'.enteringOff = true → t.enteringOff = true ∧ t.act.isEmpty = false)

theorem evaluate_evaluated : Evaluated t sw now (t.decided (sw.on.or t.commanded) fresh heardAny now)
    (t.evaluate sw fresh heardAny now).1 (t.evaluate sw fresh heardAny now).2 := by
  obtain ⟨_, _, _, _, _, _, _, _, _, _, frame⟩ :=
    decided_frame t (sw.on.or t.commanded) fresh heardAny now
  have made := chosen sw (sw.on.or t.commanded) now
    (t.decided (sw.on.or t.commanded) fresh heardAny now)
  generalize is : choose _ sw _ now = r at made
  obtain ⟨silent, result⟩ := evaluate_eq t sw fresh heardAny now r is
  rw [result]
  generalize t.decided (sw.on.or t.commanded) fresh heardAny now = d at frame made
  have kept : Kept t d.thermo := by
    rw [frame]
    exact ⟨rfl, rfl, rfl, rfl⟩
  obtain ⟨sameCommanded, sameConfirmed, sameOnSince, sameOff⟩ := kept
  cases made with
  | idle pending lockout nothing =>
    exact .idle rfl ⟨sameCommanded, sameConfirmed, sameOnSince, sameOff⟩ nothing rfl
  | unanswered pending lockout w wanted asked waiting =>
    exact .unanswered w rfl ⟨sameCommanded, sameConfirmed, sameOnSince, sameOff⟩ wanted
      (sameCommanded ▸ asked) (sameConfirmed ▸ waiting)
  | assumed pending lockout w wanted seems unseen calm answered =>
    have never : sw.on = none := by
      cases on : sw.on with
      | none => rfl
      | some b =>
        rw [on] at seems unseen
        exact absurd seems unseen
    rw [never, Option.none_or] at seems
    exact .assumed w rfl ⟨sameCommanded, sameConfirmed, sameOnSince, sameOff⟩ wanted seems
      (sameConfirmed ▸ answered (sameCommanded.trans seems)) never calm
  | guarded pending lockout w wanted usual held =>
    exact .guarded w rfl ⟨sameCommanded, sameConfirmed, sameOnSince, sameOff⟩ wanted usual held
  | agreed pending lockout w wanted reported =>
    exact .agreed w rfl wanted reported rfl rfl sameOnSince sameOff
  | sent pending lockout since w wanted why =>
    rw [sameCommanded, sameConfirmed] at why
    refine .sent w rfl wanted why rfl rfl rfl ?_ ?_
    · change (if w then d.thermo.onSince.or (some now) else
        if sw.on.isNone then none else d.thermo.onSince) = _
      rw [sameOnSince]
    · intro owed
      change (d.thermo.enteringOff && _) = true at owed
      rw [sameOff] at owed
      simp only [Bool.and_eq_true, Bool.not_eq_true'] at owed
      exact owed.1

/-- What is sent leaves the thermostat as it was decided. -/
structure AsDecided (t decided : Thermo) : Prop where
  cfg : t.cfg = decided.cfg
  temperature : t.temperature = decided.temperature
  graceUntil : t.graceUntil = decided.graceUntil
  overrideUntil : t.overrideUntil = decided.overrideUntil
  hold : t.hold = decided.hold
  calling : t.calling = decided.calling
  maxRunTripped : t.maxRunTripped = decided.maxRunTripped

theorem evaluate_decided : AsDecided (t.evaluate sw fresh heardAny now).1
    (t.decided (sw.on.or t.commanded) fresh heardAny now).thermo := by
  have made := chosen sw (sw.on.or t.commanded) now
    (t.decided (sw.on.or t.commanded) fresh heardAny now)
  generalize is : choose _ sw _ now = r at made
  obtain ⟨silent, result⟩ := evaluate_eq t sw fresh heardAny now r is
  rw [result]
  clear is result
  generalize t.decided (sw.on.or t.commanded) fresh heardAny now = d at made ⊢
  cases made <;> exact ⟨rfl, rfl, rfl, rfl, rfl, rfl, rfl⟩

theorem evaluate_cfg : (t.evaluate sw fresh heardAny now).1.cfg = t.cfg := by
  obtain ⟨_, _, _, _, _, _, _, _, _, _, frame⟩ :=
    decided_frame t (sw.on.or t.commanded) fresh heardAny now
  rw [(evaluate_decided t sw fresh heardAny now).cfg, frame]

theorem Kept.owed {t t' : Thermo} (kept : Kept t t') (owed : t'.enteringOff = true) :
    t.enteringOff = true ∧ t.act.isEmpty = false := by
  rw [kept.enteringOff] at owed
  simpa using owed

/-- What is not wanted is not sent. -/
theorem Evaluated.silent {t t' : Thermo} {sw : Seen} {now : DateTime} {d : Decision}
    {toSend : Option Bool} (evaluated : Evaluated t sw now d t' toSend) (nothing : d.desired = none) :
    toSend = none := by
  cases evaluated with
  | idle silent => exact silent
  | unanswered _ silent => exact silent
  | assumed _ silent => exact silent
  | guarded _ silent => exact silent
  | agreed _ silent => exact silent
  | sent _ _ wanted =>
    rw [nothing] at wanted
    cases wanted

/-- An evaluation brings no new OFF to owe. -/
theorem Evaluated.owed {t t' : Thermo} {sw : Seen} {now : DateTime} {d : Decision}
    {toSend : Option Bool} (evaluated : Evaluated t sw now d t' toSend)
    (owed : t'.enteringOff = true) : t.enteringOff = true ∧ t.act.isEmpty = false := by
  cases evaluated with
  | idle _ kept => exact kept.owed owed
  | unanswered _ _ kept => exact kept.owed owed
  | assumed _ _ kept => exact kept.owed owed
  | guarded _ _ kept => exact kept.owed owed
  | agreed _ _ _ _ _ _ _ enteringOff =>
    rw [enteringOff] at owed
    simpa using owed
  | sent _ _ _ _ _ _ _ _ enteringOff => exact enteringOff owed

end Thermo

/-! ## A switch's report -/

theorem noteReport_frame (started : Bool) (prev : Option Bool) (on : Bool) (now : DateTime)
    (t : Thermo) : ∃ since, Controller.noteReport started prev on now t = { t with onSince := since } := by
  unfold Controller.noteReport Thermo.noteSwitch
  split
  · exact ⟨_, rfl⟩
  · split <;> exact ⟨_, rfl⟩

/-- What a report makes of a thermostat, and why: the echo of what it asked for, not yet the
answer, someone's hand, or nothing new. -/
inductive Told (t : Thermo) (prev : Option Bool) (on : Bool) (t' : Thermo) : Prop where
  | echo (asked : t.commanded = some on) (waiting : t.confirmed = false)
      (commanded : t'.commanded = some on) (confirmed : t'.confirmed = true)
      (enteringOff : t'.enteringOff = (t.enteringOff && on))
      (overrideUntil : t'.overrideUntil = t.overrideUntil)
  | onItsWay (asked : t.commanded = some (!on)) (waiting : t.confirmed = false)
      (commanded : t'.commanded = some (!on)) (confirmed : t'.confirmed = false)
      (enteringOff : t'.enteringOff = t.enteringOff)
      (overrideUntil : t'.overrideUntil = t.overrideUntil)
  | byHand (changed : prev = some (!on)) (answered : t.commanded = none ∨ t.confirmed = true)
      (commanded : t'.commanded = some on) (confirmed : t'.confirmed = true)
      (enteringOff : t'.enteringOff = t.enteringOff)
  | known (unchanged : prev ≠ some (!on)) (answered : t.commanded = none ∨ t.confirmed = true)
      (commanded : t'.commanded = t.commanded) (confirmed : t'.confirmed = t.confirmed)
      (enteringOff : t'.enteringOff = t.enteringOff)
      (overrideUntil : t'.overrideUntil = t.overrideUntil)

theorem hearSwitch_told (prev : Option Bool) (on : Bool) (now : DateTime) (t : Thermo) :
    Told t prev on (Controller.hearSwitch true prev on now t) := by
  obtain ⟨since, noted⟩ := noteReport_frame true prev on now t
  unfold Controller.hearSwitch
  dsimp only
  rw [noted]
  split
  · next asked =>
    simp only [Bool.and_eq_true, beq_iff_eq, Bool.not_eq_true'] at asked
    exact .echo asked.1 asked.2 asked.1 rfl rfl rfl
  next notEcho =>
  split
  · next asked =>
    simp only [Bool.and_eq_true, beq_iff_eq, Bool.not_eq_true'] at asked
    exact .onItsWay asked.1 asked.2 asked.1 asked.2 rfl rfl
  next notWaiting =>
  have answered : t.commanded = none ∨ t.confirmed = true := by
    cases asked : t.commanded with
    | none => exact .inl rfl
    | some b =>
      right
      cases confirmed : t.confirmed with
      | true => rfl
      | false =>
        simp only [asked, confirmed, Bool.not_false, Bool.and_true, beq_iff_eq,
          Option.some.injEq] at notEcho notWaiting
        exact absurd (Bool.eq_not_of_ne notEcho) notWaiting
  split
  · next changed =>
    have flipped : prev = some (!on) := by
      cases prev with
      | none => cases changed
      | some b =>
        simp only [Option.isSome_some, Bool.and_true, Bool.true_and, bne_iff_ne, ne_eq,
          Option.some.injEq] at changed
        rw [Bool.eq_not_of_ne changed]
    split
    · exact .byHand flipped answered rfl rfl rfl
    · exact .byHand flipped answered rfl rfl rfl
  · next same =>
    refine .known ?_ answered rfl rfl rfl rfl
    rintro rfl
    refine same ?_
    cases on <;> rfl

theorem hearSwitch_frame (started : Bool) (prev : Option Bool) (on : Bool) (now : DateTime)
    (t : Thermo) :
    (Controller.hearSwitch started prev on now t).cfg = t.cfg ∧
      (Controller.hearSwitch started prev on now t).force = t.force ∧
      (Controller.hearSwitch started prev on now t).onSince =
        (Controller.noteReport started prev on now t).onSince := by
  obtain ⟨since, noted⟩ := noteReport_frame started prev on now t
  unfold Controller.hearSwitch
  dsimp only
  rw [noted]
  split
  · exact ⟨rfl, rfl, rfl⟩
  split
  · exact ⟨rfl, rfl, rfl⟩
  split
  · split <;> exact ⟨rfl, rfl, rfl⟩
  · exact ⟨rfl, rfl, rfl⟩

end HomeCore.Thermostat
