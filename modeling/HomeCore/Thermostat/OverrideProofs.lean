import HomeCore.Thermostat.OffProofs

/-! Someone's hand on the switch. A report of a change that nothing asked for starts an override,
and while it stands the thermostat leaves its switch alone. -/
namespace HomeCore.Thermostat

/-- A hand-flip override of a thermostat, and when it ends. -/
structure Override where
  thermostat : String
  ends : DateTime
  deriving DecidableEq

namespace Thermo

/-- Nobody here asked for that: the switch changed, having answered what was asked of it. -/
def unasked (prev : Option Bool) (on : Bool) (t : Thermo) : Bool :=
  prev == some (!on) && (t.commanded.isNone || t.confirmed)

/-- A change of its switch that nobody here asked for is left alone. -/
def minds (t : Thermo) : Bool := t.active && !t.act.isEmpty && decide (0 < t.cfg.overrideSecs)

section Evaluating
variable (t : Thermo) (sw : Seen) (nowOn : Option Bool) (fresh : List Rat) (heardAny : Bool)
  (now : DateTime)

theorem expire_overrideUntil :
    (t.expire now).overrideUntil = t.overrideUntil.filter fun ends => decide (now < ends) := by
  have afterwards (u : Thermo) (same : u.overrideUntil = t.overrideUntil) :
      (if u.overrideUntil.any fun ends => decide (ends ≤ now) then
        { u with overrideUntil := none, overrideAt := none, force := true } else u).overrideUntil =
          t.overrideUntil.filter fun ends => decide (now < ends) := by
    rw [← same]
    cases until_ : u.overrideUntil with
    | none => simp [until_]
    | some ends =>
      by_cases past : ends ≤ now
      · simp [past, Option.filter, Int.not_lt.mpr past]
      · simp [past, until_, Option.filter, Int.not_le.mp past]
  unfold expire
  dsimp only
  refine afterwards _ ?_
  split <;> rfl

theorem prepare_overrideUntil : (t.prepare nowOn fresh heardAny now).overrideUntil =
    t.overrideUntil.filter fun ends => decide (now < ends) :=
  (prepare_expired t nowOn fresh heardAny now).overrideUntil.trans (expire_overrideUntil ..)

/-- An evaluation ends an override whose time has come, and starts none. -/
theorem evaluate_overrideUntil : (t.evaluate sw fresh heardAny now).1.overrideUntil =
    t.overrideUntil.filter fun ends => decide (now < ends) := by
  rw [(evaluate_decided t sw fresh heardAny now).overrideUntil,
    (decided_expired t (sw.on.or t.commanded) fresh heardAny now).overrideUntil, expire_overrideUntil]

theorem evaluate_active : (t.evaluate sw fresh heardAny now).1.active = t.active := by
  rw [active, evaluate_cfg, active]

variable {t}

/-- While an override stands and no OFF is owed, the switch is left alone. -/
theorem decision_of_override {waiting : Bool} (stands : t.overrideUntil.isSome = true)
    (nothing : t.enteringOff = false) : (t.decision waiting).desired = none := by
  unfold decision
  split
  · rfl
  · rw [if_neg (by rw [nothing]; exact Bool.false_ne_true),
      if_pos (by rw [stands, Bool.or_true, Bool.true_or])]

theorem evaluate_of_override {ends : DateTime} (stands : t.overrideUntil = some ends)
    (unexpired : now < ends) (nothing : t.enteringOff = false) :
    (t.evaluate sw fresh heardAny now).2 = none := by
  refine (evaluate_evaluated t sw fresh heardAny now).silent ?_
  unfold decided
  refine decision_of_override ?_ (by simpa using nothing)
  rw [prepare_overrideUntil, stands]
  simp [unexpired]

end Evaluating
end Thermo

/-! ## The report -/

/-- An answer that is awaited is not taken for someone's hand. -/
theorem Thermo.unasked_of_waiting {t : Thermo} {prev : Option Bool} {on w : Bool}
    (asked : t.commanded = some w) (waiting : t.confirmed = false) : t.unasked prev on = false := by
  simp [Thermo.unasked, asked, waiting]

theorem hearSwitch_overrideUntil (prev : Option Bool) (on : Bool) (now : DateTime) (t : Thermo) :
    (Controller.hearSwitch true prev on now t).overrideUntil =
      if t.unasked prev on && t.minds then some (now + secs t.cfg.overrideSecs)
      else t.overrideUntil := by
  have told := hearSwitch_told prev on now t
  cases told with
  | echo asked waiting _ _ _ kept =>
    rw [kept, Thermo.unasked_of_waiting asked waiting]
    rfl
  | onItsWay asked waiting _ _ _ kept =>
    rw [kept, Thermo.unasked_of_waiting asked waiting]
    rfl
  | known unchanged _ _ _ _ kept =>
    rw [kept, Thermo.unasked, beq_false_of_ne unchanged]
    rfl
  | byHand changed answered =>
    have isAnswered : (t.commanded.isNone || t.confirmed) = true := by
      rcases answered with none | confirmed
      · rw [none]
        rfl
      · rw [confirmed, Bool.or_true]
    have notWaiting (w : Bool) : (t.commanded == some w && !t.confirmed) = false := by
      rcases answered with none | confirmed
      · rw [none]
        rfl
      · rw [confirmed, Bool.not_true, Bool.and_false]
    obtain ⟨since, noted⟩ := noteReport_frame true prev on now t
    unfold Controller.hearSwitch Thermo.unasked
    dsimp only
    rw [noted, isAnswered, changed, beq_self_eq_true, Bool.true_and, Bool.true_and,
      if_neg (by rw [notWaiting]; exact Bool.false_ne_true),
      if_neg (by rw [notWaiting]; exact Bool.false_ne_true),
      if_pos (by cases on <;> rfl)]
    split
    · next minds => exact (if_pos minds).symm
    · next minds => exact (if_neg minds).symm

theorem hearSwitch_owed (prev : Option Bool) (on : Bool) (now : DateTime) (t : Thermo)
    (owed : (Controller.hearSwitch true prev on now t).enteringOff = true) : t.enteringOff = true := by
  cases hearSwitch_told prev on now t with
  | echo _ _ _ _ enteringOff =>
    rw [enteringOff, Bool.and_eq_true] at owed
    exact owed.1
  | onItsWay _ _ _ _ enteringOff => rwa [enteringOff] at owed
  | byHand _ _ _ _ enteringOff => rwa [enteringOff] at owed
  | known _ _ _ _ enteringOff => rwa [enteringOff] at owed

/-! ## Every input -/

namespace View
variable {v : View} {id : String} {more : List Command}

/-- The commands a thermostat sent. -/
def own (v : View) (id : String) : List Command := v.commands.filter fun cmd => cmd.thermostat == id

theorem mem_own {cmd : Command} : cmd ∈ v.own id ↔ cmd ∈ v.commands ∧ cmd.thermostat = id := by
  rw [own, List.mem_filter, beq_iff_eq]

theorem own_sent : (v.sent more).own id = v.own id ++ more.filter fun cmd => cmd.thermostat == id :=
  List.filter_append ..

theorem own_of_strangers (strangers : ∀ cmd ∈ more, cmd.thermostat ≠ id) :
    (v.sent more).own id = v.own id := by
  have none : (more.filter fun cmd => cmd.thermostat == id) = [] := by
    rw [List.filter_eq_nil_iff]
    intro cmd sent
    rw [beq_iff_eq]
    exact strangers cmd sent
  rw [own_sent, none, List.append_nil]

theorem own_of_other {other : String} (apart : other ≠ id) (t : Thermo) (toSend : Option Bool) :
    (v.sent (Controller.sends id t toSend)).own other = v.own other := by
  refine own_of_strangers fun cmd sent mine => apart ?_
  rw [Controller.sends, Option.mem_toList, Option.map_eq_some_iff] at sent
  obtain ⟨_, _, rfl⟩ := sent
  exact mine.symm

end View

/-- Where a thermostat's override may have begun, and what the overrides listed keep to: they
stand, with no command sent but those allowed, unless one was just ended. -/
structure Respects (began : Override → Prop) (standing : List Override) (ended : String → Prop)
    (allowed : String → List Command → Prop) (v : View) (id : String) (t : Thermo) : Prop where
  owed : t.enteringOff = true → t.active = false
  begun : ∀ ends, t.overrideUntil = some ends → began ⟨id, ends⟩
  stands : ∀ o ∈ standing, o.thermostat = id → ended id ∧ t.overrideUntil = none ∨
    (t.active = true ∧ t.overrideUntil = some o.ends) ∧ allowed id (v.own id)

namespace Respects
variable {began : Override → Prop} {standing : List Override} {ended : String → Prop}
  {allowed : String → List Command → Prop} {v : View} {id : String} {t : Thermo} {now : DateTime}

theorem nothing_owed (respects : Respects began standing ended allowed v id t)
    (active : t.active = true) : t.enteringOff = false := by
  cases owed : t.enteringOff with
  | false => rfl
  | true => rw [respects.owed owed] at active; cases active

theorem sameOwn {v' : View} (respects : Respects began standing ended allowed v id t)
    (own : v'.own id = v.own id) : Respects began standing ended allowed v' id t where
  owed := respects.owed
  begun := respects.begun
  stands o listed mine := by
    rw [own]
    exact respects.stands o listed mine

theorem rule (unexpired : ∀ o ∈ standing, now < o.ends) :
    Rule now (Respects began standing ended allowed) (Respects began standing ended allowed) where
  weaken := id
  evaluate := by
    intro v id t sw fresh _ _ respects
    have evaluated := Thermo.evaluate_evaluated t sw fresh (v.heardAny t) now
    have ends := Thermo.evaluate_overrideUntil t sw fresh (v.heardAny t) now
    refine ⟨fun owed => ?_, fun e stands => ?_, fun o listed mine => ?_⟩
    · rw [Thermo.evaluate_active]
      exact respects.owed (evaluated.owed owed).1
    · rw [ends, Option.filter_eq_some_iff] at stands
      exact respects.begun e stands.1
    · rw [ends, Thermo.evaluate_active]
      refine (respects.stands o listed mine).imp ?_ ?_
      · rintro ⟨isEnded, none⟩
        rw [none]
        exact ⟨isEnded, rfl⟩
      · rintro ⟨⟨active, stands⟩, allows⟩
        have silent := Thermo.evaluate_of_override sw fresh (v.heardAny t) now stands
          (unexpired o listed) (respects.nothing_owed active)
        refine ⟨⟨active, ?_⟩, ?_⟩
        · rw [stands, Option.filter_some, if_pos (decide_eq_true (unexpired o listed))]
        · rw [silent, View.sent, Controller.sends, Option.map_none, Option.toList_none,
            List.append_nil]
          exact allows
  others := by
    intro v id t other sw fresh u _ apart _
    exact ⟨(·.sameOwn (View.own_of_other apart t _)), (·.sameOwn (View.own_of_other apart t _))⟩
  isLocal := by
    intro v v' id t commands _ _ respects
    exact respects.sameOwn (by rw [View.own, commands, View.own])
  openLocal := by
    intro v v' id t commands _ respects
    exact respects.sameOwn (by rw [View.own, commands, View.own])
  retry respects := ⟨respects.owed, respects.begun, respects.stands⟩
  stopped offs respects := respects.sameOwn (View.own_of_strangers fun cmd sent => (offs cmd sent).2)

theorem adjusted {t' : Thermo} (respects : Respects began standing ended allowed v id t)
    (adjusts : Adjusted t t') (spares : ended id ∨ t'.overrideUntil = t.overrideUntil) :
    Respects began standing ended allowed v id t' := by
  have active : t'.active = t.active := by rw [Thermo.active, adjusts.mode, Thermo.active]
  refine ⟨fun owed => ?_, fun ends stands => ?_, fun o listed mine => ?_⟩
  · rw [active]
    exact respects.owed (adjusts.enteringOff ▸ owed)
  · rcases adjusts.overrideUntil with same | none
    · exact respects.begun ends (same ▸ stands)
    · rw [none] at stands
      cases stands
  · rw [active]
    rcases adjusts.overrideUntil with same | none
    · rw [same]
      exact respects.stands o listed mine
    · refine spares.elim (fun isEnded => .inl ⟨isEnded, none⟩) fun same => ?_
      rw [same]
      exact respects.stands o listed mine

/-- Setting the mode ends an override, whether the mode changes or not. -/
theorem changeMode (respects : Respects began standing ended allowed v id t) (isEnded : ended id)
    (mode : Mode) : Respects began standing ended allowed v id
      (if t.cfg.mode ≠ mode then Controller.changeMode mode t else t).personChangedIt := by
  refine ⟨?_, fun ends stands => (by cases stands), fun _ _ _ => .inl ⟨isEnded, rfl⟩⟩
  split
  · unfold Controller.changeMode
    dsimp only
    split
    · next off => exact fun _ => by simp [Thermo.personChangedIt, Thermo.active, off]
    · exact fun owed => by cases owed
  · exact respects.owed

theorem moveTo (respects : Respects began standing ended allowed v id t) (device : String)
    {more : List Command} (allows : allowed id (v.own id) → allowed id ((v.sent more).own id)) :
    Respects began standing ended allowed (v.sent more) id (t.moveTo device now) where
  owed := respects.owed
  begun := respects.begun
  stands o listed mine := (respects.stands o listed mine).imp_right (And.imp_right allows)

theorem mono {began' : Override → Prop} {standing' : List Override}
    {allowed' : String → List Command → Prop}
    (respects : Respects began standing ended allowed v id t) (begins : ∀ o, began o → began' o)
    (fewer : ∀ o ∈ standing', o ∈ standing)
    (allows : allowed id (v.own id) → allowed' id (v.own id)) :
    Respects began' standing' ended allowed' v id t where
  owed := respects.owed
  begun ends stands := begins _ (respects.begun ends stands)
  stands o listed mine := (respects.stands o (fewer o listed) mine).imp_right (And.imp_right allows)

end Respects

/-- Nothing was sent but the OFFs that are let through. -/
def OnlyOffs (lets : Bool) (sent : List Command) : Prop := ∀ cmd ∈ sent, cmd.on = false ∧ lets = true

theorem OnlyOffs.sent {lets : Bool} {v : View} {id : String} {more : List Command}
    (only : OnlyOffs lets (v.own id)) (offs : ∀ cmd ∈ more, cmd.thermostat = id →
      cmd.on = false ∧ lets = true) : OnlyOffs lets ((v.sent more).own id) := by
  intro cmd sent
  rw [View.own_sent] at sent
  rcases List.mem_append.mp sent with sent | sent
  · exact only cmd sent
  · obtain ⟨sent, mine⟩ := List.mem_filter.mp sent
    exact offs cmd sent (beq_iff_eq.mp mine)

namespace Controller
variable {c : Controller} {formats : Formats} {input : Input} {now : DateTime}
  {began : Override → Prop} {standing : List Override}

/-- A command is at hand that ends the thermostat's override. -/
def lifts (c : Controller) (input : Input) (id : String) : Bool :=
  match input with
  | .command device payload => c.ownId device == some id && endsOverride payload
  | _ => false

/-- The thermostat's switch is being chosen, or the plugin stops. -/
def letsGo (c : Controller) (input : Input) (id : String) : Bool :=
  match input with
  | .state device _ => c.candidates[device]?.any fun candidate => candidate.thermostat == id
  | .command device payload => c.ownId device == some id && (actuatorAsked payload).isSome
  | .shutdown => true
  | _ => false

/-- The controller as it is when a switch's report in its input is heard. -/
def atReport (formats : Formats) (c : Controller) (input : Input) (now : DateTime) : Controller :=
  match input with
  | .state device payload => c.taken formats device payload now
  | _ => c

/-- The overrides that a switch's report starts. -/
def flipped (c : Controller) (device : String) (on : Bool) (now : DateTime) : List Override :=
  (c.therms.toList.filter fun entry => entry.2.act == device &&
    (entry.2.unasked (c.seenOf device).on on && entry.2.minds)).map fun entry =>
      ⟨entry.1, now + secs entry.2.cfg.overrideSecs⟩

/-- The overrides that an input starts. -/
def flips (formats : Formats) (c : Controller) (input : Input) (now : DateTime) : List Override :=
  match input with
  | .state device payload =>
    match c.ownId device, interpretActuatorOn payload with
    | none, some on => (c.taken formats device payload now).flipped device on now
    | _, _ => []
  | _ => []

theorem mem_flipped {device : String} {on : Bool} {o : Override} :
    o ∈ c.flipped device on now ↔ ∃ t, c.therms[o.thermostat]? = some t ∧ t.act = device ∧
      (t.unasked (c.seenOf device).on on && t.minds) = true ∧
        o.ends = now + secs t.cfg.overrideSecs := by
  unfold flipped
  simp only [List.mem_map, List.mem_filter]
  constructor
  · rintro ⟨⟨id, t⟩, ⟨found, starts⟩, rfl⟩
    rw [Bool.and_eq_true, beq_iff_eq] at starts
    exact ⟨t, Std.ExtTreeMap.mem_toList_iff_getElem?_eq_some.mp found, starts.1, starts.2, rfl⟩
  · rintro ⟨t, found, uses, starts, ends⟩
    refine ⟨(o.thermostat, t), ⟨Std.ExtTreeMap.mem_toList_iff_getElem?_eq_some.mpr found, ?_⟩, ?_⟩
    · rw [Bool.and_eq_true, beq_iff_eq]
      exact ⟨uses, starts⟩
    · rw [← ends]

/-- The overrides that an input leaves standing, with those it starts in the place of theirs. -/
def standingAfter (formats : Formats) (c : Controller) (input : Input) (now : DateTime)
    (standing : List Override) : List Override :=
  let flips := c.flips formats input now
  (standing.filter fun o => flips.all fun flip => flip.thermostat != o.thermostat) ++ flips

/-- Where an override stood, nothing but the OFFs let through is sent, and where one starts,
nothing more once its report is heard. -/
def Hushed (formats : Formats) (c : Controller) (input : Input) (now : DateTime)
    (standing : List Override) (id : String) (sent : List Command) : Prop :=
  (∀ o ∈ standing, o.thermostat = id → OnlyOffs (c.letsGo input id) sent) ∧
    ∀ o ∈ c.flips formats input now, o.thermostat = id →
      sent = (c.atReport formats input now).view.own id

/-- What holds before an input, its own commands apart. -/
abbrev Before (began : Override → Prop) (standing : List Override) (c : Controller) (input : Input) :
    View → String → Thermo → Prop :=
  Respects began standing (c.lifts input · = true) fun id => OnlyOffs (c.letsGo input id)

/-- What holds after it. -/
abbrev After (began : Override → Prop) (standing : List Override) (formats : Formats)
    (c : Controller) (input : Input) (now : DateTime) : View → String → Thermo → Prop :=
  Respects (fun o => began o ∨ o ∈ c.flips formats input now)
    (c.standingAfter formats input now standing) (c.lifts input · = true)
    (c.Hushed formats input now standing)

theorem mem_standingAfter {o : Override} : o ∈ c.standingAfter formats input now standing ↔
    o ∈ standing ∧ (∀ flip ∈ c.flips formats input now, flip.thermostat ≠ o.thermostat) ∨
      o ∈ c.flips formats input now := by
  unfold standingAfter
  simp [List.mem_filter, List.all_eq_true]

/-- An input that brings no such report starts nothing. -/
theorem after_of_quiet {c' : Controller} (quiet : c.flips formats input now = [])
    (all : c'.All (Before began standing c input)) :
    c'.All (After began standing formats c input now) := by
  intro id t found
  refine (all id t found).mono (fun o => .inl) (fun o listed => ?_) fun only => ⟨fun _ _ _ => only, ?_⟩
  · rcases mem_standingAfter.mp listed with kept | flip
    · exact kept.1
    · rw [quiet] at flip
      cases flip
  · intro o flip
    rw [quiet] at flip
    cases flip

theorem unexpired_after (unexpired : ∀ o ∈ standing, now < o.ends) :
    ∀ o ∈ c.standingAfter formats input now standing, now < o.ends := by
  intro o listed
  rcases mem_standingAfter.mp listed with kept | flip
  · exact unexpired o kept.1
  unfold flips at flip
  split at flip
  · split at flip
    · obtain ⟨t, _, _, starts, ends⟩ := mem_flipped.mp flip
      simp only [Thermo.minds, Bool.and_eq_true, decide_eq_true_eq] at starts
      have longer : 0 < secs t.cfg.overrideSecs :=
        Int.mul_pos (Int.natCast_pos.mpr starts.2.2) (by decide)
      rw [ends]
      exact Int.lt_add_of_pos_right now longer
    · cases flip
  · cases flip

/-- A message, up to the switch's report in it. -/
theorem taken_before {device : String} {payload : Json} (is : input = .state device payload)
    (started : c.started = true) (keyed : c.All Rule.Keyed)
    (all : c.All (Before began standing c input)) (unexpired : ∀ o ∈ standing, now < o.ends) :
    (c.taken formats device payload now).All (Before began standing c input) := by
  refine (Respects.rule unexpired).taken_all started keyed all formats device payload ?_
  intro candidate t more chosen found offs
  refine (all _ t found).moveTo device fun only => only.sent fun cmd sent _ => ⟨(offs cmd sent).1, ?_⟩
  rw [is, letsGo, chosen, Option.any_some, beq_self_eq_true]

/-- Still to be told of its switch's report, a thermostat is as it was when that was heard. -/
def Untold (heard : Controller) (device : String) (v : View) (id : String) (t : Thermo) : Prop :=
  heard.therms[id]? = some t ∧ t.act = device ∧ v.own id = heard.view.own id

section Hearing
variable {heard : Controller} {device : String} {on : Bool}
  (before : heard.All (Before began standing c input)) (spared : ∀ id, c.lifts input id = false)
  (starts : c.flips formats input now = heard.flipped device on now)
  (isHeard : c.atReport formats input now = heard)
include before spared isHeard

theorem hushed_of_untold {v : View} {id : String} {t : Thermo} (found : heard.therms[id]? = some t)
    (same : v.own id = heard.view.own id) : c.Hushed formats input now standing id (v.own id) := by
  refine ⟨fun o listed mine => ?_, fun o _ _ => by rw [isHeard, same]⟩
  rw [same]
  refine ((before id t found).stands o listed mine).elim (fun lifted => ?_) (·.2)
  rw [spared] at lifted
  cases lifted.1

include starts

/-- Told of the report, a thermostat has its override exactly where one is to start or stood. -/
theorem hearSwitch_after {v : View} {id : String} {t : Thermo} (untold : Untold heard device v id t) :
    After began standing formats c input now v id
      (hearSwitch true (heard.view.on device) on now t) := by
  obtain ⟨found, uses, same⟩ := untold
  have respects := before id t found
  obtain ⟨cfg, _, _⟩ := hearSwitch_frame true (heard.view.on device) on now t
  have active : (hearSwitch true (heard.view.on device) on now t).active = t.active := by
    rw [Thermo.active, cfg, Thermo.active]
  have ends := hearSwitch_overrideUntil (heard.view.on device) on now t
  have hushed := hushed_of_untold before spared isHeard found same
  by_cases flips : (t.unasked (heard.view.on device) on && t.minds) = true
  · rw [if_pos flips] at ends
    have flip : (⟨id, now + secs t.cfg.overrideSecs⟩ : Override) ∈ c.flips formats input now := by
      rw [starts]
      exact mem_flipped.mpr ⟨t, found, uses, flips, rfl⟩
    refine ⟨fun owed => ?_, fun e stands => ?_, fun o listed mine => .inr ⟨?_, hushed⟩⟩
    · rw [active]
      exact respects.owed (hearSwitch_owed _ on now t owed)
    · rw [ends] at stands
      cases stands
      exact .inr flip
    · rcases mem_standingAfter.mp listed with kept | started
      · exact absurd mine.symm (kept.2 _ flip)
      · rw [starts] at started
        obtain ⟨u, there, _, _, later⟩ := mem_flipped.mp started
        rw [mine, found] at there
        cases there
        simp only [Thermo.minds, Bool.and_eq_true] at flips
        exact ⟨active.trans flips.2.1.1, ends.trans (by rw [later])⟩
  · rw [if_neg flips] at ends
    refine ⟨fun owed => ?_, fun e stands => ?_, fun o listed mine => .inr ⟨?_, hushed⟩⟩
    · rw [active]
      exact respects.owed (hearSwitch_owed _ on now t owed)
    · exact .inl (respects.begun e (ends ▸ stands))
    · rcases mem_standingAfter.mp listed with kept | started
      · rw [active, ends]
        refine (respects.stands o kept.1 mine).elim (fun lifted => ?_) (·.1)
        rw [spared] at lifted
        cases lifted.1
      · rw [starts] at started
        obtain ⟨u, there, _, unasked, _⟩ := mem_flipped.mp started
        rw [mine, found] at there
        cases there
        exact absurd unasked flips

theorem onSwitchState_after (started : heard.started = true) (keyed : heard.All Rule.Keyed)
    (unexpired : ∀ o ∈ standing, now < o.ends) :
    (heard.onSwitchState device on now).All (After began standing formats c input now) := by
  have rule : Rule now (After began standing formats c input now)
      (After began standing formats c input now) := Respects.rule (unexpired_after unexpired)
  refine rule.onSwitchState_tells started keyed ?_
    (fun v id t => hearSwitch_after before spared starts isHeard) ?_ ?_
  · intro v id t sw fresh other u _ apart _ untold
    exact ⟨untold.1, untold.2.1, (View.own_of_other apart t _).trans untold.2.2⟩
  · exact fun id t found uses => ⟨found, uses, rfl⟩
  · intro id t found other
    have hushed : c.Hushed formats input now standing id ((heard.view.reports device on).own id) :=
      hushed_of_untold before spared isHeard found rfl
    refine ⟨(before id t found).owed, fun e stands => .inl ((before id t found).begun e stands), ?_⟩
    intro o listed mine
    refine .inr ⟨?_, hushed⟩
    rcases mem_standingAfter.mp listed with kept | started
    · refine ((before id t found).stands o kept.1 mine).elim (fun lifted => ?_) (·.1)
      rw [spared] at lifted
      cases lifted.1
    · rw [starts] at started
      obtain ⟨u, there, uses, _⟩ := mem_flipped.mp started
      rw [mine, found] at there
      cases there
      exact absurd uses other

end Hearing

/-- A switch's report starts the overrides it should, and leaves the others standing. -/
theorem onState_after {device : String} {payload : Json} (is : input = .state device payload)
    (started : c.started = true) (keyed : c.All Rule.Keyed)
    (all : c.All (Before began standing c input)) (unexpired : ∀ o ∈ standing, now < o.ends) :
    (c.onState formats device payload now).All (After began standing formats c input now) := by
  cases own : c.ownId device with
  | some id =>
    rw [onState_of_own own started]
    refine after_of_quiet ?_ all
    rw [is, flips, own]
  | none =>
  have before : (c.taken formats device payload now).All (Before began standing c input) :=
    taken_before is started keyed all unexpired
  rw [onState_of_other own]
  cases report : interpretActuatorOn payload with
  | none =>
    refine after_of_quiet ?_ before
    rw [is, flips, own, report]
  | some on =>
    have starts : c.flips formats input now =
        (c.taken formats device payload now).flipped device on now := by
      rw [is, flips, own, report]
    have heard : c.atReport formats input now = c.taken formats device payload now := by
      rw [is, atReport]
    refine onSwitchState_after before ?_ starts heard ?_ ?_ unexpired
    · intro id
      rw [is]
      rfl
    · exact Rule.taken_started formats device payload |>.trans started
    · exact Rule.taken_keyed started keyed formats device payload

/-- The thermostat is added anew. -/
def addsAnew (input : Input) (id : String) : Bool :=
  match input with
  | .add entry => entry.id == id
  | _ => false

/-- What every input makes of the overrides. -/
theorem handle_after (started : c.started = true) (keyed : c.All Rule.Keyed)
    (all : c.All (Before began standing c input)) (unexpired : ∀ o ∈ standing, now < o.ends)
    (lasting : ∀ o ∈ standing, addsAnew input o.thermostat = false) :
    (c.handle formats input now).All (After began standing formats c input now) := by
  have rule : Rule now (Before began standing c input) (Before began standing c input) :=
    Respects.rule unexpired
  cases input with
  | state device payload => exact onState_after rfl started keyed all unexpired
  | availability device online =>
    exact after_of_quiet rfl (rule.onAvailability_all started keyed all device online)
  | command device payload =>
    refine after_of_quiet rfl (rule.onCommand_all started all formats device payload ?_)
    intro id t c' own found applied
    have lifted (is : endsOverride payload = true) :
        c.lifts (.command device payload) id = true := by
      rw [lifts, own, beq_self_eq_true, is, Bool.true_and]
    refine applied.all rule found all ?_ ?_ ?_ ?_
    · exact fun v u u' adjusts _ spares respects => respects.adjusted adjusts (spares.imp_left lifted)
    · exact fun u' _ adjusts _ spares => (all id t found).adjusted adjusts (spares.imp_left lifted)
    · exact fun mode asked _ => (all id t found).changeMode (lifted (endsOverride_of_mode asked)) mode
    · intro actuator more asked offs
      refine (all id t found).moveTo actuator fun only => only.sent fun cmd sent _ => ⟨(offs cmd sent).1, ?_⟩
      rw [letsGo, own, beq_self_eq_true, asked, Option.isSome_some, Bool.true_and]
  | tick => exact after_of_quiet rfl (rule.tick_all started all)
  | add entry =>
    refine after_of_quiet rfl (rule.add_all started all entry ⟨?_, ?_, ?_⟩)
    · exact fun owed => by cases owed
    · exact fun ends stands => by cases stands
    · intro o listed mine
      have others := lasting o listed
      rw [addsAnew, mine, beq_self_eq_true] at others
      cases others
  | remove id => exact after_of_quiet rfl (rule.remove_all all id)
  | recalculateAll force =>
    refine after_of_quiet rfl (rule.recalculateAll_all started all force ?_)
    exact fun _ id t found => (all id t found).adjusted { overrideUntil := .inl rfl } (.inr rfl)
  | shutdown =>
    refine after_of_quiet rfl (Rule.shutdown_all keyed all ?_)
    intro v id t more offs respects
    refine ⟨respects.owed, respects.begun, fun o listed mine => ?_⟩
    refine (respects.stands o listed mine).imp_right (And.imp_right fun only => ?_)
    exact only.sent fun cmd sent _ => ⟨(offs cmd sent).1, rfl⟩

theorem mem_evaluate {other : String} (present : other ∈ c.therms) (id : String) (now : DateTime) :
    other ∈ (c.evaluate id now).therms := by
  unfold evaluate
  split
  · exact present
  split
  · exact present
  · exact Std.ExtTreeMap.mem_insert.mpr (.inr present)

/-- A thermostat told of its switch's report is still there. -/
theorem mem_onSwitchState {other : String} (present : other ∈ c.therms) (device : String) (on : Bool) :
    other ∈ (c.onSwitchState device on now).therms := by
  unfold onSwitchState
  dsimp only
  have told : other ∈ (c.see device fun s => { s with on := some on }).therms := present
  generalize c.see device _ = c' at told
  generalize List.map _ _ = ids
  generalize (c.seenOf device).on = prev
  induction ids generalizing c' with
  | nil => exact told
  | cons id rest ih =>
    refine ih _ (mem_evaluate ?_ id now)
    exact Std.ExtTreeMap.mem_modify.mpr told

/-- A report that starts an override comes in a state message, about a thermostat that is there. -/
theorem flips_of_mem {o : Override} (flip : o ∈ c.flips formats input now) :
    o.thermostat ∈ (c.handle formats input now).therms ∧ c.lifts input o.thermostat = false := by
  unfold flips at flip
  split at flip
  · next device payload =>
    refine ⟨?_, rfl⟩
    split at flip
    · next other report =>
      obtain ⟨t, found, _⟩ := mem_flipped.mp flip
      rw [handle, onState_of_other other, report]
      exact mem_onSwitchState (Std.ExtTreeMap.mem_iff_isSome_getElem?.mpr (by rw [found]; rfl)) device _
    · cases flip
  · cases flip

end Controller

/-! ## Whole runs -/

/-- What comes to a controller, and when. A switch's report may be that it obeyed a command. -/
structure Arrival where
  input : Input
  now : DateTime
  obeys : Bool := false

/-- A controller as it runs, with the commands sent that its switches have yet to obey, and the
overrides that stand of those that reports started. -/
structure OverrideWatch where
  ctl : Controller
  inFlight : List Command
  overrides : List Override

namespace OverrideWatch
variable {formats : Formats} {w : OverrideWatch} {a : Arrival}

/-- A switch obeys a command once, and no more those sent to it before. -/
def obey (device : String) (on : Bool) : List Command → List Command
  | [] => []
  | cmd :: later =>
    if cmd.actuator ≠ device then cmd :: obey device on later
    else if cmd.on = on then later
    else obey device on later

/-- The switch that obeys a command on its way to it, and what it reports then. -/
def obeyed (w : OverrideWatch) (a : Arrival) : Option (String × Bool) :=
  match a.input with
  | .state device payload =>
    (interpretActuatorOn payload).bind fun on =>
      if a.obeys && w.inFlight.any fun cmd => cmd.actuator == device && cmd.on == on then
        some (device, on)
      else none
  | _ => none

def handled (formats : Formats) (w : OverrideWatch) (a : Arrival) : Controller :=
  w.ctl.handle formats a.input a.now

/-- The overrides that have not come to their end. -/
def running (w : OverrideWatch) (a : Arrival) : List Override :=
  w.overrides.filter fun o => decide (a.now < o.ends) && !Controller.addsAnew a.input o.thermostat

theorem mem_running {o : Override} : o ∈ w.running a ↔
    o ∈ w.overrides ∧ a.now < o.ends ∧ Controller.addsAnew a.input o.thermostat = false := by
  rw [running, List.mem_filter, Bool.and_eq_true, decide_eq_true_eq, Bool.not_eq_true']

/-- The override is not ended by what came: its thermostat is still there, and no command took
the override from it. -/
def goesOn (formats : Formats) (w : OverrideWatch) (a : Arrival) (o : Override) : Bool :=
  (w.handled formats a).therms[o.thermostat]?.any fun t =>
    !w.ctl.lifts a.input o.thermostat || t.overrideUntil.isSome

/-- The overrides that stand through what came. -/
def standing (formats : Formats) (w : OverrideWatch) (a : Arrival) : List Override :=
  (w.running a).filter (w.goesOn formats a)

/-- What reports of obeyed commands start is left out. -/
def step (formats : Formats) (w : OverrideWatch) (a : Arrival) : OverrideWatch where
  ctl := (w.handled formats a).takeEffects.1
  inFlight := (w.obeyed a).elim w.inFlight (fun echo => obey echo.1 echo.2 w.inFlight) ++
    (w.handled formats a).commands
  overrides :=
    let flips := w.ctl.flips formats a.input a.now
    ((w.standing formats a).filter fun o => flips.all fun flip => flip.thermostat != o.thermostat) ++
      if (w.obeyed a).isSome then [] else flips

def start (formats : Formats) (entries : List ThermostatEntry) (heard : List (Heard × DateTime))
    (now : DateTime) : OverrideWatch :=
  let c := (Controller.boot formats entries heard).start now
  ⟨c.takeEffects.1, c.commands, []⟩

/-- What is asked of every arrival. -/
structure Respected (formats : Formats) (w : OverrideWatch) (a : Arrival) : Prop where
  /-- An override begins only with the report of a change, and never while the thermostat's last
  request is unanswered. -/
  begins : ∀ id t ends, (w.handled formats a).therms[id]? = some t → t.overrideUntil = some ends →
    (∃ was, w.ctl.therms[id]? = some was ∧ was.overrideUntil = some ends) ∨
      ⟨id, ends⟩ ∈ w.ctl.flips formats a.input a.now
  /-- Such a report starts one unless it is of a command obeyed, and nothing is sent for it. -/
  starts : w.obeyed a = none → ∀ o ∈ w.ctl.flips formats a.input a.now,
    (∃ t, (w.handled formats a).therms[o.thermostat]? = some t ∧ t.overrideUntil = some o.ends) ∧
      (w.handled formats a).view.own o.thermostat =
        (w.ctl.atReport formats a.input a.now).view.own o.thermostat
  /-- From then on its thermostat sends nothing but an OFF when its switch is being chosen or the
  plugin stops, until the override's end or a command that ends it. -/
  rests : ∀ o ∈ w.standing formats a, ∀ cmd ∈ (w.handled formats a).commands,
    cmd.thermostat = o.thermostat → cmd.on = false ∧ w.ctl.letsGo a.input o.thermostat = true

structure Sound (w : OverrideWatch) : Prop where
  started : w.ctl.started = true
  keyed : w.ctl.All Rule.Keyed
  idle : w.ctl.commands = []
  owed : w.ctl.All fun _ _ t => t.enteringOff = true → t.active = false
  stands : w.ctl.All fun _ id t => ∀ o ∈ w.overrides, o.thermostat = id →
    t.active = true ∧ t.overrideUntil = some o.ends

/-- Where an override was before what came. -/
def Had (w : OverrideWatch) (o : Override) : Prop :=
  ∃ was, w.ctl.therms[o.thermostat]? = some was ∧ was.overrideUntil = some o.ends

theorem Sound.after (sound : w.Sound) (formats : Formats) (a : Arrival) :
    (w.handled formats a).All
      (Controller.After w.Had (w.running a) formats w.ctl a.input a.now) := by
  refine Controller.handle_after sound.started sound.keyed ?_ ?_ ?_
  · intro id t found
    refine ⟨sound.owed id t found, fun ends stands => ⟨t, found, stands⟩, fun o listed mine => ?_⟩
    refine .inr ⟨sound.stands id t found o (mem_running.mp listed).1 mine, fun cmd sent => ?_⟩
    have sent := (View.mem_own.mp sent).1
    rw [Controller.view, sound.idle] at sent
    cases sent
  · exact fun o listed => (mem_running.mp listed).2.1
  · exact fun o listed => (mem_running.mp listed).2.2

section Afterwards
variable {id : String} {t : Thermo} {o : Override}
  (after : Controller.After w.Had (w.running a) formats w.ctl a.input a.now
    (w.handled formats a).view id t)
include after

theorem stands_of_flip (flip : o ∈ w.ctl.flips formats a.input a.now) (mine : o.thermostat = id) :
    (t.active = true ∧ t.overrideUntil = some o.ends) ∧
      w.ctl.Hushed formats a.input a.now (w.running a) id ((w.handled formats a).view.own id) := by
  refine (after.stands o (Controller.mem_standingAfter.mpr (.inr flip)) mine).resolve_left ?_
  rintro ⟨lifted, _⟩
  rw [← mine, (Controller.flips_of_mem flip).2] at lifted
  cases lifted

variable (found : (w.handled formats a).therms[id]? = some t)
include found

theorem stands_of_kept (stood : o ∈ w.standing formats a)
    (unreplaced : ∀ flip ∈ w.ctl.flips formats a.input a.now, flip.thermostat ≠ o.thermostat)
    (mine : o.thermostat = id) :
    (t.active = true ∧ t.overrideUntil = some o.ends) ∧
      w.ctl.Hushed formats a.input a.now (w.running a) id ((w.handled formats a).view.own id) := by
  obtain ⟨runs, goesOn⟩ := List.mem_filter.mp stood
  refine (after.stands o (Controller.mem_standingAfter.mpr (.inl ⟨runs, unreplaced⟩)) mine).resolve_left ?_
  rintro ⟨lifted, none⟩
  rw [OverrideWatch.goesOn, mine, found, Option.any_some, lifted, none] at goesOn
  cases goesOn

/-- The overrides that an arrival leaves on the list stand. -/
theorem stands_after (listed : o ∈ (step formats w a).overrides) (mine : o.thermostat = id) :
    t.active = true ∧ t.overrideUntil = some o.ends := by
  rcases List.mem_append.mp listed with kept | flip
  · obtain ⟨stood, unreplaced⟩ := List.mem_filter.mp kept
    rw [List.all_eq_true] at unreplaced
    refine (stands_of_kept after found stood (fun flip member => ?_) mine).1
    simpa using unreplaced flip member
  · split at flip
    · cases flip
    · exact (stands_of_flip after flip mine).1

/-- Where an override runs on, its thermostat sends nothing but the OFFs let through. -/
theorem hushed_after (stood : o ∈ w.standing formats a) (mine : o.thermostat = id) :
    OnlyOffs (w.ctl.letsGo a.input id) ((w.handled formats a).view.own id) := by
  have runs := (List.mem_filter.mp stood).1
  by_cases replaced : ∃ flip ∈ w.ctl.flips formats a.input a.now, flip.thermostat = o.thermostat
  · obtain ⟨flip, member, same⟩ := replaced
    exact (stands_of_flip after member (same.trans mine)).2.1 o runs mine
  · have unreplaced : ∀ flip ∈ w.ctl.flips formats a.input a.now, flip.thermostat ≠ o.thermostat :=
      fun flip member same => replaced ⟨flip, member, same⟩
    exact (stands_of_kept after found stood unreplaced mine).2.1 o runs mine

end Afterwards

theorem step_sound (formats : Formats) (a : Arrival) (sound : w.Sound) :
    (step formats w a).Sound := by
  have after := sound.after formats a
  refine ⟨?_, ?_, rfl, fun id t found => (after id t found).owed, ?_⟩
  · exact Rule.handle_started sound.started formats a.input a.now
  · exact Rule.handle_keyed sound.started sound.keyed formats a.input a.now
  · exact fun id t found o listed mine => stands_after (after id t found) found listed mine

theorem Sound.respected (sound : w.Sound) (formats : Formats) (a : Arrival) :
    Respected formats w a := by
  have after := sound.after formats a
  refine ⟨fun id t ends found stands => (after id t found).begun ends stands, ?_, ?_⟩
  · intro notObeyed o flip
    have there := (Controller.flips_of_mem flip).1
    obtain ⟨t, found⟩ := Option.isSome_iff_exists.mp (Std.ExtTreeMap.mem_iff_isSome_getElem?.mp there)
    obtain ⟨⟨_, ends⟩, hushed⟩ := stands_of_flip (after o.thermostat t found) flip rfl
    exact ⟨⟨t, found, ends⟩, hushed.2 o flip rfl⟩
  · intro o stood cmd sent mine
    have goesOn := (List.mem_filter.mp stood).2
    obtain ⟨t, found, _⟩ := (Option.any_eq_true _ _).mp goesOn
    have only := hushed_after (after o.thermostat t found) found stood rfl
    exact only cmd (View.mem_own.mpr ⟨sent, mine⟩)

theorem start_sound (formats : Formats) (entries : List ThermostatEntry)
    (heard : List (Heard × DateTime)) (now : DateTime) : (start formats entries heard now).Sound := by
  have listening := Controller.boot_listening formats entries heard
  have begun : ((Controller.boot formats entries heard).start now).All
      (Respects (fun _ => True) [] (fun _ => False) fun _ _ => True) := by
    refine Controller.start_all (Respects.rule fun o listed => by cases listed) fun id t found => ?_
    refine ⟨fun owed => ?_, fun _ _ => trivial, fun o listed => by cases listed⟩
    have owed : t.enteringOff = true := owed
    rw [(listening.holds id t found).enteringOff] at owed
    cases owed
  refine ⟨Controller.start_started _ now, ?_, rfl, fun id t found => (begun id t found).owed, ?_⟩
  · exact Controller.start_all (Rule.keyedRule now) fun id t found =>
      (listening.holds id t found).keyed
  · exact fun id t found o listed => by cases listed

/-- In every run, an override begins only with a report of a change that nothing unanswered asked
for, begins with every such report that is not of a command obeyed, and is then respected. -/
theorem overrides_respected (formats : Formats) (entries : List ThermostatEntry)
    (heard : List (Heard × DateTime)) (startedAt : DateTime) (arrivals : List Arrival) :
    Runs.EachStep (step formats) (Respected formats) (start formats entries heard startedAt)
      arrivals := by
  have sound := Runs.kept Sound (fun w a sound => step_sound formats a sound)
    (start_sound formats entries heard startedAt) arrivals
  exact sound.eachStep fun w a sound => sound.respected formats a

/-! ## The den's AC -/

/-- A change of its switch that nobody here asked for starts an override, whatever the mode. -/
def everyFlipStarts (formats : Formats) (w : OverrideWatch) (a : Arrival) : Bool :=
  match a.input with
  | .state device payload => (interpretActuatorOn payload).all fun on =>
    let heard := w.ctl.taken formats device payload a.now
    heard.therms.toList.all fun entry =>
      !(entry.2.act == device && entry.2.unasked (heard.seenOf device).on on &&
          decide (0 < entry.2.cfg.overrideSecs)) ||
        (w.handled formats a).therms[entry.1]?.any fun t =>
          t.overrideUntil == some (a.now + secs entry.2.cfg.overrideSecs)
  | _ => true

/-- The thermostat's target or mode is set, or it is removed. -/
def setAnew (w : OverrideWatch) (a : Arrival) (id : String) : Bool :=
  match a.input with
  | .command device payload => w.ctl.ownId device == some id &&
      decide (commandOf payload ∈ ["set_setpoint", "set_mode", ""])
  | .remove other => other == id
  | _ => false

/-- Until the target or the mode is set, nobody sends the switch of an override anything. -/
def switchLeftAlone (formats : Formats) (w : OverrideWatch) (a : Arrival) : Bool :=
  w.overrides.all fun o =>
    decide (o.ends ≤ a.now) || w.setAnew a o.thermostat || w.ctl.letsGo a.input o.thermostat ||
      w.ctl.therms[o.thermostat]?.all fun t =>
        (w.handled formats a).commands.all (·.actuator != t.act)

def denReading (celsius : Nat) : Input :=
  .state "den_temp" (.obj [("temperature", .num (.posInt celsius))])

/-- Off, while its switch is switched on by hand. -/
def flippedWhileOff : List Arrival :=
  [{ input := OffWatch.switchReport false, now := secs 1 },
    { input := OffWatch.switchReport true, now := secs 60 }]

/-- Cool enough, and switched on by hand; then it is told to go back to its usual target. -/
def resumed : List Arrival :=
  [{ input := denReading 20, now := secs 1 },
    { input := OffWatch.switchReport false, now := secs 2 },
    { input := OffWatch.switchReport true, now := secs 60 },
    { input := .command "thermostat_den" (.obj [("action", .str "resume")]), now := secs 70 }]

/-- Another thermostat runs the den's AC too, and leaves no flip of it alone. -/
def study : ThermostatEntry :=
  { OffWatch.den with id := "study", name := "Study", minOffSecs := 100, overrideSecs? := some 0 }

/-- Warm, and switched off by hand: the other thermostat switches it on again. -/
def shared : List Arrival :=
  [{ input := denReading 25, now := secs 1 },
    { input := OffWatch.switchReport true, now := secs 2 },
    { input := OffWatch.switchReport false, now := secs 60 },
    { input := .tick, now := secs 170 }]

example : ((shared.take 3).foldl (step OffWatch.plain)
    (start OffWatch.plain [OffWatch.den, study] [] 0)).overrides = [⟨"den", secs 3660⟩] := by
  decide +kernel

theorem den_overrides_have_limits :
    ¬ Runs.EachStep (step OffWatch.plain) (fun w a => everyFlipStarts OffWatch.plain w a = true)
        (start OffWatch.plain [{ OffWatch.den with mode := .off }] [] 0) flippedWhileOff ∧
      ¬ Runs.EachStep (step OffWatch.plain) (fun w a => switchLeftAlone OffWatch.plain w a = true)
        (start OffWatch.plain [OffWatch.den] [] 0) resumed ∧
      ¬ Runs.EachStep (step OffWatch.plain) (fun w a => switchLeftAlone OffWatch.plain w a = true)
        (start OffWatch.plain [OffWatch.den, study] [] 0) shared := by
  decide +kernel

end OverrideWatch

end HomeCore.Thermostat
