import HomeCore.Thermostat.ChoiceProofs

/-! What a thermostat reads. A log keeps what each sensor last reported of each attribute; where
thermostats that share a sensor read the same attribute of it, every evaluation goes by that log,
and a thermostat left without a reading has its switch off or asks for it. -/
namespace HomeCore.Thermostat
namespace Thermo
variable (t : Thermo) (sw : Seen) (nowOn : Option Bool) (fresh : List Rat) (heardAny : Bool)
  (now : DateTime)

/-- What an evaluation leaves as it was prepared. -/
structure AsPrepared (t p : Thermo) : Prop where
  cfg : t.cfg = p.cfg
  temperature : t.temperature = p.temperature
  graceUntil : t.graceUntil = p.graceUntil
  overrideUntil : t.overrideUntil = p.overrideUntil

theorem evaluate_prepared : AsPrepared (t.evaluate sw fresh heardAny now).1
    (t.prepare (sw.on.or t.commanded) fresh heardAny now) := by
  obtain ⟨_, _, _, frame⟩ := decision_frame (t.prepare (sw.on.or t.commanded) fresh heardAny now)
    ((t.prepare (sw.on.or t.commanded) fresh heardAny now).waitingForFirst fresh heardAny)
  have framed : (t.decided (sw.on.or t.commanded) fresh heardAny now).thermo = _ := frame
  obtain ⟨cfg, temperature, graceUntil, overrideUntil, _⟩ := evaluate_decided t sw fresh heardAny now
  rw [framed] at cfg temperature graceUntil overrideUntil
  exact ⟨cfg, temperature, graceUntil, overrideUntil⟩

theorem prepare_temperature : (t.prepare nowOn fresh heardAny now).temperature =
    aggregate fresh t.cfg.aggregation := by
  obtain ⟨_, _, _, _, expired⟩ := expire_frame t now
  obtain ⟨_, _, run⟩ := longestRun_frame ((t.expire now).takeReadings fresh heardAny now) nowOn now
  rw [prepare, run, expired]
  rfl

theorem prepare_stale : (t.prepare nowOn fresh heardAny now).stale =
    (t.active && fresh.isEmpty &&
      !(t.prepare nowOn fresh heardAny now).waitingForFirst fresh heardAny) := by
  obtain ⟨_, _, _, _, expired⟩ := expire_frame t now
  obtain ⟨_, _, run⟩ := longestRun_frame ((t.expire now).takeReadings fresh heardAny now) nowOn now
  rw [prepare, run, expired]
  rfl

/-- Left without a reading, it asks its switch for off, or knows that it is. -/
theorem evaluate_unread (switch : t.act.isEmpty = false) (active : t.active = true)
    (off : t.cfg.offWhenStale = true)
    (waited : ((t.evaluate sw [] heardAny now).1.graceUntil.isSome && !heardAny) = false)
    (free : (t.evaluate sw [] heardAny now).1.overrideUntil = none) :
    (t.evaluate sw [] heardAny now).1.commanded = some false := by
  have prepared := evaluate_prepared t sw [] heardAny now
  have stale := prepare_stale t (sw.on.or t.commanded) [] heardAny now
  rw [prepared.graceUntil] at waited
  rw [prepared.overrideUntil] at free
  have decided : (t.decided (sw.on.or t.commanded) [] heardAny now).desired = some false ∧
      (t.decided (sw.on.or t.commanded) [] heardAny now).safety = true := by
    simp only [decided, waitingForFirst, List.isEmpty_nil, Bool.and_true, waited, active, Bool.not_false]
      at stale ⊢
    rw [decision, prepare_act, if_neg (by rw [switch]; exact Bool.false_ne_true)]
    split
    · exact ⟨rfl, rfl⟩
    · rw [prepare_active, active, free, stale, prepare_cfg, off]
      exact ⟨rfl, rfl⟩
  have isOff : ∀ {w}, (t.decided (sw.on.or t.commanded) [] heardAny now).desired = some w →
      w = false := by
    intro w wanted
    rw [decided.1] at wanted
    exact (Option.some.inj wanted).symm
  cases evaluate_evaluated t sw [] heardAny now with
  | idle _ _ nothing =>
    rw [decided.1] at nothing
    cases nothing
  | unanswered w _ kept wanted asked =>
    cases isOff wanted
    exact kept.commanded.trans asked
  | assumed w _ kept wanted asked =>
    cases isOff wanted
    exact kept.commanded.trans asked
  | guarded _ _ _ _ usual =>
    rw [decided.2] at usual
    cases usual
  | agreed w _ wanted _ commanded =>
    cases isOff wanted
    exact commanded
  | sent w _ wanted _ commanded =>
    cases isOff wanted
    exact commanded

end Thermo

/-! ## What was asked for last -/

/-- What a thermostat has asked its switch for last. -/
def lastAsked (before : String → Option Bool) (commands : List Command) (id : String) : Option Bool :=
  commands.foldl (fun last cmd => if cmd.thermostat = id then some cmd.on else last) (before id)

@[simp] theorem lastAsked_nil (before : String → Option Bool) (id : String) :
    lastAsked before [] id = before id := rfl

theorem lastAsked_append_self {before : String → Option Bool} {commands : List Command} {id : String}
    (cmd : Command) (mine : cmd.thermostat = id) :
    lastAsked before (commands ++ [cmd]) id = some cmd.on := by
  rw [lastAsked, List.foldl_append, List.foldl_cons, List.foldl_nil, if_pos mine]

/-- Having asked for off last, a thermostat that sends nothing but that has still done so. -/
theorem lastAsked_append_off {before : String → Option Bool} {commands more : List Command}
    {id : String} (offs : ∀ cmd ∈ more, cmd.thermostat = id → cmd.on = false)
    (last : lastAsked before commands id = some false) :
    lastAsked before (commands ++ more) id = some false := by
  rw [lastAsked, List.foldl_append]
  have started : commands.foldl _ (before id) = some false := last
  rw [started]
  clear started last
  induction more with
  | nil => rfl
  | cons cmd rest ih =>
    have head : (if cmd.thermostat = id then some cmd.on else some false) = some false := by
      split
      · next mine => rw [offs cmd List.mem_cons_self mine]
      · rfl
    rw [List.foldl_cons, head]
    exact ih fun later listed => offs later (List.mem_cons_of_mem cmd listed)

/-- Where a thermostat goes by its switch being off, it asked for that last or was told so. -/
def OffKnown (before : String → Option Bool) (v : View) (id : String) (t : Thermo) : Prop :=
  t.act.isEmpty = false → t.commanded = some false →
    lastAsked before v.commands id = some false ∨ v.on t.act = some false ∧ t.confirmed = true

namespace OffKnown
variable {before : String → Option Bool} {v : View} {id : String} {t : Thermo} {now : DateTime}

theorem congr {t' : Thermo} (known : OffKnown before v id t) (act : t'.act = t.act)
    (commanded : t'.commanded = t.commanded) (confirmed : t'.confirmed = t.confirmed) :
    OffKnown before v id t' := by
  rw [OffKnown, act, commanded, confirmed]
  exact known

theorem local_ {v' : View} (commands : v'.commands = v.commands)
    (on : t.act.isEmpty = false → v'.on t.act = v.on t.act) (known : OffKnown before v id t) :
    OffKnown before v' id t := by
  intro switch asked
  rw [commands, on switch]
  exact known switch asked

theorem others {other : String} {u : Thermo} (apart : other ≠ id) (toSend : Option Bool)
    (known : OffKnown before v other u) :
    OffKnown before (v.sent (Controller.sends id t toSend)) other u := by
  intro switch asked
  refine (known switch asked).imp_left fun last => ?_
  refine lastAsked_append_off (fun cmd sent mine => ?_) last
  rw [Controller.sends, Option.mem_toList, Option.map_eq_some_iff] at sent
  obtain ⟨_, _, rfl⟩ := sent
  exact absurd mine.symm apart

theorem rule (before : String → Option Bool) (now : DateTime) :
    Rule now (OffKnown before) (OffKnown before) where
  weaken := fun known => known
  evaluate := by
    intro v id t sw fresh seen _ known
    have act : (t.evaluate sw fresh (v.heardAny t) now).1.act = t.act := by
      rw [Thermo.act, Thermo.evaluate_cfg]
      rfl
    have silent {toSend : Option Bool} (none : toSend = none) (commands : List Command) :
        commands ++ Controller.sends id t toSend = commands := by
      rw [none]
      exact List.append_nil commands
    intro switch asked
    rw [act] at switch ⊢
    cases Thermo.evaluate_evaluated t sw fresh (v.heardAny t) now with
    | idle none kept | unanswered _ none kept | assumed _ none kept | guarded _ none kept =>
      rw [View.sent, silent none, kept.confirmed]
      exact known switch (kept.commanded ▸ asked)
    | agreed w _ _ reported commanded confirmed =>
      right
      rw [commanded] at asked
      cases asked
      exact ⟨seen ▸ reported, confirmed⟩
    | sent w send _ _ commanded =>
      left
      rw [commanded] at asked
      cases asked
      rw [send]
      exact lastAsked_append_self _ rfl
  others := by
    intro v id t other sw fresh u _ apart _
    exact ⟨others apart _, others apart _⟩
  isLocal := by
    intro v v' id t commands on _ known
    exact known.local_ commands on
  openLocal := by
    intro v v' id t commands on known
    exact known.local_ commands on
  retry known := known.congr rfl rfl rfl
  stopped := by
    intro v id t more offs known switch asked
    exact (known switch asked).imp_left
      (lastAsked_append_off fun cmd sent _ => (offs cmd sent).1)

/-- Told of a report, with what the switch said before. -/
def Telling (before : String → Option Bool) (on : Bool) (prev : Option Bool) (v : View) (id : String)
    (t : Thermo) : Prop :=
  v.on t.act = some on ∧ (t.act.isEmpty = false → t.commanded = some false →
    lastAsked before v.commands id = some false ∨ prev = some false ∧ t.confirmed = true)

theorem reports (before : String → Option Bool) (now : DateTime) (device : String) (on : Bool) :
    Rule.Reports now (OffKnown before) (OffKnown before) device on (Telling before on) where
  keeps := by
    intro prev v id t sw fresh other u _ apart _ told
    refine ⟨told.1, fun switch asked => (told.2 switch asked).imp_left fun last => ?_⟩
    refine lastAsked_append_off (fun cmd sent mine => ?_) last
    rw [Controller.sends, Option.mem_toList, Option.map_eq_some_iff] at sent
    obtain ⟨_, _, rfl⟩ := sent
    exact absurd mine.symm apart
  tells := by
    intro v id t uses known
    refine ⟨if_pos uses, fun switch asked => ?_⟩
    rw [← uses]
    exact known switch asked
  hears := by
    intro prev v id t told switch asked
    obtain ⟨reported, told⟩ := told
    obtain ⟨cfg, _, _⟩ := hearSwitch_frame true prev on now t
    rw [Thermo.act, cfg] at switch ⊢
    cases hearSwitch_told prev on now t with
    | echo _ _ commanded confirmed =>
      rw [commanded] at asked
      cases asked
      exact .inr ⟨reported, confirmed⟩
    | onItsWay was waiting commanded =>
      rw [commanded] at asked
      refine .inl ((told switch (was.trans asked)).resolve_right fun answered => ?_)
      rw [waiting] at answered
      cases answered.2
    | byHand _ _ commanded confirmed =>
      rw [commanded] at asked
      cases asked
      exact .inr ⟨reported, confirmed⟩
    | known same _ commanded confirmed =>
      rw [commanded] at asked
      rw [confirmed]
      refine (told switch asked).imp_right fun answered => ⟨?_, answered.2⟩
      change v.on t.act = some false
      rw [reported]
      cases on with
      | false => rfl
      | true => exact absurd answered.1 same

end OffKnown

/-! ## The log -/

/-- What sensors and switches say, and the passing of time. -/
inductive Report where
  | state (device : String) (payload : Json)
  | availability (device : String) (online : Bool)
  | tick

def Report.input : Report → Input
  | .state device payload => .state device payload
  | .availability device online => .availability device online
  | .tick => .tick

/-- The reading a value brings, where only values in range are readings. -/
def inRange (raw : Json) (now : DateTime) : Option Reading :=
  raw.asF64.bind fun v => if -40 ≤ v && v ≤ 60 then some ⟨some v, some now⟩ else none

/-- The reading a value brings, where a null says there is none. -/
def inRangeOrNull (raw : Json) (now : DateTime) : Option Reading :=
  if raw = .null then some ⟨none, some now⟩ else inRange raw now

/-- How old a reading is. Before the start a value that was kept over a restart is as old as was kept
with it. -/
def Controller.aged (c : Controller) (device : String) (r : Reading) : Reading :=
  if c.started then r
  else match r.value, c.restored[device]? with
    | some v, some (u, since) =>
      if |nearestDouble (u - v)| < nearestDouble (1 / 1000000) then { r with receivedAt := some since }
      else r
    | _, _ => r

/-- What each device last reported of each attribute, and whether it is online. -/
structure SensorLog where
  last : String → String → Option Reading
  online : String → Option Bool

namespace SensorLog

/-- What the controller has read so far. -/
def of (c : Controller) : SensorLog where
  last device _ := c.readings[device]?
  online device := (c.seenOf device).online

/-- A thermostat's own device is no sensor. -/
def hear (reads : Json → DateTime → Option Reading) (c : Controller) (log : SensorLog)
    (now : DateTime) : Report → SensorLog
  | .state device payload =>
    if (c.ownId device).isSome then log
    else { log with
      last := fun d attr =>
        if d = device then
          ((payload.get attr).bind fun raw => (reads raw now).map (c.aged device)).or (log.last d attr)
        else log.last d attr }
  | .availability device online =>
    if (c.ownId device).isSome then log
    else { log with online := fun d => if d = device then some online else log.online d }
  | .tick => log

/-- The readings of the sensors that are not offline, each of the attribute that is read and no
older than the timeout. -/
def current (log : SensorLog) (cfg : ThermostatEntry) (now : DateTime) : List Rat :=
  (cfg.sensorDeviceIds.filter (log.online · != some false)).filterMap fun s =>
    ((log.last s cfg.sensorAttribute).filter fun r => r.receivedAt.any fun since =>
      decide (numSeconds (now - since) ≤ cfg.sensorTimeoutSecs)).bind (·.value)

/-- Something was heard of one of the sensors. -/
def heard (log : SensorLog) (cfg : ThermostatEntry) : Bool :=
  cfg.sensorDeviceIds.any fun s =>
    ((log.last s cfg.sensorAttribute).any (·.receivedAt.isSome)) || log.online s == some false

end SensorLog

/-- The thermostat was evaluated by what the log says. -/
def EvaluatedBy (log : SensorLog) (now : DateTime) (t' : Thermo) : Prop :=
  ∃ (t : Thermo) (sw : Seen), t' = (t.evaluate sw (log.current t.cfg now) (log.heard t.cfg) now).1

namespace Controller
variable {c c' c'' : Controller} {formats : Formats} {now : DateTime} {log : SensorLog}
  {ids more : List String}

/-- The thermostats that share a sensor read the same attribute of it. -/
def SharesAlike (c : Controller) : Prop :=
  ∀ t ∈ c.values, ∀ u ∈ c.values, ∀ s ∈ t.cfg.sensorDeviceIds, s ∈ u.cfg.sensorDeviceIds →
    t.cfg.sensorAttribute = u.cfg.sensorAttribute

/-- What the controller has read is what the log says. -/
structure Reads (c : Controller) (log : SensorLog) : Prop where
  readings : ∀ (id : String) (t : Thermo), c.therms[id]? = some t → ∀ s ∈ t.cfg.sensorDeviceIds,
    c.readings[s]? = log.last s t.cfg.sensorAttribute
  online : ∀ device, (c.seenOf device).online = log.online device

namespace Reads

theorem fresh (reads : c.Reads log) {id : String} {t u : Thermo} (found : c.therms[id]? = some t)
    (same : u.cfg = t.cfg) (now : DateTime) : c.fresh u now = log.current u.cfg now := by
  simp only [Controller.fresh, SensorLog.current, reads.online, same, List.filter_filterMap,
    List.filterMap_filterMap]
  refine List.filterMap_congr fun s listed => ?_
  rw [reads.readings id t found s (List.mem_filter.mp listed).1]

theorem heardAny (reads : c.Reads log) {id : String} {t u : Thermo} (found : c.therms[id]? = some t)
    (same : u.cfg = t.cfg) : c.heardAny u = log.heard u.cfg := by
  rw [Controller.heardAny, SensorLog.heard, same, Bool.eq_iff_iff, List.any_eq_true, List.any_eq_true]
  refine exists_congr fun s => and_congr_right fun listed => ?_
  rw [reads.readings id t found s listed, reads.online]

end Reads

theorem cfg_of_cfgs {id : String} {t' : Thermo}
    (cfgs : ∀ id : String, (c'.therms[id]?).map Thermo.cfg = (c.therms[id]?).map Thermo.cfg)
    (found : c'.therms[id]? = some t') : ∃ t, c.therms[id]? = some t ∧ t'.cfg = t.cfg := by
  have kept := cfgs id
  rw [found, Option.map_some, eq_comm, Option.map_eq_some_iff] at kept
  obtain ⟨t, there, same⟩ := kept
  exact ⟨t, there, same.symm⟩

/-- The settings, what was read and who is online stay as they are. -/
structure ReadsOn (c c' : Controller) : Prop where
  started : c'.started = c.started
  candidates : c'.candidates = c.candidates
  cfgs : ∀ id : String, (c'.therms[id]?).map Thermo.cfg = (c.therms[id]?).map Thermo.cfg
  readings : c'.readings = c.readings
  restored : c'.restored = c.restored
  online : ∀ device, (c'.seenOf device).online = (c.seenOf device).online

namespace ReadsOn

theorem refl (c : Controller) : ReadsOn c c := ⟨rfl, rfl, fun _ => rfl, rfl, rfl, fun _ => rfl⟩

theorem trans (first : ReadsOn c c') (second : ReadsOn c' c'') : ReadsOn c c'' where
  started := second.started.trans first.started
  candidates := second.candidates.trans first.candidates
  cfgs id := (second.cfgs id).trans (first.cfgs id)
  readings := second.readings.trans first.readings
  restored := second.restored.trans first.restored
  online device := (second.online device).trans (first.online device)

theorem cfg {id : String} {t' : Thermo} (on : ReadsOn c c') (found : c'.therms[id]? = some t') :
    ∃ t, c.therms[id]? = some t ∧ t'.cfg = t.cfg := cfg_of_cfgs on.cfgs found

theorem reads (on : ReadsOn c c') (reads : c.Reads log) : c'.Reads log where
  readings id t' found s listed := by
    obtain ⟨t, there, same⟩ := on.cfg found
    rw [same] at listed ⊢
    rw [on.readings]
    exact reads.readings id t there s listed
  online device := (on.online device).trans (reads.online device)

/-- A device said something that concerns no sensor. -/
theorem see {device : String} {change : Seen → Seen}
    (sameOnline : ∀ s, (change s).online = s.online) : ReadsOn c (c.see device change) := by
  refine ⟨rfl, rfl, fun _ => rfl, rfl, rfl, fun other => ?_⟩
  by_cases same : other = device
  · rw [same, Rule.see_seenOf, sameOnline]
  · rw [Rule.see_seenOf_of_ne same]

theorem map {change : Thermo → Thermo} (keeps : ∀ t, (change t).cfg = t.cfg) :
    ReadsOn c { c with therms := c.therms.map fun _ => change } :=
  ⟨rfl, rfl, (SameUse.of_map keeps).cfgs, rfl, rfl, fun _ => rfl⟩

theorem modify {id : String} {change : Thermo → Thermo} (keeps : ∀ t, (change t).cfg = t.cfg) :
    ReadsOn c (c.modify id change) :=
  ⟨rfl, rfl, (SameUse.modify keeps).cfgs, rfl, rfl, fun _ => rfl⟩

theorem evaluate (id : String) (now : DateTime) : ReadsOn c (c.evaluate id now) := by
  have same := SameUse.evaluate (c := c) id now
  have frame : (c.evaluate id now).readings = c.readings ∧
      (c.evaluate id now).restored = c.restored ∧ (c.evaluate id now).seen = c.seen := by
    rw [Controller.evaluate]
    split
    · exact ⟨rfl, rfl, rfl⟩
    · split <;> exact ⟨rfl, rfl, rfl⟩
  refine ⟨evaluate_started id now, same.candidates, same.cfgs, frame.1, frame.2.1, fun device => ?_⟩
  rw [seenOf, seenOf, frame.2.2]

theorem foldl {α : Type} {change : Controller → α → Controller}
    (each : ∀ c a, ReadsOn c (change c a)) (items : List α) : ReadsOn c (items.foldl change c) := by
  induction items generalizing c with
  | nil => exact refl c
  | cons a rest ih => exact (each c a).trans ih

theorem onSwitchState (device : String) (on : Bool) : ReadsOn c (c.onSwitchState device on now) := by
  have seen : ReadsOn c (c.see device fun s => { s with on := some on }) := see fun _ => rfl
  refine seen.trans (foldl (fun c id => ?_) _)
  exact (modify fun t => (hearSwitch_frame c.started _ on now t).1).trans (evaluate id now)

end ReadsOn

/-- These thermostats were evaluated by what the log says, and the others left as they are. -/
structure Decides (log : SensorLog) (now : DateTime) (ids : List String) (c c' : Controller) :
    Prop extends ReadsOn c c' where
  evaluated : ∀ id ∈ ids, ∀ t', c'.therms[id]? = some t' → EvaluatedBy log now t'
  others : ∀ id ∉ ids, c'.therms[id]? = c.therms[id]?

namespace Decides

theorem refl (c : Controller) : Decides log now [] c c := ⟨.refl c, by rintro _ ⟨⟩, fun _ _ => rfl⟩

theorem trans (first : Decides log now ids c c') (second : Decides log now more c' c'') :
    Decides log now (ids ++ more) c c'' where
  toReadsOn := first.toReadsOn.trans second.toReadsOn
  evaluated id listed t' found := by
    by_cases later : id ∈ more
    · exact second.evaluated id later t' found
    · rw [second.others id later] at found
      exact first.evaluated id ((List.mem_append.mp listed).resolve_right later) t' found
  others id absent := by
    rw [List.mem_append, not_or] at absent
    exact (second.others id absent.2).trans (first.others id absent.1)

/-- A thermostat that may have been told something is evaluated. -/
theorem told (reads : c.Reads log) (started : c.started = true) (id : String) {change : Thermo → Thermo}
    (keeps : ∀ t, (change t).cfg = t.cfg) :
    Decides log now [id] c ((c.modify id change).evaluate id now) := by
  have same : ReadsOn c ((c.modify id change).evaluate id now) :=
    (ReadsOn.modify keeps).trans (.evaluate id now)
  have toldStarted : (c.modify id change).started = true := started
  refine ⟨same, ?_, fun other apart => ?_⟩
  · intro other mine t' found
    cases List.mem_singleton.mp mine
    cases there : c.therms[id]? with
    | none =>
      have absent := same.cfgs id
      rw [found, there] at absent
      cases absent
    | some t =>
      have changed : (c.modify id change).therms[id]? = some (change t) := by
        rw [Rule.modify_getElem?, if_pos rfl, there]
        rfl
      rw [(evaluate_of_found toldStarted changed now).1, Std.ExtTreeMap.getElem?_insert_self] at found
      cases found
      refine ⟨change t, c.seenOf (change t).act, ?_⟩
      rw [← reads.fresh there (keeps t), ← reads.heardAny there (keeps t)]
      rfl
  · have apart : other ≠ id := fun same => apart (List.mem_singleton.mpr same)
    have before : (c.modify id change).therms[other]? = c.therms[other]? := by
      rw [Rule.modify_getElem?, if_neg (Ne.symm apart)]
    rw [evaluate]
    split
    · exact before
    split
    · exact before
    · exact (Rule.getElem?_insert_of_ne apart).trans before

theorem foldl {change : Controller → String → Controller}
    (each : ∀ c id, c.Reads log → c.started = true → Decides log now [id] c (change c id))
    (reads : c.Reads log) (started : c.started = true) :
    Decides log now ids c (ids.foldl change c) := by
  induction ids generalizing c with
  | nil => exact refl c
  | cons id rest ih =>
    have first := each c id reads started
    exact first.trans (ih (first.toReadsOn.reads reads) (first.started.trans started))

theorem evaluateAll (reads : c.Reads log) (started : c.started = true) (ids : List String) :
    Decides log now ids c (c.evaluateAll ids now) := by
  rw [Controller.evaluateAll]
  refine foldl (fun c id reads started => ?_) reads started
  have untold : c.modify id (fun t => t) = c := by
    have same : c.therms.modify id (fun t => t) = c.therms := by
      ext other t
      rw [Std.ExtTreeMap.getElem?_modify]
      split
      · next equal =>
        cases Std.LawfulEqCmp.eq_of_compare equal
        rw [Option.map_id']
      · rfl
    rw [modify, same]
  have told : Decides log now [id] c ((c.modify id fun t => t).evaluate id now) :=
    told reads started id fun _ => rfl
  rwa [untold] at told

end Decides

/-- Those whose settings meet the condition, found by the ids of their entries. -/
theorem mem_ids (keyed : c.All Rule.Keyed) {id : String} {t : Thermo} (found : c.therms[id]? = some t)
    (p : Thermo → Bool) : id ∈ (c.values.filter p).map (·.cfg.id) ↔ p t = true := by
  constructor
  · intro listed
    obtain ⟨u, member, same⟩ := List.mem_map.mp listed
    obtain ⟨member, holds⟩ := List.mem_filter.mp member
    obtain ⟨other, there⟩ := mem_values.mp member
    have sameKey : other = id := (keyed other u there).symm.trans same
    subst sameKey
    cases there.symm.trans found
    exact holds
  · intro holds
    refine List.mem_map.mpr ⟨t, List.mem_filter.mpr ⟨mem_values.mpr ⟨id, found⟩, holds⟩, ?_⟩
    exact keyed id t found

/-! ## What a report brings -/

/-- The thermostats that are evaluated when this is reported. -/
def judges (reads : Json → DateTime → Option Reading) (c : Controller) (now : DateTime)
    (report : Report) (t : Thermo) : Bool :=
  match report with
  | .state device payload => (c.ownId device).isNone &&
      (usesDevice device t && (c.sensorAttributes device).any (fun attr =>
          ((payload.get attr).bind (reads · now)).isSome) ||
        t.act == device && (interpretActuatorOn payload).isSome)
  | .availability device _ => (c.ownId device).isNone && usesDevice device t
  | .tick => true

/-- The reading a state message brings of a device. -/
def brings (formats : Formats) (c : Controller) (device : String) (payload : Json) (now : DateTime) :
    Option Reading :=
  ((formats.hashOrder now (c.sensorAttributes device)).findSome? payload.get).bind
    fun raw => (inRangeOrNull raw now).map (c.aged device)

theorem takenReading_eq (device : String) (raw : Json) :
    c.takenReading device raw now = (inRangeOrNull raw now).map (c.aged device) := by
  rw [takenReading, inRangeOrNull, inRange]
  cases number : raw.asF64 with
  | none =>
    rw [Option.bind_none]
    dsimp only
    split
    · rw [Option.map_some, aged]
      split <;> rfl
    · rfl
  | some v =>
    have noNull : raw ≠ .null := by
      rintro rfl
      cases number
    rw [if_neg noNull, Option.bind_some]
    dsimp only
    split
    · rw [Option.map_some, aged]
      cases c.started with
      | true => rfl
      | false =>
        cases c.restored[device]? with
        | none => rfl
        | some kept =>
          obtain ⟨u, since⟩ := kept
          by_cases near : |nearestDouble (u - v)| < nearestDouble (1 / 1000000)
          · simp only [near, Option.filter]
            rfl
          · simp only [near, Option.filter]
            rfl
    · rfl

/-- The controller with the reading a state message brings. -/
def taking (formats : Formats) (c : Controller) (device : String) (payload : Json) (now : DateTime) :
    Controller :=
  match c.brings formats device payload now with
  | none => c
  | some r => { c with readings := c.readings.insert device r }

theorem onSensorState_eq (device : String) (payload : Json) :
    c.onSensorState formats device payload now =
      if (c.brings formats device payload now).isSome then
        (c.taking formats device payload now).evaluateUsing device now
      else c.taking formats device payload now := by
  rw [onSensorState, taking, brings]
  cases (formats.hashOrder now (c.sensorAttributes device)).findSome? payload.get with
  | none => rfl
  | some raw =>
    rw [Option.bind_some, ← takenReading_eq]
    dsimp only
    cases c.takenReading device raw now <;> rfl

theorem mem_sensorAttributes {device attr : String} :
    attr ∈ c.sensorAttributes device ↔
      ∃ (id : String) (t : Thermo), c.therms[id]? = some t ∧ device ∈ t.cfg.sensorDeviceIds ∧
        t.cfg.sensorAttribute = attr := by
  rw [sensorAttributes, List.mem_map]
  constructor
  · rintro ⟨t, member, same⟩
    obtain ⟨member, sensor⟩ := List.mem_filter.mp member
    obtain ⟨id, found⟩ := mem_values.mp member
    exact ⟨id, t, found, List.contains_iff_mem.mp sensor, same⟩
  · rintro ⟨id, t, found, sensor, same⟩
    refine ⟨t, List.mem_filter.mpr ⟨mem_values.mpr ⟨id, found⟩, ?_⟩, same⟩
    exact List.contains_iff_mem.mpr sensor

/-- Where they share alike, the attribute that is read is the one each of them reads. -/
theorem brings_eq (alike : c.SharesAlike) {id : String} {t : Thermo} (found : c.therms[id]? = some t)
    {device : String} (sensor : device ∈ t.cfg.sensorDeviceIds) (payload : Json) :
    c.brings formats device payload now = (payload.get t.cfg.sensorAttribute).bind
      fun raw => (inRangeOrNull raw now).map (c.aged device) := by
  have mine : t.cfg.sensorAttribute ∈ formats.hashOrder now (c.sensorAttributes device) :=
    formats.mem_hashOrder.mpr (mem_sensorAttributes.mpr ⟨id, t, found, sensor, rfl⟩)
  have all : ∀ attr ∈ formats.hashOrder now (c.sensorAttributes device), attr = t.cfg.sensorAttribute := by
    intro attr listed
    obtain ⟨other, u, there, shared, same⟩ := mem_sensorAttributes.mp (formats.mem_hashOrder.mp listed)
    rw [← same]
    exact alike u (mem_values.mpr ⟨other, there⟩) t (mem_values.mpr ⟨id, found⟩) device shared sensor
  rw [brings]
  congr 1
  generalize formats.hashOrder now (c.sensorAttributes device) = attrs at mine all
  cases attrs with
  | nil => cases mine
  | cons first rest =>
    have same := all first List.mem_cons_self
    subst same
    rw [List.findSome?_cons]
    cases read : payload.get t.cfg.sensorAttribute with
    | some raw => rfl
    | none =>
      refine List.findSome?_eq_none_iff.mpr fun attr listed => ?_
      rw [all attr (List.mem_cons_of_mem _ listed), read]

/-- Whether any attribute that is read brings a reading. -/
theorem brings_isSome (formats : Formats) (now : DateTime) (alike : c.SharesAlike) (device : String)
    (payload : Json) :
    (c.brings formats device payload now).isSome = (c.sensorAttributes device).any fun attr =>
      ((payload.get attr).bind (inRangeOrNull · now)).isSome := by
  cases read : c.sensorAttributes device with
  | nil =>
    have nothing : formats.hashOrder now [] = [] :=
      List.eq_nil_iff_forall_not_mem.mpr fun attr listed =>
        absurd (formats.mem_hashOrder.mp listed) List.not_mem_nil
    rw [brings, read, nothing]
    rfl
  | cons first rest =>
    rw [← read]
    have is (attr : String) (listed : attr ∈ c.sensorAttributes device) :
        (c.brings formats device payload now).isSome =
          ((payload.get attr).bind (inRangeOrNull · now)).isSome := by
      obtain ⟨id, t, found, sensor, rfl⟩ := mem_sensorAttributes.mp listed
      rw [brings_eq alike found sensor payload, Option.isSome_bind, Option.isSome_bind]
      exact congrArg (Option.any · _) (funext fun raw => Option.isSome_map)
    rw [Bool.eq_iff_iff, List.any_eq_true]
    constructor
    · intro brought
      refine ⟨first, read ▸ List.mem_cons_self, ?_⟩
      rwa [← is first (read ▸ List.mem_cons_self)]
    · rintro ⟨attr, listed, brought⟩
      rwa [is attr listed]

/-- What is read is in the log. -/
theorem taking_reads (reads : c.Reads log) (alike : c.SharesAlike) {device : String}
    (other : c.ownId device = none) (payload : Json) :
    (c.taking formats device payload now).Reads
      (log.hear inRangeOrNull c now (.state device payload)) := by
  rw [SensorLog.hear, other, Option.isSome_none, if_neg Bool.false_ne_true, taking]
  have last (id : String) (t : Thermo) (found : c.therms[id]? = some t) (s : String)
      (listed : s ∈ t.cfg.sensorDeviceIds) :
      (if s = device then ((payload.get t.cfg.sensorAttribute).bind fun raw =>
          (inRangeOrNull raw now).map (c.aged device)).or (log.last s t.cfg.sensorAttribute)
        else log.last s t.cfg.sensorAttribute) =
        if s = device then (c.brings formats device payload now).or c.readings[s]?
        else c.readings[s]? := by
    rw [reads.readings id t found s listed]
    refine ite_congr rfl (fun same => ?_) fun _ => rfl
    rw [brings_eq alike found (same ▸ listed) payload]
  cases brought : c.brings formats device payload now with
  | none =>
    refine ⟨fun id t found s listed => ?_, reads.online⟩
    refine Eq.trans ?_ (last id t found s listed).symm
    rw [brought, Option.none_or, ite_self]
  | some r =>
    refine ⟨fun id t found s listed => ?_, reads.online⟩
    refine Eq.trans ?_ (last id t found s listed).symm
    rw [brought, Option.some_or]
    change (c.readings.insert device r)[s]? = _
    split
    · next same => rw [same, Std.ExtTreeMap.getElem?_insert_self]
    · next apart => exact Rule.getElem?_insert_of_ne apart

theorem taking_frame (formats : Formats) (c : Controller) (now : DateTime) (device : String)
    (payload : Json) :
    (c.taking formats device payload now).therms = c.therms ∧
      (c.taking formats device payload now).started = c.started ∧
      (c.taking formats device payload now).candidates = c.candidates := by
  rw [taking]
  split <;> exact ⟨rfl, rfl, rfl⟩

/-- What is heard is in the log. -/
structure Follows (log : SensorLog) (c c' : Controller) : Prop where
  started : c'.started = c.started
  candidates : c'.candidates = c.candidates
  cfgs : ∀ id : String, (c'.therms[id]?).map Thermo.cfg = (c.therms[id]?).map Thermo.cfg
  reads : c'.Reads log

theorem Reads.follows (reads : c.Reads log) : Follows log c c := ⟨rfl, rfl, fun _ => rfl, reads⟩

theorem ReadsOn.follows (on : ReadsOn c' c'') (follows : Follows log c c') : Follows log c c'' where
  started := on.started.trans follows.started
  candidates := on.candidates.trans follows.candidates
  cfgs id := (on.cfgs id).trans (follows.cfgs id)
  reads := on.reads follows.reads

theorem keyed_of_cfgs (keyed : c.All Rule.Keyed)
    (cfgs : ∀ id : String, (c'.therms[id]?).map Thermo.cfg = (c.therms[id]?).map Thermo.cfg) :
    c'.All Rule.Keyed := by
  intro id t' found
  obtain ⟨t, there, same⟩ := cfg_of_cfgs cfgs found
  rw [Rule.Keyed, same]
  exact keyed id t there

theorem alike_of_cfgs (alike : c.SharesAlike)
    (cfgs : ∀ id : String, (c'.therms[id]?).map Thermo.cfg = (c.therms[id]?).map Thermo.cfg) :
    c'.SharesAlike := by
  have settings {t' : Thermo} (member : t' ∈ c'.values) : ∃ t ∈ c.values, t'.cfg = t.cfg := by
    obtain ⟨id, found⟩ := mem_values.mp member
    obtain ⟨t, there, same⟩ := cfg_of_cfgs cfgs found
    exact ⟨t, mem_values.mpr ⟨id, there⟩, same⟩
  intro t' member u' other s sensor shared
  obtain ⟨t, there, same⟩ := settings member
  obtain ⟨u, also, sameOther⟩ := settings other
  rw [same] at sensor ⊢
  rw [sameOther] at shared ⊢
  exact alike t there u also s sensor shared

/-- Once it is started, the thermostats a report concerns are evaluated by the log, and the others
left as they are. -/
structure Heeds (log : SensorLog) (now : DateTime) (judged : Thermo → Bool) (c c' : Controller) :
    Prop extends Follows log c c' where
  evaluated : c.started = true → ∀ (id : String) t', c'.therms[id]? = some t' → judged t' = true →
    EvaluatedBy log now t'
  others : c.started = true → ∀ (id : String) t', c'.therms[id]? = some t' → judged t' = false →
    c.therms[id]? = some t'

theorem Follows.unheeded {judged : Thermo → Bool} (follows : Follows log c c')
    (unstarted : c.started = false) : Heeds log now judged c c' := by
  have never : ¬ c.started = true := by rw [unstarted]; exact Bool.false_ne_true
  exact ⟨follows, fun started => absurd started never, fun started => absurd started never⟩

theorem Decides.heeds {judged : Thermo → Bool} (decides : Decides log now ids c' c'')
    (follows : Follows log c c')
    (concerns : ∀ (id : String) t, c'.therms[id]? = some t → (id ∈ ids ↔ judged t = true))
    (sameJudged : ∀ t u : Thermo, t.cfg = u.cfg → judged t = judged u)
    (before : ∀ (id : String) t, c'.therms[id]? = some t → judged t = false → c.therms[id]? = some t) :
    Heeds log now judged c c'' where
  toFollows := decides.toReadsOn.follows follows
  evaluated _ id t' found isJudged := by
    obtain ⟨t, there, same⟩ := decides.cfg found
    rw [sameJudged t' t same] at isJudged
    exact decides.evaluated id ((concerns id t there).mpr isJudged) t' found
  others _ id t' found unjudged := by
    obtain ⟨t, there, same⟩ := decides.cfg found
    have apart : id ∉ ids := by
      rw [concerns id t there, ← sameJudged t' t same, unjudged]
      exact Bool.false_ne_true
    rw [decides.others id apart] at found
    exact before id t' found unjudged

theorem usesDevice_congr {t u : Thermo} (same : t.cfg = u.cfg) (device : String) :
    usesDevice device t = usesDevice device u := by
  rw [usesDevice, usesDevice, Thermo.act, Thermo.act, same]

theorem judges_congr {t u : Thermo} (same : t.cfg = u.cfg)
    (reads : Json → DateTime → Option Reading) (report : Report) :
    judges reads c now report t = judges reads c now report u := by
  cases report with
  | state device payload =>
    rw [judges, judges, usesDevice_congr same, Thermo.act, Thermo.act, same]
  | availability device online => rw [judges, judges, usesDevice_congr same]
  | tick => rfl

theorem tick_of_calm (calm : c.candidates = ∅) : c.tick now = c.evaluateAll c.therms.keys now := by
  have none : c.candidates.toList = [] := by rw [calm]; rfl
  simp only [tick, none, List.filter_nil, List.map_nil, List.foldl_nil]

theorem tick_heeds (reads : c.Reads log) (calm : c.candidates = ∅)
    (judge : Json → DateTime → Option Reading) :
    Heeds (log.hear judge c now .tick) now (judges judge c now .tick) c (c.tick now) := by
  rw [tick_of_calm calm]
  cases started : c.started with
  | false =>
    rw [evaluateAll_of_unstarted started]
    exact reads.follows.unheeded started
  | true =>
    refine (Decides.evaluateAll reads started c.therms.keys).heeds reads.follows ?_
      (fun t u same => judges_congr same judge .tick) fun _ _ found _ => found
    intro id t found
    refine ⟨fun _ => rfl, fun _ => ?_⟩
    rw [Std.ExtTreeMap.mem_keys, Std.ExtTreeMap.mem_iff_isSome_getElem?, found]
    rfl

/-- A device said whether it is online. -/
theorem see_follows (reads : c.Reads log) (device : String) (online : Bool) :
    Follows { log with online := fun d => if d = device then some online else log.online d } c
      (c.see device fun s => { s with online := some online }) := by
  refine ⟨rfl, rfl, fun _ => rfl, fun id t found => reads.readings id t found, fun other => ?_⟩
  by_cases same : other = device
  · rw [same, Rule.see_seenOf]
    exact (if_pos rfl).symm
  · rw [Rule.see_seenOf_of_ne same, reads.online]
    exact (if_neg same).symm

/-- Those that use the device are evaluated. -/
theorem Follows.evaluateUsing (follows : Follows log c c') (keyed : c.All Rule.Keyed) {device : String}
    (before : ∀ (id : String) t, c'.therms[id]? = some t → usesDevice device t = false →
      c.therms[id]? = some t) :
    Heeds log now (usesDevice device) c (c'.evaluateUsing device now) := by
  rw [Controller.evaluateUsing]
  cases started : c.started with
  | false =>
    rw [evaluateAll_of_unstarted (follows.started.trans started)]
    exact follows.unheeded started
  | true =>
    refine (Decides.evaluateAll follows.reads (follows.started.trans started) _).heeds follows ?_
      (fun t u same => usesDevice_congr same device) before
    exact fun id t found => mem_ids (keyed_of_cfgs keyed follows.cfgs) found (usesDevice device)

theorem onAvailability_heeds (reads : c.Reads log) (keyed : c.All Rule.Keyed)
    (judge : Json → DateTime → Option Reading) (device : String) (online : Bool) :
    Heeds (log.hear judge c now (.availability device online)) now
      (judges judge c now (.availability device online)) c (c.onAvailability device online now) := by
  rw [onAvailability, SensorLog.hear]
  cases own : c.ownId device with
  | some id =>
    refine ⟨reads.follows, fun _ id t found judged => ?_, fun _ _ _ found _ => found⟩
    rw [judges, own] at judged
    cases judged
  | none =>
  have judged_eq : judges judge c now (.availability device online) = usesDevice device := by
    funext t
    rw [judges, own]
    rfl
  rw [judged_eq, Option.isSome_none, if_neg Bool.false_ne_true, if_neg Bool.false_ne_true]
  have seen := see_follows reads device online
  dsimp only
  split
  · have keeps (t : Thermo) : (askAgain device now t).cfg = t.cfg := Rule.askAgain_cfg device t
    refine ((ReadsOn.map keeps).follows seen).evaluateUsing keyed fun id t found unused => ?_
    rw [Std.ExtTreeMap.getElem?_map, Option.map_eq_some_iff] at found
    obtain ⟨u, found, rfl⟩ := found
    rw [usesDevice_congr (keeps u)] at unused
    rw [Rule.askAgain_of_unused unused]
    exact found
  · exact seen.evaluateUsing keyed fun _ _ found _ => found

/-- A reading is taken, and those that read it are evaluated. -/
theorem onSensorState_decides (taken : (c.taking formats device payload now).Reads log)
    (started : c.started = true) (keyed : c.All Rule.Keyed) (alike : c.SharesAlike) :
    ∃ ids, (∀ (id : String) t, c.therms[id]? = some t → (id ∈ ids ↔ (usesDevice device t &&
        (c.sensorAttributes device).any fun attr =>
          ((payload.get attr).bind (inRangeOrNull · now)).isSome) = true)) ∧
      Decides log now ids (c.taking formats device payload now)
        (c.onSensorState formats device payload now) := by
  obtain ⟨therms, begun, _⟩ := taking_frame formats c now device payload
  rw [onSensorState_eq, ← brings_isSome formats now alike device payload]
  cases (c.brings formats device payload now).isSome with
  | false => exact ⟨[], fun id t _ => by simp, .refl _⟩
  | true =>
    refine ⟨_, fun id t found => ?_, Decides.evaluateAll taken (begun.trans started) _⟩
    rw [Bool.and_true]
    have takenKeyed : (c.taking formats device payload now).All Rule.Keyed := by
      intro id t found
      exact keyed id t (therms ▸ found)
    exact mem_ids takenKeyed (therms ▸ found) (usesDevice device)

theorem onSwitchState_decides (now : DateTime) (reads : c.Reads log) (started : c.started = true)
    (keyed : c.All Rule.Keyed) (device : String) (on : Bool) :
    ∃ ids, (∀ (id : String) t, c.therms[id]? = some t → (id ∈ ids ↔ (t.act == device) = true)) ∧
      Decides log now ids c (c.onSwitchState device on now) := by
  have seen : Decides log now [] c (c.see device fun s => { s with on := some on }) :=
    ⟨.see fun _ => rfl, by rintro _ ⟨⟩, fun _ _ => rfl⟩
  have tells : Decides log now ((c.values.filter (·.act == device)).map (·.cfg.id))
      (c.see device fun s => { s with on := some on }) (c.onSwitchState device on now) := by
    refine Decides.foldl (fun c' id reads started => ?_) (seen.toReadsOn.reads reads) started
    exact .told reads started id fun t => (hearSwitch_frame c'.started _ on now t).1
  exact ⟨_, fun id t found => mem_ids keyed found (·.act == device), seen.trans tells⟩

/-- Where no choice waits, what another device says is taken as it comes. -/
theorem onState_of_calm {device : String} (other : c.ownId device = none) (calm : c.candidates = ∅)
    (payload : Json) : c.onState formats device payload now =
      match interpretActuatorOn payload with
      | none => (c.see device (showing payload)).onSensorState formats device payload now
      | some on => ((c.see device (showing payload)).onSensorState formats device payload
          now).onSwitchState device on now := by
  have unawaited : device ∉ (c.see device (showing payload)).candidates := by
    change device ∉ c.candidates
    rw [calm]
    exact Std.ExtTreeMap.not_mem_empty
  have settled : (if device ∈ (c.see device (showing payload)).candidates then
      (c.see device (showing payload)).settleCandidate device now
      else c.see device (showing payload)) = c.see device (showing payload) := if_neg unawaited
  rw [← settled, onState, other]
  rfl

/-- Before the start what another device says is only taken note of. -/
theorem otherState_follows {device : String} {payload : Json}
    (taken : Follows log c (c.taking formats device payload now)) (unstarted : c.started = false) :
    Follows log c (match interpretActuatorOn payload with
      | none => c.onSensorState formats device payload now
      | some on => (c.onSensorState formats device payload now).onSwitchState device on now) := by
  have read : Follows log c (c.onSensorState formats device payload now) := by
    rw [onSensorState_eq, evaluateUsing, evaluateAll_of_unstarted (taken.started.trans unstarted), ite_self]
    exact taken
  split
  · exact read
  · next on _ => exact (ReadsOn.onSwitchState device on).follows read

/-- Once started, it is taken as a reading, and as the state of a switch. -/
theorem otherState_decides {device : String} {payload : Json}
    (taken : Follows log c (c.taking formats device payload now)) (started : c.started = true)
    (keyed : c.All Rule.Keyed) (alike : c.SharesAlike) (other : c.ownId device = none) :
    ∃ ids, (∀ (id : String) t, c.therms[id]? = some t →
        (id ∈ ids ↔ judges inRangeOrNull c now (.state device payload) t = true)) ∧
      Decides log now ids (c.taking formats device payload now) (match interpretActuatorOn payload with
        | none => c.onSensorState formats device payload now
        | some on => (c.onSensorState formats device payload now).onSwitchState device on now) := by
  obtain ⟨ids, concerned, decides⟩ : ∃ ids, _ := onSensorState_decides taken.reads started keyed alike
  have judged_eq (t : Thermo) : judges inRangeOrNull c now (.state device payload) t =
      (usesDevice device t && (c.sensorAttributes device).any (fun attr =>
          ((payload.get attr).bind (inRangeOrNull · now)).isSome) ||
        t.act == device && (interpretActuatorOn payload).isSome) := by
    rw [judges, other]
    rfl
  cases said : interpretActuatorOn payload with
  | none =>
    refine ⟨ids, fun id t found => ?_, decides⟩
    rw [concerned id t found, judged_eq, said, Option.isSome_none, Bool.and_false, Bool.or_false]
  | some on =>
    have read := decides.toReadsOn.follows taken
    obtain ⟨more, told, tells⟩ := onSwitchState_decides now read.reads
      (read.started.trans started) (keyed_of_cfgs keyed read.cfgs) device on
    refine ⟨ids ++ more, fun id t found => ?_, decides.trans tells⟩
    have kept := read.cfgs id
    rw [found, Option.map_some, Option.map_eq_some_iff] at kept
    obtain ⟨t', there, same⟩ := kept
    have sameSwitch : t'.act = t.act := congrArg (·.actuatorDeviceId) same
    rw [List.mem_append, concerned id t found, told id t' there, sameSwitch, judged_eq,
      said, Option.isSome_some, Bool.and_true, Bool.or_eq_true]

/-- Before the start a thermostat restores what it kept of itself. -/
theorem onState_heeds (reads : c.Reads log) (keyed : c.All Rule.Keyed) (alike : c.SharesAlike)
    (calm : c.candidates = ∅) (device : String) (payload : Json)
    (restores : c.started = true ∨ c.ownId device = none) :
    Heeds (log.hear inRangeOrNull c now (.state device payload)) now
      (judges inRangeOrNull c now (.state device payload)) c
      (c.onState formats device payload now) := by
  cases own : c.ownId device with
  | some id =>
    have started : c.started = true := restores.resolve_right (by rw [own]; rintro ⟨⟩)
    rw [onState, own, SensorLog.hear, own, Option.isSome_some, if_pos rfl]
    dsimp only
    rw [if_pos started]
    refine ⟨reads.follows, fun _ id t found judged => ?_, fun _ _ _ found _ => found⟩
    rw [judges, own] at judged
    cases judged
  | none =>
    have shown : ReadsOn c (c.see device (showing payload)) := .see fun _ => rfl
    have took : (Controller.taking formats (c.see device (showing payload)) device payload now).Reads
        (log.hear inRangeOrNull c now (.state device payload)) :=
      taking_reads (c := c.see device (showing payload)) (shown.reads reads) alike own payload
    have frame := taking_frame formats (c.see device (showing payload)) now device payload
    have taken : Follows (log.hear inRangeOrNull c now (.state device payload))
        (c.see device (showing payload))
        (Controller.taking formats (c.see device (showing payload)) device payload now) :=
      ⟨frame.2.1, frame.2.2, fun id => by rw [frame.1], took⟩
    rw [onState_of_calm own calm]
    cases started : c.started with
    | false =>
      have read := otherState_follows taken started
      exact Follows.unheeded ⟨read.started, read.candidates, read.cfgs, read.reads⟩ started
    | true =>
      obtain ⟨ids, concerned, decides⟩ : ∃ ids, _ := otherState_decides taken started
        (fun id t found => keyed id t found) alike own
      have concerned : ∀ (id : String) t, c.therms[id]? = some t →
        (id ∈ ids ↔ judges inRangeOrNull c now (.state device payload) t = true) := concerned
      refine decides.heeds (c := c) ⟨taken.started, taken.candidates, taken.cfgs, took⟩ ?_
        (fun t u same => judges_congr same inRangeOrNull _) fun id t found _ => frame.1 ▸ found
      exact fun id t found => concerned id t (frame.1 ▸ found)

theorem foldl_candidates {α : Type} {change : Controller → α → Controller}
    (each : ∀ c a, (change c a).candidates = c.candidates) (items : List α) :
    (items.foldl change c).candidates = c.candidates := by
  induction items generalizing c with
  | nil => rfl
  | cons a rest ih => rw [List.foldl_cons, ih, each]

theorem applyLearned_candidates (doc : Json) :
    (applyLearned formats c doc now).candidates = c.candidates := by
  have restores (c : Controller) (entry : String × Json) :
      (if entry.1 ∉ c.ownRestored && entry.1 ∈ c.therms then
        Controller.restoreOwn formats c entry.1 entry.2 now else c).candidates = c.candidates := by
    split
    · exact (SameUse.restoreOwn entry.1 entry.2).candidates
    · rfl
  rw [applyLearned]
  split
  · rfl
  dsimp only
  split
  · exact foldl_candidates restores _
  · refine (foldl_candidates ?_ _).trans (foldl_candidates restores _)
    intro c entry
    split <;> rfl

/-- What is heard before the start chooses no switch. -/
theorem hear_candidates (calm : c.candidates = ∅) (unstarted : c.started = false) (heard : Heard) :
    (c.hear formats heard now).candidates = ∅ := by
  cases heard with
  | state device payload =>
    change (c.onState formats device payload now).candidates = ∅
    cases own : c.ownId device with
    | some id =>
      rw [onState, own]
      dsimp only
      rw [if_neg (by rw [unstarted]; exact Bool.false_ne_true)]
      exact (SameUse.restoreOwn id payload).candidates.trans calm
    | none =>
      have read : SameUse (c.see device (showing payload))
          ((c.see device (showing payload)).onSensorState formats device payload now) :=
        .onSensorState device payload
      rw [onState_of_calm own calm]
      split
      · exact read.candidates.trans calm
      · exact (read.trans (.onSwitchState device _)).candidates.trans calm
  | availability device online => exact (SameUse.onAvailability device online).candidates.trans calm
  | learned doc => exact (applyLearned_candidates doc).trans calm

/-- No choice waits when the controller is started. -/
theorem boot_candidates (formats : Formats) (entries : List ThermostatEntry)
    (heard : List (Heard × DateTime)) : (boot formats entries heard).candidates = ∅ := by
  induction heard using List.reverseRecOn with
  | nil => rfl
  | append_singleton earlier last ih =>
    have unstarted := (boot_listening formats entries earlier).unstarted
    rw [boot, List.foldl_append]
    exact hear_candidates ih unstarted last.1

theorem report_heeds (reads : c.Reads log) (keyed : c.All Rule.Keyed) (alike : c.SharesAlike)
    (calm : c.candidates = ∅) (formats : Formats) (now : DateTime) (report : Report)
    (restores : c.started = true ∨ ∀ device payload, report = .state device payload →
      c.ownId device = none) :
    Heeds (log.hear inRangeOrNull c now report) now (judges inRangeOrNull c now report) c
      (c.handle formats report.input now) := by
  cases report with
  | state device payload =>
    exact onState_heeds reads keyed alike calm device payload (restores.imp_right fun none => none _ _ rfl)
  | availability device online => exact onAvailability_heeds reads keyed inRangeOrNull device online
  | tick => exact tick_heeds reads calm inRangeOrNull

theorem report_listening (listening : c.Listening Unasked) (calm : c.candidates = ∅)
    (formats : Formats) (now : DateTime) (report : Report) :
    (c.handle formats report.input now).Listening Unasked := by
  cases report with
  | state device payload => exact listening.onState unasked_lasting device payload
  | availability device online => exact listening.onAvailability unasked_lasting device online
  | tick =>
    change (c.tick now).Listening Unasked
    rw [tick_of_calm calm, listening.evaluateAll]
    exact listening

theorem report_offKnown {before : String → Option Bool} (started : c.started = true)
    (keyed : c.All Rule.Keyed) (known : c.All (OffKnown before)) (calm : c.candidates = ∅)
    (formats : Formats) (now : DateTime) (report : Report) :
    (c.handle formats report.input now).All (OffKnown before) := by
  cases report with
  | state device payload =>
    refine (OffKnown.rule before now).onState_all started keyed known formats device payload ?_
      fun on _ => ⟨_, OffKnown.reports before now device on⟩
    intro candidate t more awaited
    rw [calm] at awaited
    cases awaited
  | availability device online =>
    exact (OffKnown.rule before now).onAvailability_all started keyed known device online
  | tick => exact (OffKnown.rule before now).tick_all started known

/-- Before the start nothing was asked of any switch. -/
theorem Listening.offKnown (listening : c.Listening Unasked) (before : String → Option Bool) :
    c.All (OffKnown before) := by
  intro id t found _ asked
  rw [(listening.holds id t found).commanded] at asked
  cases asked

theorem start_offKnown {before : String → Option Bool} (known : c.All (OffKnown before))
    (now : DateTime) : (c.start now).All (OffKnown before) :=
  start_all (OffKnown.rule before now) fun id t found => (known id t found).congr rfl rfl rfl

/-- At the start every thermostat is evaluated. -/
theorem start_evaluates (reads : c.Reads log) (now : DateTime) :
    (c.start now).Reads log ∧
      ∀ (id : String) t', (c.start now).therms[id]? = some t' → EvaluatedBy log now t' := by
  have readied : (c.readied now).Reads log := by
    refine ⟨fun id t found s listed => ?_, reads.online⟩
    obtain ⟨before, there, rfl⟩ := Option.map_eq_some_iff.mp (Std.ExtTreeMap.getElem?_map.symm.trans found)
    exact reads.readings id before there s listed
  let c₁ : Controller := { c.readied now with fx := c.fx ++
    ((c.values.flatMap fun t => [.register t.cfg, .unsubscribeOwn t.cfg.deviceId]) ++
      [.reconcile c.ownIds]) }
  have pushed : c₁.Reads log := ⟨readied.readings, readied.online⟩
  have decides : Decides log now c.therms.keys c₁ (c.start now) :=
    Decides.evaluateAll pushed rfl c.therms.keys
  refine ⟨decides.toReadsOn.reads pushed, fun id t' found => ?_⟩
  refine decides.evaluated id ?_ t' found
  have kept := (SameUse.start (c := c) now).cfgs id
  rw [found, Option.map_some, eq_comm, Option.map_eq_some_iff] at kept
  obtain ⟨t, there, _⟩ := kept
  rw [Std.ExtTreeMap.mem_keys, Std.ExtTreeMap.mem_iff_isSome_getElem?, there]
  rfl

end Controller

/-- What may happen: something is reported, or the controller is started. -/
inductive Notice where
  | report (report : Report)
  | start

def Notice.operation : Notice → Operation
  | .report said => .input said.input
  | .start => .start

/-- The controller of a run, with what its sensors said and what each thermostat asked for last. -/
structure ReadingWatch where
  ctl : Controller
  log : SensorLog := .of ctl
  asked : String → Option Bool := fun _ => none

namespace ReadingWatch

variable (reads : Json → DateTime → Option Reading)

/-- The log with what is noticed. -/
def hears (w : ReadingWatch) (now : DateTime) : Notice → SensorLog
  | .report report => w.log.hear reads w.ctl now report
  | .start => w.log

def step (formats : Formats) (w : ReadingWatch) (notice : Notice × DateTime) : ReadingWatch :=
  let c := w.ctl.operate formats notice.1.operation notice.2
  { ctl := c.takeEffects.1
    log := w.hears reads notice.2 notice.1
    asked := lastAsked w.asked c.commands }

/-- The thermostats that are evaluated when this is noticed. -/
def judged (w : ReadingWatch) (now : DateTime) : Notice → Thermo → Bool
  | .report report => Controller.judges reads w.ctl now report
  | .start => fun _ => true

/-- What a thermostat goes by, once evaluated: the temperature is that of its current readings; and
unless it is exempt, its switch is off or was asked to be where there is none and `on_stale` is off. -/
structure GoesBy (exempt : Thermo → Bool) (w : ReadingWatch) (now : DateTime) (id : String)
    (t : Thermo) : Prop where
  temperature : t.temperature = aggregate (w.log.current t.cfg now) t.cfg.aggregation
  off : exempt t = false → w.log.current t.cfg now = [] →
    (t.graceUntil.isSome && !w.log.heard t.cfg) = false → t.cfg.offWhenStale = true →
      (w.ctl.seenOf t.act).on = some false ∨ w.asked id = some false

/-- Once started, the thermostats that what is noticed concerns go by the log. -/
def Evaluates (exempt : Thermo → Bool) (formats : Formats) (w : ReadingWatch)
    (notice : Notice × DateTime) : Prop :=
  let after := step reads formats w notice
  after.ctl.started = true → ∀ (id : String) t, after.ctl.therms[id]? = some t →
    w.judged reads notice.2 notice.1 t = true → after.GoesBy exempt notice.2 id t

/-- The others are left as they were. -/
def Spares (formats : Formats) (w : ReadingWatch) (notice : Notice × DateTime) : Prop :=
  let after := step reads formats w notice
  after.ctl.started = true → ∀ (id : String) t, after.ctl.therms[id]? = some t →
    w.judged reads notice.2 notice.1 t = false → w.ctl.therms[id]? = some t

/-- Before the start, what is reported is not what a thermostat keeps of itself. -/
def Foreign (w : ReadingWatch) (notice : Notice × DateTime) : Prop :=
  match notice.1 with
  | .report (.state device _) => w.ctl.started = true ∨ w.ctl.ownId device = none
  | _ => True

/-- A thermostat without a switch, in off or overridden by hand asks its switch for nothing. -/
def leavesSwitch (t : Thermo) : Bool := t.act.isEmpty || !t.active || t.overrideUntil.isSome

structure Sound (w : ReadingWatch) : Prop where
  reads : w.ctl.Reads w.log
  keyed : w.ctl.All Rule.Keyed
  alike : w.ctl.SharesAlike
  calm : w.ctl.candidates = ∅
  asked : w.ctl.All (OffKnown w.asked)
  idle : w.ctl.commands = []
  before : w.ctl.started = false → w.ctl.Listening Controller.Unasked

variable {reads} {w : ReadingWatch} {now : DateTime}

theorem goesBy {id : String} {t' : Thermo} (evaluated : EvaluatedBy w.log now t')
    (idle : w.ctl.commands = []) (known : OffKnown w.asked w.ctl.view id t') :
    w.GoesBy leavesSwitch now id t' := by
  obtain ⟨t, sw, rfl⟩ := evaluated
  have sameCfg := Thermo.evaluate_cfg t sw (w.log.current t.cfg now) (w.log.heard t.cfg) now
  refine ⟨?_, fun acts none waited off => ?_⟩
  · rw [sameCfg]
    exact (Thermo.evaluate_prepared ..).temperature.trans (Thermo.prepare_temperature ..)
  · simp only [leavesSwitch, Bool.or_eq_false_iff, Bool.not_eq_false', Option.isSome_eq_false_iff,
      Option.isNone_iff_eq_none] at acts
    obtain ⟨⟨switch, active⟩, free⟩ := acts
    rw [sameCfg] at none waited off
    have commanded : (t.evaluate sw (w.log.current t.cfg now) (w.log.heard t.cfg) now).1.commanded =
        some false := by
      rw [Thermo.act, sameCfg] at switch
      rw [Thermo.active, sameCfg] at active
      rw [none] at waited free ⊢
      exact Thermo.evaluate_unread t sw (w.log.heard t.cfg) now switch active off waited free
    rcases known switch commanded with last | ⟨reported, _⟩
    · have nothing : w.ctl.view.commands = [] := idle
      rw [nothing, lastAsked_nil] at last
      exact .inr last
    · exact .inl reported

/-- Carrying out the effects, what was asked for last is remembered. -/
theorem remembers {c : Controller} {before : String → Option Bool} (known : c.All (OffKnown before)) :
    c.takeEffects.1.All (OffKnown (lastAsked before c.commands)) :=
  fun id t found => known id t found

theorem new_sound {c : Controller} (listening : c.Listening Controller.Unasked) (alike : c.SharesAlike)
    (calm : c.candidates = ∅) (idle : c.commands = []) : Sound { ctl := c } where
  reads := ⟨fun _ _ _ _ _ => rfl, fun _ => rfl⟩
  keyed id t found := (listening.holds id t found).keyed
  alike := alike
  calm := calm
  asked := listening.offKnown _
  idle := idle
  before _ := listening

/-- What the step makes of a controller that follows the log. -/
theorem sound_after {c : Controller} {log : SensorLog} (sound : w.Sound)
    (cfgs : ∀ id : String, (c.therms[id]?).map Thermo.cfg = (w.ctl.therms[id]?).map Thermo.cfg)
    (candidates : c.candidates = w.ctl.candidates) (reads : c.Reads log)
    (known : c.All (OffKnown w.asked))
    (before : c.started = false → c.Listening Controller.Unasked) :
    Sound ⟨c.takeEffects.1, log, lastAsked w.asked c.commands⟩ where
  reads := ⟨reads.readings, reads.online⟩
  keyed := Controller.keyed_of_cfgs sound.keyed cfgs
  alike := Controller.alike_of_cfgs sound.alike cfgs
  calm := candidates.trans sound.calm
  asked := remembers known
  idle := rfl
  before unstarted := (before unstarted).congr rfl rfl rfl

theorem step_sound (sound : w.Sound) (formats : Formats) (notice : Notice × DateTime)
    (foreign : w.Foreign notice) :
    (step inRangeOrNull formats w notice).Sound ∧
      w.Evaluates inRangeOrNull leavesSwitch formats notice ∧ w.Spares inRangeOrNull formats notice := by
  obtain ⟨notice, now⟩ := notice
  cases notice with
  | report report =>
    have heeds := Controller.report_heeds sound.reads sound.keyed sound.alike sound.calm formats now report
      (by
        cases report with
        | state device payload =>
          refine Or.imp_right (fun none _ _ same => ?_) foreign
          cases same
          exact none
        | availability device online => exact .inr (by rintro _ _ ⟨⟩)
        | tick => exact .inr (by rintro _ _ ⟨⟩))
    have known : (w.ctl.handle formats report.input now).All (OffKnown w.asked) := by
      cases started : w.ctl.started with
      | false =>
        have listening := sound.before started
        exact (Controller.report_listening listening sound.calm formats now report).offKnown w.asked
      | true => exact Controller.report_offKnown started sound.keyed sound.asked sound.calm formats now report
    have after : (step inRangeOrNull formats w (.report report, now)).Sound := by
      refine sound_after sound heeds.cfgs heeds.candidates heeds.reads known fun unstarted => ?_
      have listening := sound.before (heeds.started.symm.trans unstarted)
      exact Controller.report_listening listening sound.calm formats now report
    refine ⟨after, fun started id t' found concerned => ?_, fun started id t' found unconcerned => ?_⟩
    · have begun : w.ctl.started = true := heeds.started.symm.trans started
      exact goesBy (heeds.evaluated begun id t' found concerned) after.idle (after.asked id t' found)
    · exact heeds.others (heeds.started.symm.trans started) id t' found unconcerned
  | start =>
    have same := Controller.SameUse.start (c := w.ctl) now
    obtain ⟨read, evaluated⟩ := Controller.start_evaluates sound.reads now
    have started : (w.ctl.start now).started = true := Controller.start_started w.ctl now
    have after : (step inRangeOrNull formats w (.start, now)).Sound := by
      refine sound_after sound same.cfgs same.candidates read (Controller.start_offKnown sound.asked now) ?_
      exact fun unstarted => Bool.noConfusion (started.symm.trans unstarted)
    refine ⟨after, fun _ id t' found _ => ?_, fun _ _ _ _ unconcerned => ?_⟩
    · exact goesBy (evaluated id t' found) after.idle (after.asked id t' found)
    · cases unconcerned

/-- Where the thermostats that share a sensor read the same attribute of it, each goes by what its
own sensors said whenever it is evaluated. -/
theorem readings_followed (formats : Formats) (entries : List ThermostatEntry)
    (heard : List (Heard × DateTime)) (alike : (Controller.boot formats entries heard).SharesAlike)
    (notices : List (Notice × DateTime))
    (foreign : Runs.EachStep (step inRangeOrNull formats) Foreign
      { ctl := .boot formats entries heard } notices) :
    Runs.EachStep (step inRangeOrNull formats)
      (fun w notice => w.Evaluates inRangeOrNull leavesSwitch formats notice ∧
        w.Spares inRangeOrNull formats notice)
      { ctl := .boot formats entries heard } notices := by
  have starts : Sound { ctl := .boot formats entries heard } := by
    refine new_sound (Controller.boot_listening formats entries heard) alike ?_ ?_
    · exact Controller.boot_candidates formats entries heard
    · rw [Controller.commands, Controller.boot_fx]
      rfl
  have sound := Runs.invariant Sound
    (fun w notice sound foreign => (step_sound sound formats notice foreign).1) starts foreign
  refine (foreign.and (sound.eachStep fun w _ sound => sound)).mono fun w notice now => ?_
  exact (step_sound now.2 formats notice now.1).2

/-! ### The den and the study -/

instance (c : Controller) : Decidable c.SharesAlike :=
  inferInstanceAs (Decidable (∀ t ∈ c.values, ∀ u ∈ c.values, ∀ s ∈ t.cfg.sensorDeviceIds,
    s ∈ u.cfg.sensorDeviceIds → t.cfg.sensorAttribute = u.cfg.sensorAttribute))

instance (w : ReadingWatch) : ∀ notice, Decidable (w.Foreign notice)
  | (.report (.state device _), _) =>
    inferInstanceAs (Decidable (w.ctl.started = true ∨ w.ctl.ownId device = none))
  | (.report (.availability ..), _) | (.report .tick, _) | (.start, _) => .isTrue trivial

/-- The study reads the den's sensor, and one of its own. -/
def study : ThermostatEntry :=
  { OffWatch.den with
    id := "study"
    sensorDeviceIds := ["den_temp", "study_temp"]
    actuatorDeviceId := "study_ac"
    onStale := some .off }

def measured (device : String) (value : Json) : Notice :=
  .report (.state device (.obj [("temperature", value)]))

/-- Both read the den's sensor, until it has no reading. -/
def sharedSensor : List (Notice × DateTime) :=
  [(.start, 0), (measured "den_temp" (.num (.posInt 25)), secs 1),
    (measured "study_temp" (.num (.posInt 23)), secs 2), (measured "den_temp" .null, secs 3),
    (.report .tick, secs 60)]

theorem den_and_study_read :
    Runs.EachStep (step inRangeOrNull OffWatch.plain)
      (fun w notice => w.Evaluates inRangeOrNull leavesSwitch OffWatch.plain notice ∧
        w.Spares inRangeOrNull OffWatch.plain notice)
      { ctl := .boot OffWatch.plain [OffWatch.den, study] [] } sharedSensor :=
  readings_followed OffWatch.plain [OffWatch.den, study] [] (by decide) sharedSensor
    (by decide)

/-- The den's sensor reads 25, and then has no reading. -/
def sensorLost : List (Notice × DateTime) :=
  [(.start, 0), (measured "den_temp" (.num (.posInt 25)), secs 1), (measured "den_temp" .null, secs 3)]

/-- A minute after it read 25 the sensor is no longer read. -/
theorem den_unread :
    ¬ Runs.EachStep (step inRange OffWatch.plain) (Evaluates inRange (fun _ => false) OffWatch.plain)
      { ctl := .boot OffWatch.plain [OffWatch.den] [] } (sensorLost ++ [(.report .tick, secs 60)]) := by
  intro steps
  let after := step inRange OffWatch.plain (sensorLost.foldl (step inRange OffWatch.plain)
    { ctl := .boot OffWatch.plain [OffWatch.den] [] }) (.report .tick, secs 60)
  have unread : (after.ctl.therms["den"]?).any (fun t =>
      t.temperature != aggregate (after.log.current t.cfg (secs 60)) t.cfg.aggregation) = true := by
    decide +kernel
  have started : after.ctl.started = true := by decide
  obtain ⟨t, found, apart⟩ := (Option.any_eq_true _ _).mp unread
  exact bne_iff_ne.mp apart (steps.last started "den" t found rfl).temperature

end ReadingWatch
end HomeCore.Thermostat
