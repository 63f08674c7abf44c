import HomeCore.Thermostat.OffProofs
import HomeCore.Thermostat.Reports
import HomeCore.Types.MergePatch

/-! A command that is refused has changed nothing, but for one that writes a mode and then a
target that is refused. -/
namespace HomeCore.Thermostat.Controller
variable {formats : Formats} {c c' : Controller} {id device : String} {t : Thermo} {p : Json} {now : DateTime}

/-! ## The handlers -/

/-! ## Refusals -/

/-- A command that is refused has left the controller as it was. -/
def RefusesClean (c : Controller) (result : Controller × Outcome) : Prop :=
  ∀ error, result.2 = .refused error → result.1 = c

theorem refusesClean_refused (error : String) : RefusesClean c (c, .refused error) := fun _ _ => rfl

theorem refusesClean_done : RefusesClean c (c', .done) := fun _ refused => by cases refused

theorem setSetpoint_refusesClean (c : Controller) (id : String) (v : Rat) :
    RefusesClean c (c.setSetpoint formats id v) := by
  rw [setSetpoint]
  split
  · exact refusesClean_refused _
  · exact refusesClean_done

theorem setMode_refusesClean (c : Controller) (id : String) (t : Thermo) (m : String) :
    RefusesClean c (c.setMode id t m) := by
  unfold setMode
  dsimp only
  split
  · exact refusesClean_refused _
  · exact refusesClean_done

theorem setActuator_refusesClean (c : Controller) (id : String) (t : Thermo) (p : Json) (now : DateTime) :
    RefusesClean c (c.setActuator id t p now) := by
  unfold setActuator
  split
  · exact refusesClean_refused _
  split
  · exact refusesClean_refused _
  split
  · exact refusesClean_done
  split
  · exact refusesClean_refused _
  split
  · exact refusesClean_refused _
  split
  · exact refusesClean_done
  split
  · exact refusesClean_done
  split
  · exact refusesClean_refused _
  · exact fun _ later => by cases later

theorem holdFor_refusesClean (c : Controller) (id : String) (p : Json) (now : DateTime) :
    RefusesClean c (c.holdFor formats id p now) := by
  unfold holdFor
  split
  · exact refusesClean_refused _
  split
  · exact refusesClean_refused _
  dsimp only
  split
  · exact refusesClean_refused _
  split
  · exact refusesClean_done
  · exact refusesClean_refused _

theorem setShortCycle_refusesClean (c : Controller) (id : String) (p : Json) :
    RefusesClean c (c.setShortCycle id p) := by
  unfold setShortCycle
  dsimp only
  split
  · exact refusesClean_refused _
  split
  · exact refusesClean_refused _
  · exact refusesClean_done

theorem setSensors_refusesClean (c : Controller) (id : String) (t : Thermo) (p : Json) (now : DateTime) :
    RefusesClean c (c.setSensors id t p now) := by
  unfold setSensors
  dsimp only
  split
  · exact refusesClean_refused _
  split
  · exact refusesClean_refused _
  split
  · exact refusesClean_refused _
  split
  · exact refusesClean_refused _
  · exact refusesClean_done

theorem applyCommand_refusesClean (named : commandOf p ≠ "") :
    RefusesClean c (c.applyCommand formats id (commandOf p) t p now) := by
  unfold applyCommand
  dsimp only
  split
  · split
    · exact refusesClean_refused _
    · exact setSetpoint_refusesClean c id _
  · split
    · exact refusesClean_refused _
    · exact setMode_refusesClean c id t _
  · next cmd => exact absurd cmd named
  · exact holdFor_refusesClean c id p now
  · exact refusesClean_done
  · exact refusesClean_done
  · exact refusesClean_done
  · exact refusesClean_done
  · split
    · exact refusesClean_refused _
    split
    · exact refusesClean_done
    · exact refusesClean_refused _
  · split
    · exact refusesClean_refused _
    · exact refusesClean_done
  · exact setShortCycle_refusesClean c id p
  · exact setSensors_refusesClean c id t p now
  · exact setActuator_refusesClean c id t p now
  · exact refusesClean_refused _

/-- What the mode's half of a payload makes of a thermostat. -/
def modeWritten (mode : Mode) (t : Thermo) : Thermo :=
  (if t.cfg.mode ≠ mode then changeMode mode t else t).personChangedIt

theorem setMode_cases (c : Controller) (id : String) (t : Thermo) (m : String) :
    (∃ error, c.setMode id t m = (c, .refused error)) ∨
      ∃ mode, t.cfg.kind.modes.find? (·.asStr == m) = some mode ∧
        c.setMode id t m = (c.modify id (modeWritten mode), .done) := by
  unfold setMode
  dsimp only
  split
  · exact .inl ⟨_, rfl⟩
  · next mode chosen => exact .inr ⟨mode, chosen, rfl⟩

/-- What a target makes of a thermostat. -/
def setpointWritten (v : Rat) (t : Thermo) : Thermo :=
  { t with cfg := { t.cfg with setpoint := v }, hold := none }.personChangedIt

theorem setSetpoint_cases (formats : Formats) (c : Controller) (id : String) (v : Rat) :
    (∃ problem, setpointProblem formats v = some problem ∧ c.setSetpoint formats id v = (c, .refused problem)) ∨
      c.setSetpoint formats id v = (c.modify id (setpointWritten v), .done) := by
  rw [setSetpoint]
  cases problem : setpointProblem formats v with
  | some error => exact .inl ⟨error, rfl, rfl⟩
  | none => exact .inr rfl

/-- What is written without a command is refused as a whole, or the mode is written and the
target refused. -/
theorem writeAttributes_refused {left : Controller} {error : String}
    (refused : c.writeAttributes formats id t p = (left, .refused error)) :
    left = c ∨ ∃ setpoint m mode, attributeWrites p = (some setpoint, some m) ∧
      (setpointProblem formats setpoint).isSome = true ∧
      t.cfg.kind.modes.find? (·.asStr == m) = some mode ∧ left = c.modify id (modeWritten mode) := by
  unfold writeAttributes at refused
  cases written : attributeWrites p with
  | mk setpoint mode =>
    rw [written] at refused
    cases mode with
    | none =>
      cases setpoint with
      | none =>
        cases refused
        exact .inl rfl
      | some v =>
        have clean : RefusesClean c (c.setSetpoint formats id v) := setSetpoint_refusesClean c id v
        simp only at refused
        rw [refused] at clean
        exact .inl (clean error rfl)
    | some m =>
      cases setpoint with
      | none =>
        have clean := setMode_refusesClean c id t m
        simp only at refused
        rw [refused] at clean
        exact .inl (clean error rfl)
      | some v =>
        simp only at refused
        rcases setMode_cases c id t m with ⟨_, unset⟩ | ⟨mode, chosen, set⟩
        · rw [unset] at refused
          cases refused
          exact .inl rfl
        · rw [set] at refused
          simp only at refused
          rcases setSetpoint_cases formats (c.modify id (modeWritten mode)) id v with ⟨problem, isProblem, same⟩ | done
          · rw [same] at refused
            cases refused
            exact .inr ⟨v, m, mode, rfl, by rw [isProblem]; rfl, chosen, rfl⟩
          · rw [done] at refused
            cases refused

/-- Both halves are reached where the mode is one that it has. -/
theorem writeAttributes_half {setpoint : Rat} {m : String} {mode : Mode} {problem : String}
    (written : attributeWrites p = (some setpoint, some m))
    (isProblem : setpointProblem formats setpoint = some problem)
    (chosen : t.cfg.kind.modes.find? (·.asStr == m) = some mode) :
    c.writeAttributes formats id t p = (c.modify id (modeWritten mode), .refused problem) := by
  have set : c.setMode id t m = (c.modify id (modeWritten mode), .done) := by
    unfold setMode
    simp only [chosen]
    rfl
  simp only [writeAttributes, written, set, setSetpoint, isProblem]

/-- The mode's half leaves a thermostat as it stood exactly if it is in that mode already, and has
no override or trip on record. -/
theorem modeWritten_standing_iff (mode : Mode) (t : Thermo) :
    (modeWritten mode t).standing = t.standing ↔
      ¬ (t.cfg.mode ≠ mode ∨ t.overrideUntil.isSome = true ∨ t.overrideAt.isSome = true ∨
        t.maxRunTripped = true ∨ t.trippedAt.isSome = true) := by
  by_cases same : t.cfg.mode = mode
  · simp only [modeWritten, same, ne_eq, not_true_eq_false, if_false, Thermo.standing,
      Thermo.personChangedIt, Standing.mk.injEq, true_and, false_or, not_or, Bool.not_eq_true,
      Option.isSome_eq_false_iff, Option.isNone_iff_eq_none]
    constructor
    · rintro ⟨ends, since, tripped, when⟩
      exact ⟨ends.symm, since.symm, tripped.symm, when.symm⟩
    · rintro ⟨ends, since, tripped, when⟩
      exact ⟨ends.symm, since.symm, tripped.symm, when.symm⟩
  · have other : (modeWritten mode t).cfg.mode = mode := by
      rw [modeWritten, if_pos same, changeMode]
      dsimp only
      split
      · rfl
      · rfl
    refine ⟨fun standing => absurd ?_ same, fun half => absurd (.inl same) half⟩
    have cfgs : (modeWritten mode t).cfg = t.cfg := congrArg Standing.cfg standing
    rw [← cfgs, other]

theorem standing_modify {change : Thermo → Thermo} (found : c.therms[id]? = some t)
    (same : (change t).standing = t.standing) (other : String) :
    (c.modify id change).therms[other]?.map Thermo.standing = c.therms[other]?.map Thermo.standing := by
  rw [Rule.modify_getElem?]
  split
  · next isId =>
    rw [← isId, found, Option.map_some, Option.map_some, Option.map_some, same]
  · rfl

/-! ## What is done -/

/-- The settings of every thermostat are as they were. -/
def SameSettings (c c' : Controller) : Prop :=
  ∀ other : String, c'.therms[other]?.map Thermo.cfg = c.therms[other]?.map Thermo.cfg

theorem SameSettings.refl (c : Controller) : SameSettings c c := fun _ => rfl

theorem SameSettings.trans {c'' : Controller} (first : SameSettings c c') (second : SameSettings c' c'') :
    SameSettings c c'' := fun other => (second other).trans (first other)

theorem sameSettings_modify {change : Thermo → Thermo}
    (same : ∀ u, c.therms[id]? = some u → (change u).cfg = u.cfg) : SameSettings c (c.modify id change) := by
  intro other
  rw [Rule.modify_getElem?]
  split
  · next isId =>
    rw [← isId]
    cases found : c.therms[id]? with
    | none => rfl
    | some u => rw [Option.map_some, Option.map_some, Option.map_some, same u found]
  · rfl

/-- A target that it has already changes no settings. -/
theorem sameSettings_setSetpoint {v : Rat} (same : ∀ u, c.therms[id]? = some u → u.cfg.setpoint = v) :
    SameSettings c (c.setSetpoint formats id v).1 := by
  rcases setSetpoint_cases formats c id v with ⟨problem, _, refused⟩ | done
  · rw [refused]
    exact .refl c
  · rw [done]
    refine sameSettings_modify fun u found => ?_
    rw [← same u found]
    rfl

/-- And so does a mode that it is in. -/
theorem sameSettings_setMode (found : c.therms[id]? = some t) {m : String} (same : t.cfg.mode.asStr = m) :
    SameSettings c (c.setMode id t m).1 := by
  rcases setMode_cases c id t m with ⟨error, refused⟩ | ⟨mode, chosen, done⟩
  · rw [refused]
    exact .refl c
  · rw [done]
    refine sameSettings_modify fun u isFound => ?_
    rw [found] at isFound
    cases isFound
    have isMode : t.cfg.mode = mode := by
      have named : mode.asStr = m := by simpa using List.find?_some chosen
      rw [← same] at named
      revert named
      cases mode <;> cases t.cfg.mode <;> decide
    rw [modeWritten, if_neg (not_not.mpr isMode)]
    rfl

/-- Both halves of a payload, where neither differs. -/
theorem sameSettings_writeAttributes (found : c.therms[id]? = some t)
    (sameMode : ∀ m, (attributeWrites p).2 = some m → t.cfg.mode.asStr = m)
    (sameSetpoint : ∀ v, (attributeWrites p).1 = some v → t.cfg.setpoint = v) :
    SameSettings c (c.writeAttributes formats id t p).1 := by
  have only (v : Rat) (isWritten : (attributeWrites p).1 = some v) (u : Thermo)
      (isFound : c.therms[id]? = some u) : u.cfg.setpoint = v := by
    rw [found] at isFound
    cases isFound
    exact sameSetpoint v isWritten
  unfold writeAttributes
  cases written : attributeWrites p with
  | mk setpoint mode =>
    rw [written] at sameMode only
    cases mode with
    | none =>
      cases setpoint with
      | none => exact .refl c
      | some v => exact sameSettings_setSetpoint (only v rfl)
    | some m =>
      have set := sameSettings_setMode found (sameMode m rfl)
      cases setpoint with
      | none => exact set
      | some v =>
        dsimp only
        split
        · next refused =>
          rw [refused] at set
          exact set
        · next left outcome _ isSet =>
          rw [isSet] at set
          refine set.trans (sameSettings_setSetpoint fun u isFound => ?_)
          have cfgs := set id
          rw [isFound, found, Option.map_some, Option.map_some] at cfgs
          rw [Option.some.inj cfgs]
          exact only v rfl t found

theorem sameSettings_holdFor (c : Controller) (id : String) (p : Json) (now : DateTime) :
    SameSettings c (c.holdFor formats id p now).1 := by
  unfold holdFor
  split
  · exact .refl c
  split
  · exact .refl c
  dsimp only
  split
  · exact .refl c
  split
  · exact sameSettings_modify fun _ _ => rfl
  · exact .refl c

/-- The switch that it has changes no settings, and neither does one that has not shown itself. -/
theorem sameSettings_setActuator
    (unchanged : ((p.get "device_id").bind Json.asStr).any (fun device => device.isEmpty || device != t.act) = false) :
    SameSettings c (c.setActuator id t p now).1 := by
  unfold setActuator
  split
  · exact .refl c
  split
  · exact .refl c
  next device named =>
  rw [named, Option.any_some, Bool.or_eq_false_iff, bne_eq_false_iff_eq] at unchanged
  rw [if_neg (by rw [unchanged.1]; exact Bool.false_ne_true)]
  split
  · exact .refl c
  split
  · exact .refl c
  rw [if_pos unchanged.2]
  exact .refl c

/-- A command that is done without `changed` has changed no settings. -/
theorem applyCommand_sameSettings (found : c.therms[id]? = some t) (unchanged : changes t p = false)
    (done : (c.applyCommand formats id (commandOf p) t p now).2 = .done) :
    SameSettings c (c.applyCommand formats id (commandOf p) t p now).1 := by
  unfold changes at unchanged
  unfold applyCommand at done ⊢
  dsimp only at unchanged done ⊢
  split at done
  · next cmd =>
    simp only [cmd] at unchanged ⊢
    cases written : (p.get "value").bind Json.asF64 with
    | none => exact .refl c
    | some v =>
      rw [written, Option.any_some, bne_eq_false_iff_eq] at unchanged
      refine sameSettings_setSetpoint fun u isFound => ?_
      rw [found] at isFound
      cases isFound
      exact unchanged
  · next cmd =>
    simp only [cmd] at unchanged ⊢
    cases written : (p.get "value").bind Json.asStr with
    | none => exact .refl c
    | some m =>
      rw [written, Option.any_some, bne_eq_false_iff_eq] at unchanged
      exact sameSettings_setMode found unchanged
  · next cmd =>
    simp only [cmd, Bool.or_eq_false_iff] at unchanged ⊢
    refine sameSettings_writeAttributes found (fun m written => ?_) (fun v written => ?_)
    · have mode := unchanged.1
      rwa [written, Option.any_some, bne_eq_false_iff_eq] at mode
    · have setpoint := unchanged.2
      rwa [written, Option.any_some, bne_eq_false_iff_eq] at setpoint
  · exact sameSettings_holdFor c id p now
  · exact sameSettings_modify fun _ _ => rfl
  · exact sameSettings_modify fun _ _ => rfl
  · exact sameSettings_modify fun _ _ => rfl
  · exact sameSettings_modify fun _ _ => rfl
  · next cmd =>
    simp only [cmd] at unchanged
    cases unchanged
  · next cmd =>
    simp only [cmd] at unchanged
    cases unchanged
  · next cmd =>
    simp only [cmd] at unchanged
    cases unchanged
  · next cmd =>
    simp only [cmd] at unchanged
    cases unchanged
  · next cmd =>
    simp only [cmd] at unchanged
    exact sameSettings_setActuator unchanged
  · exact .refl c

/-! ## What is persisted -/

/-- Every thermostat has an entry in the file. -/
def FilesKnown (c : Controller) : Prop :=
  ∀ (id : String) t, c.therms[id]? = some t → ∃ file, c.fileEntries[id]? = some file

/-- The document holds the settings of every thermostat that are not the file's. -/
theorem keepRuntimeChanges_keeps {file : ThermostatEntry} (found : c.therms[id]? = some t)
    (inFile : c.fileEntries[id]? = some file) :
    Keeps formats (c.keepRuntimeChanges formats) id file t.cfg := by
  have kept : (c.keptChanges formats)[id]? = runtimeChange formats file t.cfg := by
    rw [keptChanges, Std.ExtTreeMap.getElem?_filterMap', found, Option.bind_some, inFile, Option.bind_some]
  refine ⟨.obj (c.keptChanges formats).toList, rfl, ?_⟩
  rw [Json.get_obj_toList, kept, runtimeChange]
  split
  · rfl
  · exact ⟨_, rfl, rfl, rfl⟩

theorem switchTo_fileEntries (id actuator : String) : (c.switchTo id actuator now).fileEntries = c.fileEntries := by
  rw [switchTo]
  split
  · rfl
  · rfl

theorem applied_fileEntries (applied : Applied c id t p now c') : c'.fileEntries = c.fileEntries := by
  induction applied with
  | untouched => rfl
  | adjusted _ _ _ _ _ ih => exact ih
  | forced => rfl
  | mode => rfl
  | moved device => exact switchTo_fileEntries id device

/-- A command that is done leaves the settings, or persists all that are not the file's. -/
theorem persisted_of_done (known : FilesKnown c) (found : c.therms[id]? = some t)
    (result : c.applyCommand formats id (commandOf p) t p now = (c', .done)) :
    CommandAnswer.Sound formats c
      ⟨id, c', none, if changes t p then some (c'.keepRuntimeChanges formats) else none⟩ := by
  refine ⟨fun isError => (by cases isError), fun _ other u u' before after differs => ?_⟩
  have files : c'.fileEntries = c.fileEntries := by
    have applied : Applied c id t p now (c.applyCommand formats id (commandOf p) t p now).1 :=
      .applyCommand formats
    rw [result] at applied
    exact applied_fileEntries applied
  cases changed : changes t p with
  | false =>
    have same : SameSettings c (c.applyCommand formats id (commandOf p) t p now).1 :=
      applyCommand_sameSettings found changed (by rw [result])
    rw [result] at same
    have cfgs := same other
    rw [before, after, Option.map_some, Option.map_some] at cfgs
    exact absurd (Option.some.inj cfgs) differs
  | true =>
    obtain ⟨file, inFile⟩ := known other u before
    rw [← files] at inFile
    exact ⟨_, file, rfl, inFile, keepRuntimeChanges_keeps after inFile⟩

/-! ## The reports -/

/-- Every report of a command is sound exactly if the command is not half written. -/
theorem commandReport_sound_iff (known : FilesKnown c) (found : c.therms[id]? = some t) (p : Json) (now : DateTime) :
    (∀ report, c.commandReport formats id t p now = some report → report.Sound formats c) ↔
      ¬ HalfWritten formats t p := by
  constructor
  · rintro sound ⟨cmd, setpoint, m, written, isProblem, mode, chosen, stood⟩
    obtain ⟨problem, isProblem⟩ := Option.isSome_iff_exists.mp isProblem
    have half : c.applyCommand formats id (commandOf p) t p now =
        (c.modify id (modeWritten mode), .refused problem) := by
      rw [cmd]
      exact writeAttributes_half written isProblem chosen
    have refused := (sound ⟨id, _, some problem, none⟩ (by rw [commandReport, half])).refused rfl id
    simp only [Rule.modify_getElem?, if_pos, found, Option.map_some, Option.some_inj] at refused
    exact (modeWritten_standing_iff mode t).mp refused stood
  · intro whole report isReport
    rw [commandReport] at isReport
    cases result : c.applyCommand formats id (commandOf p) t p now with
    | mk left outcome =>
      rw [result] at isReport
      cases outcome with
      | later => cases isReport
      | done =>
        cases isReport
        exact persisted_of_done known found result
      | refused error =>
        cases isReport
        refine ⟨fun _ other => ?_, fun noError => (by cases noError)⟩
        by_cases cmd : commandOf p = ""
        · rw [cmd] at result
          rcases writeAttributes_refused result with rfl | ⟨setpoint, m, mode, written, isProblem, chosen, rfl⟩
          · rfl
          · refine standing_modify found ((modeWritten_standing_iff mode t).mpr fun stood => ?_) other
            exact whole ⟨cmd, setpoint, m, written, isProblem, mode, chosen, stood⟩
        · have clean : RefusesClean c (c.applyCommand formats id (commandOf p) t p now) :=
            applyCommand_refusesClean cmd
          rw [result] at clean
          have unchanged : left = c := clean error rfl
          rw [unchanged]

/-- A choice that was put off is refused without a change, or persisted. -/
theorem settleReport_sound (known : FilesKnown c) {report : CommandAnswer}
    (isReport : c.settleReport formats device now = some report) : report.Sound formats c := by
  rw [settleReport] at isReport
  split at isReport
  · cases isReport
  obtain ⟨candidate, _, rfl⟩ := Option.map_eq_some_iff.mp isReport
  dsimp only
  split
  · refine ⟨fun isError => (by cases isError), fun _ other u u' before after _ => ?_⟩
    obtain ⟨file, inFile⟩ := known other u before
    have stays : ({ c with candidates := c.candidates.erase device }.switchTo candidate.thermostat device
        now).fileEntries[other]? = some file := by
      rw [switchTo_fileEntries]
      exact inFile
    exact ⟨_, file, rfl, stays, keepRuntimeChanges_keeps after stays⟩
  · exact ⟨fun _ _ => rfl, fun noError => (by cases noError)⟩

theorem dropReport_sound {report : CommandAnswer} (isReport : c.dropReport device = some report) :
    report.Sound formats c := by
  obtain ⟨candidate, _, rfl⟩ := Option.map_eq_some_iff.mp isReport
  exact ⟨fun _ _ => rfl, fun noError => (by cases noError)⟩

/-! ## Every thermostat has its entry in the file -/

/-- No thermostat is new, and the file is what it was. -/
structure Within (c c' : Controller) : Prop where
  files : c'.fileEntries = c.fileEntries
  therms : ∀ other : String, other ∈ c'.therms → other ∈ c.therms

namespace Within

theorem refl (c : Controller) : Within c c := ⟨rfl, fun _ => id⟩

theorem trans {c'' : Controller} (first : Within c c') (second : Within c' c'') : Within c c'' :=
  ⟨second.files.trans first.files, fun other member => first.therms other (second.therms other member)⟩

theorem of_eq (files : c'.fileEntries = c.fileEntries) (therms : c'.therms = c.therms) : Within c c' :=
  ⟨files, fun _ member => therms ▸ member⟩

theorem known (within : Within c c') (known : FilesKnown c) : FilesKnown c' := by
  intro other t found
  have member := within.therms other (Std.ExtTreeMap.mem_iff_isSome_getElem?.mpr (Option.isSome_of_mem found))
  obtain ⟨before, wasFound⟩ := Option.isSome_iff_exists.mp (Std.ExtTreeMap.mem_iff_isSome_getElem?.mp member)
  rw [within.files]
  exact known other before wasFound

theorem foldl {α : Type} {change : Controller → α → Controller} (within : ∀ c a, Within c (change c a))
    (inputs : List α) (c : Controller) : Within c (inputs.foldl change c) := by
  induction inputs generalizing c with
  | nil => exact refl c
  | cons a rest ih => exact (within c a).trans (ih (change c a))

theorem modify (c : Controller) (id : String) (change : Thermo → Thermo) : Within c (c.modify id change) := by
  refine ⟨rfl, fun other member => ?_⟩
  rw [Std.ExtTreeMap.mem_iff_isSome_getElem?, Rule.modify_getElem?] at member
  rw [Std.ExtTreeMap.mem_iff_isSome_getElem?]
  split at member
  · next same => rwa [Option.isSome_map, same] at member
  · exact member

theorem map (c : Controller) (change : Thermo → Thermo) :
    Within c { c with therms := c.therms.map fun _ => change } := by
  refine ⟨rfl, fun other member => ?_⟩
  exact Std.ExtTreeMap.mem_map.mp member

theorem insert {therms : Std.ExtTreeMap String Thermo} {t next : Thermo} (found : therms[id]? = some t)
    {other : String} (member : other ∈ therms.insert id next) : other ∈ therms := by
  rcases Std.ExtTreeMap.mem_insert.mp member with same | earlier
  · rw [← Std.LawfulEqCmp.eq_of_compare same]
    exact Std.ExtTreeMap.mem_iff_isSome_getElem?.mpr (Option.isSome_of_mem found)
  · exact earlier

theorem evaluate (c : Controller) (id : String) (now : DateTime) : Within c (c.evaluate id now) := by
  unfold Controller.evaluate
  split
  · exact refl c
  split
  · exact refl c
  · next t found => exact ⟨rfl, fun _ member => insert found member⟩

theorem evaluateAll (c : Controller) (ids : List String) (now : DateTime) : Within c (c.evaluateAll ids now) :=
  foldl (fun c id => evaluate c id now) ids c

theorem report (c : Controller) (id operation : String) (error : Option String) :
    Within c (c.report id operation error) := by
  unfold Controller.report
  split
  · exact refl c
  · exact of_eq rfl rfl

theorem resubscribe (c : Controller) (before : List String) : Within c (c.resubscribe before) := of_eq rfl rfl

theorem switchTo (c : Controller) (id actuator : String) (now : DateTime) :
    Within c (c.switchTo id actuator now) := by
  unfold Controller.switchTo
  split
  · exact refl c
  · next t found => exact ⟨rfl, fun _ member => insert found member⟩

theorem applied (applied : Applied c id t p now c') : Within c c' := by
  induction applied with
  | untouched => exact of_eq rfl rfl
  | adjusted _ change _ _ _ ih => exact ih.trans (modify _ id change)
  | forced change => exact modify c id change
  | mode => exact modify c id _
  | moved device => exact switchTo c id device now

theorem onCommand (c : Controller) (device : String) (payload : Json) :
    Within c (c.onCommand formats device payload now) := by
  unfold Controller.onCommand
  split
  · exact refl c
  next id own =>
  split
  · exact refl c
  next t found =>
  have isApplied : Within c (c.applyCommand formats id (commandOf payload) t payload now).1 :=
    applied (.applyCommand formats)
  refine Within.trans ?_ (evaluate _ id now)
  refine Within.trans ?_ (resubscribe _ c.usedIds)
  generalize c.applyCommand formats id (commandOf payload) t payload now = result at isApplied
  obtain ⟨left, outcome⟩ := result
  cases outcome with
  | later => exact isApplied
  | done => exact isApplied.trans (report left id _ none)
  | refused error => exact isApplied.trans (report left id _ (some error))

theorem settleCandidate (c : Controller) (device : String) : Within c (c.settleCandidate device now) := by
  unfold Controller.settleCandidate
  dsimp only
  split
  · exact refl c
  split
  · exact refl c
  next candidate found =>
  refine Within.trans ?_ (evaluate _ _ now)
  refine Within.trans ?_ (resubscribe _ _)
  have erased : Within c { c with candidates := c.candidates.erase device } := of_eq rfl rfl
  split
  · exact (erased.trans (switchTo _ _ device now)).trans (report _ _ _ _)
  · exact erased.trans (report _ _ _ _)

theorem onSensorState (c : Controller) (device : String) (payload : Json) :
    Within c (c.onSensorState formats device payload now) := by
  unfold Controller.onSensorState
  split
  · exact refl c
  split
  · exact refl c
  · next r _ =>
    have read : Within c { c with readings := c.readings.insert device r } := of_eq rfl rfl
    exact read.trans (evaluateAll _ _ now)

theorem onSwitchState (c : Controller) (device : String) (on : Bool) :
    Within c (c.onSwitchState device on now) := by
  unfold Controller.onSwitchState
  dsimp only
  have seen : Within c (c.see device fun s => { s with on := some on }) := of_eq rfl rfl
  refine seen.trans (foldl (fun c id => ?_) _ _)
  exact (modify c id _).trans (evaluate _ id now)

theorem restoreOwn (c : Controller) (id : String) (payload : Json) :
    Within c (Controller.restoreOwn formats c id payload now) := by
  unfold Controller.restoreOwn
  split
  · exact refl c
  dsimp only
  split
  · exact modify c id _
  refine (modify c id _).trans (foldl (fun c reading => ?_) _ _)
  rw [restoreReading]
  split
  · exact of_eq rfl rfl
  · exact refl c

theorem onState (c : Controller) (device : String) (payload : Json) :
    Within c (c.onState formats device payload now) := by
  unfold Controller.onState
  split
  · next id own =>
    split
    · exact refl c
    · have noted : Within c { c with ownRestored := id :: c.ownRestored } := of_eq rfl rfl
      exact noted.trans (restoreOwn _ id payload)
  · next other =>
    have taken : Within c (c.taken formats device payload now) := by
      unfold Controller.taken
      refine Within.trans ?_ (onSensorState _ device payload)
      have seen (change : Seen → Seen) : Within c (c.see device change) := of_eq rfl rfl
      split
      · exact (seen _).trans (settleCandidate _ device)
      · exact seen _
    cases interpretActuatorOn payload with
    | none => exact taken
    | some on => exact taken.trans (onSwitchState _ device on)

theorem onAvailability (c : Controller) (device : String) (online : Bool) :
    Within c (c.onAvailability device online now) := by
  unfold Controller.onAvailability
  split
  · exact refl c
  dsimp only
  refine Within.trans ?_ (evaluateAll _ _ now)
  have seen : Within c (c.see device fun s => { s with online := some online }) := of_eq rfl rfl
  split
  · exact seen.trans (map _ _)
  · exact seen

theorem tick (c : Controller) : Within c (c.tick now) := by
  unfold Controller.tick
  refine Within.trans (foldl (fun c device => ?_) _ c) (evaluateAll _ _ now)
  rw [dropCandidate]
  split
  · exact refl c
  · next candidate _ =>
    have erased : Within c { c with candidates := c.candidates.erase device } := of_eq rfl rfl
    exact (erased.trans (report _ _ _ _)).trans (of_eq rfl rfl)

theorem recalculateAll (c : Controller) (force : Bool) : Within c (c.recalculateAll force now) := by
  unfold Controller.recalculateAll
  dsimp only
  split
  · exact (map c _).trans (tick _)
  · exact tick c

theorem start (c : Controller) : Within c (c.start now) := by
  unfold Controller.start
  dsimp only
  refine Within.trans ?_ (evaluateAll _ _ now)
  have begun : Within c { c with started := true } := of_eq rfl rfl
  refine begun.trans (Within.trans ?_ (map _ _))
  exact of_eq rfl rfl

theorem applyLearned (c : Controller) (doc : Json) : Within c (c.applyLearned formats doc now) := by
  unfold Controller.applyLearned
  split
  · exact refl c
  dsimp only
  have restored (runtime : List (String × Json)) : Within c (runtime.foldl (fun c entry =>
      if entry.1 ∉ c.ownRestored && entry.1 ∈ c.therms then
        Controller.restoreOwn formats c entry.1 entry.2 now
      else c) c) := by
    refine foldl (fun c entry => ?_) runtime c
    split
    · exact restoreOwn c entry.1 entry.2
    · exact refl c
  split
  · exact restored _
  refine (restored _).trans (Within.trans (foldl (fun c entry => ?_) _ _) (of_eq rfl rfl))
  split
  · exact refl c
  · exact modify c entry.1 _

end Within

theorem filesKnown_new (entries : List ThermostatEntry) : FilesKnown (new entries) := by
  intro other t found
  have member : other ∈ (new entries).therms :=
    Std.ExtTreeMap.mem_iff_isSome_getElem?.mpr (Option.isSome_of_mem found)
  have inFile : other ∈ (new entries).fileEntries := by
    simp only [new, Std.ExtTreeMap.mem_ofList, List.map_map] at member ⊢
    exact member
  exact Option.isSome_iff_exists.mp (Std.ExtTreeMap.mem_iff_isSome_getElem?.mp inFile)

theorem filesKnown_add (known : FilesKnown c) (entry : ThermostatEntry) : FilesKnown (c.add entry now) := by
  have added : FilesKnown { c with
      fileEntries := c.fileEntries.insert entry.id entry
      therms := c.therms.insert entry.id (Thermo.added entry now) } := by
    intro other t found
    dsimp only at found ⊢
    rw [Std.ExtTreeMap.getElem?_insert] at found ⊢
    split
    · exact ⟨entry, rfl⟩
    · next apart =>
      rw [if_neg apart] at found
      exact known other t found
  unfold add
  dsimp only
  refine Within.known (Within.evaluate _ entry.id now) ?_
  split
  · exact (Within.resubscribe _ c.usedIds).trans (.of_eq rfl rfl) |>.known added
  · exact (Within.resubscribe _ c.usedIds).known added

theorem filesKnown_remove (known : FilesKnown c) (id : String) : FilesKnown (c.remove id) := by
  unfold remove
  split
  · exact known
  dsimp only
  refine Within.known (Within.resubscribe _ c.usedIds) ?_
  intro other t found
  dsimp only at found ⊢
  rw [Std.ExtTreeMap.getElem?_erase] at found ⊢
  split
  · next same =>
    rw [if_pos same] at found
    cases found
  · next apart =>
    rw [if_neg apart] at found
    exact known other t found

theorem filesKnown_operate (known : FilesKnown c) (operation : Operation) :
    FilesKnown (c.operate formats operation now) := by
  cases operation with
  | learned doc => exact (Within.applyLearned c doc).known known
  | start => exact (Within.start c).known known
  | input input =>
    cases input with
    | state device payload => exact (Within.onState c device payload).known known
    | availability device online => exact (Within.onAvailability c device online).known known
    | command device payload => exact (Within.onCommand c device payload).known known
    | tick => exact (Within.tick c).known known
    | add entry => exact filesKnown_add known entry
    | remove id => exact filesKnown_remove known id
    | recalculateAll force => exact (Within.recalculateAll c force).known known
    | shutdown => exact (Within.of_eq rfl rfl).known known

theorem filesKnown_run (formats : Formats) (entries : List ThermostatEntry)
    (operations : List (Operation × DateTime)) : FilesKnown (run formats entries operations) := by
  induction operations using List.reverseRecOn with
  | nil => exact filesKnown_new entries
  | append_singleton front operation ih =>
    rw [run, List.foldl_concat]
    exact (Within.of_eq rfl rfl).known (filesKnown_operate ih operation.1)

/-- In every state that a controller can reach: the reports of a command for a thermostat are
sound if and only if it is not half written, and the reports that were put off are sound. -/
theorem reports_sound (formats : Formats) (entries : List ThermostatEntry)
    (operations : List (Operation × DateTime)) :
    let c := run formats entries operations
    (∀ (id : String) t p now, c.therms[id]? = some t →
      ((∀ report, c.commandReport formats id t p now = some report → report.Sound formats c) ↔
        ¬ HalfWritten formats t p)) ∧
      (∀ device now report, c.settleReport formats device now = some report → report.Sound formats c) ∧
      ∀ device report, c.dropReport device = some report → report.Sound formats c := by
  intro c
  have known : FilesKnown c := filesKnown_run formats entries operations
  refine ⟨fun id t p now found => ?_, fun device now report isReport => ?_, fun device report isReport => ?_⟩
  · exact commandReport_sound_iff known found p now
  · exact settleReport_sound known isReport
  · exact dropReport_sound isReport

/-- Off, and to 200 °C. -/
def offAndTooHot : Json := .obj [("hvac_mode", .str "off"), ("setpoint", .num (.posInt 200))]

theorem refused_target_sets_mode :
    let c := run OffWatch.plain [OffWatch.den] []
    ∃ t report, c.therms["den"]? = some t ∧
      c.commandReport OffWatch.plain "den" t offAndTooHot 0 = some report ∧
      report.error.isSome = true ∧ t.cfg.mode = .cool ∧
      report.state.therms["den"]?.map (·.cfg.mode) = some .off ∧ report.persisted = none ∧
      ¬ report.Sound OffWatch.plain c := by
  intro c
  have found : c.therms["den"]? = some (Thermo.new OffWatch.den) := rfl
  refine ⟨Thermo.new OffWatch.den, ⟨"den", c.modify "den" (modeWritten .off), some _, none⟩, found, rfl, rfl,
    rfl, ?_, rfl, fun sound => ?_⟩
  · decide
  · have stood := sound.refused rfl "den"
    have modes := congrArg (Option.map (·.cfg.mode)) stood
    revert modes
    decide

end HomeCore.Thermostat.Controller
