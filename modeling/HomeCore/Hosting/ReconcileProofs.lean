import HomeCore.Hosting.InstallProofs
import HomeCore.Hosting.Reconcile

/-! What a runtime runs is what core placed there: whatever fails, and wherever the host is killed, it
runs complete versions only, and a pass that gets to its end runs what core answered. -/
namespace HomeCore.Hosting
open Stepwise
open TopicMap (Text placeholder)

section Sound
variable (world : World) (tools : Tools) (adapter : Adapter) (root : String) (answered : List Desired)

/-- Core answered with this version of the plugin, and the bytes have the digest that it gave. -/
def Accepted (id version : String) (artifact : List UInt8) : Prop :=
  ∃ d ∈ answered, d.pluginId = id ∧ d.version = version ∧ verifySha256 tools artifact d.sha256 = .ok ()

/-- The command is the adapter's launch command for the version's directory. -/
def Launched (id version : String) (argv : List Text) : Prop :=
  ∃ m entrypoint ui,
    render (world.hash m) adapter.launch (Installed.launchVars root ⟨id, version, entrypoint, ui⟩) = .ok argv

/-- What runs was answered by core, and a task that is not told to stop launches it from a directory that
is marked. -/
structure RunsPlaced (host : Host) (id : String) (running : Running) : Prop where
  placed : ∃ d ∈ answered, d.pluginId = id ∧ d.version = running.version ∧ d.config = running.config
  installed : marked (host.disk id running.version) = true
  task : ∃ task, host.tasks[running.task]? = some task ∧ task.pluginId = id ∧ task.shutdown = false ∧
    Launched world adapter root id running.version task.argv

structure Sound (host : Host) : Prop where
  disk : ∀ id version,
    Sealed world tools adapter root (Accepted tools answered id version) id version (host.disk id version)
  running : ∀ id running, host.running[id]? = some running →
    RunsPlaced world adapter root answered host id running
  /-- No plugin has two tasks, and no task is left behind. -/
  tasks : ∀ (k : Nat) (task : Task), host.tasks[k]? = some task → task.shutdown = false →
    ∃ running : Running, host.running[task.pluginId]? = some running ∧ running.task = k

end Sound

variable {world : World} {tools : Tools} {adapter : Adapter} {root : String} {answered : List Desired}
  {before host : Host} {id version : String}

/-! ## What the steps of a pass do to a sound host -/

theorem Sound.beside (sound : Sound world tools adapter root answered before)
    (beside : Beside before id version host)
    (isSealed : Sealed world tools adapter root (Accepted tools answered id version) id version
      (host.disk id version))
    (stays : marked (before.disk id version) = true → marked (host.disk id version) = true) :
    Sound world tools adapter root answered host where
  disk i v := by
    by_cases same : (i, v) = (id, version)
    · cases same
      exact isSealed
    · rw [beside.others i v same]
      exact sound.disk i v
  running i running found := by
    rw [beside.running] at found
    have runs := sound.running i running found
    refine ⟨runs.placed, ?_, ?_⟩
    · by_cases same : (i, running.version) = (id, version)
      · obtain ⟨rfl, rfl⟩ := Prod.mk.inj same
        exact stays runs.installed
      · rw [beside.others i _ same]
        exact runs.installed
    · rw [beside.tasks]
      exact runs.task
  tasks k task found live := by
    rw [beside.tasks] at found
    rw [beside.running]
    exact sound.tasks k task found live

theorem stop_running (i : String) :
    (host.stop id).running[i]? = if i = id then none else host.running[i]? := by
  rw [Host.stop]
  split
  next absent =>
    split
    next same => rw [same, absent]
    next => rfl
  next running found =>
    rw [Std.ExtTreeMap.getElem?_erase]
    exact if_congr (Std.compare_eq_iff_eq.trans eq_comm) rfl rfl

theorem stop_disk : (host.stop id).disk = host.disk := by
  rw [Host.stop]
  split
  next => rfl
  next => rfl

theorem Sound.stop (sound : Sound world tools adapter root answered host) :
    Sound world tools adapter root answered (host.stop id) := by
  cases found : host.running[id]? with
  | none =>
    rw [Host.stop, found]
    exact sound
  | some stopped =>
    obtain ⟨own, isOwn, ofId, -, -⟩ := (sound.running id stopped found).task
    have tasks : (host.stop id).tasks = host.tasks.modify stopped.task fun task => { task with shutdown := true } := by
      rw [Host.stop, found]
    constructor
    case disk =>
      rw [stop_disk]
      exact sound.disk
    case running =>
      intro i running runs
      rw [stop_running] at runs
      split at runs
      next => cases runs
      next other =>
        obtain ⟨placed, installed, task, isTask, ofPlugin, live, launched⟩ := sound.running i running runs
        refine ⟨placed, ?_, task, ?_, ofPlugin, live, launched⟩
        · rw [stop_disk]
          exact installed
        · rw [tasks, List.getElem?_modify_ne]
          · exact isTask
          · intro same
            rw [← same, isOwn, Option.some.injEq] at isTask
            exact other (by rw [← ofPlugin, ← isTask, ofId])
    case tasks =>
      intro k task isTask live
      rw [tasks] at isTask
      by_cases other : stopped.task = k
      · rw [← other, List.getElem?_modify_eq, isOwn] at isTask
        cases isTask
        cases live
      · rw [List.getElem?_modify_ne _ _ other] at isTask
        obtain ⟨running, runs, atK⟩ := sound.tasks k task isTask live
        refine ⟨running, ?_, atK⟩
        rw [stop_running, if_neg]
        · exact runs
        · intro same
          rw [same, found] at runs
          cases runs
          exact other atK

theorem Sound.start {d : Desired} {argv : List Text} {env : List (String × String)}
    (sound : Sound world tools adapter root answered host) (stopped : host.running[d.pluginId]? = none)
    (placed : d ∈ answered) (installed : marked (host.disk d.pluginId d.version) = true)
    (launched : Launched world adapter root d.pluginId d.version argv) :
    Sound world tools adapter root answered (host.start d argv env) := by
  constructor
  case disk => exact sound.disk
  case running =>
    intro i running runs
    rw [Host.start, Std.ExtTreeMap.getElem?_insert] at runs
    split at runs
    next same =>
      cases Std.compare_eq_iff_eq.mp same
      cases runs
      exact ⟨⟨d, placed, rfl, rfl, rfl⟩, installed, _, List.getElem?_concat_length, rfl, rfl, launched⟩
    next =>
      obtain ⟨isPlaced, isInstalled, task, isTask, parts⟩ := sound.running i running runs
      refine ⟨isPlaced, isInstalled, task, ?_, parts⟩
      rw [Host.start, List.getElem?_append_left (List.getElem?_eq_some_iff.mp isTask).1]
      exact isTask
  case tasks =>
    intro k task isTask live
    rw [Host.start, List.getElem?_append] at isTask
    rw [Host.start, Std.ExtTreeMap.getElem?_insert]
    split at isTask
    next =>
      obtain ⟨running, runs, atK⟩ := sound.tasks k task isTask live
      refine ⟨running, ?_, atK⟩
      rw [if_neg]
      · exact runs
      · intro same
        rw [← Std.compare_eq_iff_eq.mp same, stopped] at runs
        cases runs
    next notBefore =>
      rw [List.getElem?_singleton] at isTask
      split at isTask
      next atEnd =>
        cases isTask
        refine ⟨_, if_pos Std.ReflCmp.compare_self, ?_⟩
        show host.tasks.length = k
        omega
      next => cases isTask

theorem cleared_disk_self {removed : String → Removal} :
    (host.cleared id removed).disk id version = (host.disk id version).bind (removed version).apply := by
  rw [Host.cleared]
  exact congrFun (Function.update_self id _ host.disk) version

theorem cleared_disk_ne {removed : String → Removal} {i : String} (other : i ≠ id) :
    (host.cleared id removed).disk i version = host.disk i version := by
  rw [Host.cleared]
  exact congrFun (Function.update_of_ne other _ host.disk) version

theorem Sound.cleared {n : Nat} (sound : Sound world tools adapter root answered host)
    (stopped : host.running[id]? = none) :
    Sound world tools adapter root answered (host.cleared id (world.removed n)) where
  disk i v := by
    by_cases same : i = id
    · rw [same, cleared_disk_self]
      exact (sound.disk id v).removed
    · rw [cleared_disk_ne same]
      exact sound.disk i v
  running i running found := by
    have runs := sound.running i running found
    refine ⟨runs.placed, ?_, runs.task⟩
    have other : i ≠ id := by
      rintro rfl
      exact Option.some_ne_none running (found.symm.trans stopped)
    rw [cleared_disk_ne other]
    exact runs.installed
  tasks := sound.tasks

/-- An effect is counted, and that is all. -/
theorem Sound.counted {effects : Nat} (sound : Sound world tools adapter root answered host) :
    Sound world tools adapter root answered { host with effects } where
  disk := sound.disk
  running i running found := by
    obtain ⟨placed, installed, task⟩ := sound.running i running found
    exact ⟨placed, installed, task⟩
  tasks := sound.tasks

theorem Sound.mono {more : List Desired} (sound : Sound world tools adapter root answered host) :
    Sound world tools adapter root (answered ++ more) host where
  disk i v := by
    refine (sound.disk i v).mono ?_
    rintro artifact ⟨d, member, fits⟩
    exact ⟨d, List.mem_append_left _ member, fits⟩
  running i running found := by
    obtain ⟨⟨d, member, fits⟩, installed, task⟩ := sound.running i running found
    exact ⟨⟨d, List.mem_append_left _ member, fits⟩, installed, task⟩
  tasks := sound.tasks

theorem Sound.stopAll (sound : Sound world tools adapter root answered host) :
    Sound world tools adapter root answered host.stopAll := by
  rw [Host.stopAll]
  generalize host.running.keys = ids
  induction ids generalizing host with
  | nil => exact sound
  | cons id rest ih => exact ih sound.stop

theorem Sound.rebooted (sound : Sound world tools adapter root answered host) :
    Sound world tools adapter root answered host.rebooted where
  disk := sound.disk
  running i running found := by
    rw [Host.rebooted, Std.ExtTreeMap.getElem?_empty] at found
    cases found
  tasks k task found := by
    rw [Host.rebooted, List.getElem?_nil] at found
    cases found

/-! ## One plugin -/

/-- The host is sound, and runs what it ran. -/
structure Kept (world : World) (tools : Tools) (adapter : Adapter) (root : String) (answered : List Desired)
    (before host : Host) : Prop where
  sound : Sound world tools adapter root answered host
  running : host.running = before.running

/-- The plugin runs as desired; and where it did so before, it was left alone. -/
def RunsDesired (before host : Host) (d : Desired) : Prop :=
  ∃ running, host.running[d.pluginId]? = some running ∧ running.version = d.version ∧ running.config = d.config ∧
    ∀ old, before.running[d.pluginId]? = some old → old.version = d.version → old.config = d.config →
      old = running

theorem marked_updated {dir : Option VersionDir} {config : Option String} (isMarked : marked dir = true) :
    marked (updated dir fun dir => { dir with config }) = true := by
  cases dir with
  | none => cases isMarked
  | some kept => exact isMarked

theorem Sealed.configured {placed : List UInt8 → Prop} {dir : Option VersionDir} {config : Option String}
    (isMarked : marked dir = true) (isSealed : Sealed world tools adapter root placed id version dir) :
    Sealed world tools adapter root placed id version (updated dir fun dir => { dir with config }) := by
  cases dir with
  | none => cases isMarked
  | some kept =>
    obtain ⟨pkg, env, parts⟩ := isSealed kept rfl isMarked
    exact Left.sealed ⟨pkg, env, parts⟩

theorem ensures_fetchArtifact {d : Desired} {fits : Option VersionDir → Prop} :
    Ensures (Holding before id version fits) (fetchArtifact world tools d)
      (fun bytes host => Holding before id version fits host ∧ verifySha256 tools bytes d.sha256 = .ok ())
      (fun _ host => Holding before id version fits host) := by
  rw [fetchArtifact]
  refine Ensures.through (fun _ => Holding before id version fits) ?_ fun bytes => ?_
  · refine ensures_effect fun host holding => ?_
    have still : Holding before id version fits { host with effects := host.effects + 1 } :=
      ⟨⟨holding.beside.running, holding.beside.tasks, holding.beside.others⟩, holding.fits⟩
    exact ⟨fun _ => still, fun _ _ => still⟩
  · refine ensures_lift.bind fun _ => ensures_pure fun host verified => verified

/-- Whatever becomes of it, provisioning a placed plugin leaves the host sound and what it runs alone; and
where it succeeds, the version is marked. -/
theorem ensures_provision {d : Desired} (sound : Sound world tools adapter root answered before)
    (placed : d ∈ answered) :
    Ensures (· = before) (provision world tools adapter root d)
      (fun installed host => installed.names d.pluginId d.version ∧
        Kept world tools adapter root answered before host ∧
        marked (host.disk d.pluginId d.version) = true)
      (fun _ => Kept world tools adapter root answered before) := by
  have isSealed := sound.disk d.pluginId d.version
  have kept (host : Host) {fits : Option VersionDir → Prop}
      (holding : Holding before d.pluginId d.version fits host)
      (seals : ∀ dir, fits dir → Sealed world tools adapter root
        (Accepted tools answered d.pluginId d.version) d.pluginId d.version dir)
      (stays : marked (before.disk d.pluginId d.version) = true → ∀ dir, fits dir → marked dir = true) :
      Kept world tools adapter root answered before host :=
    ⟨sound.beside holding.beside (seals _ holding.fits) fun was => stays was _ holding.fits, holding.beside.running⟩
  rw [provision]
  refine ensures_get fun host isBefore => ensures_ite (fun present => ?_) fun absent => ?_
  · rw [isBefore, Host.isInstalled, Bool.and_eq_true] at present
    have holds : Holding before d.pluginId d.version (fun dir => marked dir = true ∧
        Sealed world tools adapter root (Accepted tools answered d.pluginId d.version) d.pluginId d.version dir)
        before :=
      ⟨Beside.refl, present.2, isSealed⟩
    have still (host : Host) (holding : Holding before d.pluginId d.version (fun dir => marked dir = true ∧
        Sealed world tools adapter root (Accepted tools answered d.pluginId d.version) d.pluginId d.version dir)
        host) : Kept world tools adapter root answered before host :=
      kept host holding (fun _ fits => fits.2) fun _ _ fits => fits.1
    refine (ensures_existing.weaken (fun _ same => ?_) (fun _ _ ends => ends) fun _ => still).bind fun installed => ?_
    · rw [same, isBefore]
      exact holds
    refine ensures_of (fun _ start => start.1) fun names => ?_
    refine ((ensures_writeConfig ?_).weaken (fun _ start => start.2) (fun _ _ ends => ends)
      fun _ => still).bind fun _ => ?_
    · exact fun dir config fits => ⟨marked_updated fits.1, fits.2.configured fits.1⟩
    · exact ensures_pure fun host holding => ⟨names, still host holding, holding.fits.1⟩
  · have unmarked : marked (before.disk d.pluginId d.version) = false := by
      rw [Bool.eq_false_iff]
      intro isMarked
      obtain ⟨dir, found, hasMarker⟩ := Option.any_eq_true .. |>.mp isMarked
      obtain ⟨pkg, env, whole, -⟩ := isSealed dir found hasMarker
      refine absent ?_
      rw [isBefore, Host.isInstalled, isMarked, whole.named]
      rfl
    have never {α : Prop} (was : marked (before.disk d.pluginId d.version) = true) : α := by
      rw [unmarked] at was
      cases was
    refine (ensures_fetchArtifact.weaken (fun _ same => ?_) (fun _ _ ends => ends) fun _ host holding =>
      kept host holding (fun _ => sealed_of_unmarked) fun was => never was).bind fun bytes => ?_
    · rw [same, isBefore]
      exact ⟨Beside.refl, unmarked⟩
    refine ensures_of (fun _ start => start.2) fun verified => ?_
    have accepted : Accepted tools answered d.pluginId d.version bytes := ⟨d, placed, rfl, rfl, verified⟩
    refine (ensures_install accepted).weaken (fun _ start => start.1) ?_ ?_
    · rintro installed host ⟨names, holding⟩
      exact ⟨names, kept host holding (fun _ fits => fits.2) fun was => never was, holding.fits.1⟩
    · exact fun _ host holding => kept host holding (fun _ fits => fits) fun was => never was

/-- What it is to have turned to one plugin. -/
structure Turned (world : World) (tools : Tools) (adapter : Adapter) (root : String) (answered : List Desired)
    (before : Host) (d : Desired) (host : Host) : Prop where
  sound : Sound world tools adapter root answered host
  runs : RunsDesired before host d
  others : ∀ id, id ≠ d.pluginId → host.running[id]? = before.running[id]?

theorem ensures_convergeOne {d : Desired} (sound : Sound world tools adapter root answered before)
    (placed : d ∈ answered) :
    Ensures (· = before) (convergeOne world tools adapter root d)
      (fun _ => Turned world tools adapter root answered before d)
      (fun _ => Kept world tools adapter root answered before) := by
  rw [convergeOne]
  refine ensures_get fun host isBefore => ensures_ite (fun same => ?_) fun differs => ?_
  · refine ensures_pure fun now isNow => ?_
    rw [isBefore] at same isNow
    obtain ⟨running, found, fits⟩ := Option.any_eq_true .. |>.mp same
    rw [Bool.and_eq_true, decide_eq_true_eq, decide_eq_true_eq] at fits
    rw [isNow]
    refine ⟨sound, ⟨running, found, fits.1, fits.2, fun old isOld _ _ => ?_⟩, fun _ _ => rfl⟩
    exact Option.some.inj (isOld.symm.trans found)
  · rw [isBefore] at differs
    refine ((ensures_provision sound placed).weaken (fun _ start => start.trans isBefore) (fun _ _ ends => ends)
      fun _ _ stops => stops).bind fun installed => ?_
    refine (ensures_renderNow.weaken (fun _ start => start) (fun _ _ ends => ends)
      fun _ _ stops => stops.2.1).bind fun argv => ?_
    refine ensures_of (fun _ start => start.2) ?_
    rintro ⟨m, rendered⟩
    refine Ensures.through (fun _ => Turned world tools adapter root answered before d) ?_ fun _ =>
      ensures_pure fun _ turned => turned
    refine ensures_modify ?_
    rintro now ⟨⟨names, kept, installs⟩, -⟩
    have stopped : (now.stop d.pluginId).running[d.pluginId]? = none := by
      rw [stop_running, if_pos rfl]
    have launched : Launched world adapter root d.pluginId d.version argv := by
      refine ⟨m, installed.entrypoint, installed.uiDir, ?_⟩
      rw [← names.pluginId, ← names.version]
      exact rendered
    refine ⟨kept.sound.stop.start stopped placed ?_ launched, ?_, ?_⟩
    · rw [stop_disk]
      exact installs
    · refine ⟨⟨d.version, d.config, (now.stop d.pluginId).tasks.length⟩, ?_, rfl, rfl, ?_⟩
      · rw [Host.start, Std.ExtTreeMap.getElem?_insert_self]
      · intro old isOld sameVersion sameConfig
        refine absurd ?_ differs
        rw [isOld, Option.any_some, sameVersion, sameConfig, decide_eq_true rfl, decide_eq_true rfl]
        rfl
    · intro id other
      rw [Host.start, Std.ExtTreeMap.getElem?_insert, if_neg, stop_running, if_neg other, kept.running]
      exact fun same => other (Std.compare_eq_iff_eq.mp same).symm

/-! ## A pass -/

/-- The plugin runs as desired, or it is listed as failed and left as it was. -/
def Settled (before : Host) (pass : Pass) (host : Host) (d : Desired) : Prop :=
  RunsDesired before host d ∨
    d.pluginId ∈ pass.failed.map Prod.fst ∧ host.running[d.pluginId]? = before.running[d.pluginId]?

theorem Settled.later {d : Desired} {pass pass' : Pass} {host' : Host} (settled : Settled before pass host d)
    (more : ∀ id ∈ pass.failed.map Prod.fst, id ∈ pass'.failed.map Prod.fst)
    (same : host'.running[d.pluginId]? = host.running[d.pluginId]?) : Settled before pass' host' d := by
  cases settled with
  | inl runs =>
    left
    rw [RunsDesired, same]
    exact runs
  | inr failed => exact .inr ⟨more _ failed.1, same.trans failed.2⟩

theorem Settled.since {d : Desired} {pass : Pass} {host' : Host} (settled : Settled host pass host' d)
    (same : host.running[d.pluginId]? = before.running[d.pluginId]?) : Settled before pass host' d := by
  rw [Settled, RunsDesired, same] at settled
  exact settled

/-- The desired plugins of the list are settled, and no other is touched. -/
structure Turns (world : World) (tools : Tools) (adapter : Adapter) (root : String) (answered : List Desired)
    (before : Host) (desired : List Desired) (first : Pass) (pass : Pass) (host : Host) : Prop where
  sound : Sound world tools adapter root answered host
  each : ∀ d ∈ desired, Settled before pass host d
  others : ∀ id, id ∉ desired.map Desired.pluginId → host.running[id]? = before.running[id]?
  failed : ∀ id ∈ first.failed.map Prod.fst, id ∈ pass.failed.map Prod.fst

theorem add_failed {pass : Pass} {outcome : Converged} : (pass.add id outcome).failed = pass.failed := by
  cases outcome with
  | unchanged => rfl
  | started => rfl
  | restarted => rfl

theorem ensures_convergeNext {pass : Pass} {d : Desired} (sound : Sound world tools adapter root answered before)
    (placed : d ∈ answered) :
    Ensures (· = before) (convergeNext world tools adapter root pass d)
      (Turns world tools adapter root answered before [d] pass)
      (fun _ => Sound world tools adapter root answered) := by
  rw [convergeNext]
  refine ensures_onError (fun _ => Kept world tools adapter root answered before) ?_
    (fun host kept => kept.sound) fun e => ?_
  · refine (ensures_convergeOne sound placed).bind fun outcome => ensures_pure fun host turned => ?_
    refine ⟨turned.sound, ?_, fun id other => turned.others id ?_, ?_⟩
    · intro other isD
      cases List.mem_singleton.mp isD
      exact .inl turned.runs
    · rwa [List.map_singleton, List.mem_singleton] at other
    · rw [add_failed]
      exact fun _ failed => failed
  · refine ensures_pure fun host kept => ⟨kept.sound, ?_, fun id _ => by rw [kept.running], ?_⟩
    · intro other isD
      cases List.mem_singleton.mp isD
      exact .inr ⟨by simp, by rw [kept.running]⟩
    · intro id failed
      rw [List.map_append]
      exact List.mem_append_left _ failed

/-- By induction on the list: no later plugin touches an earlier one, since no id is listed twice. -/
theorem ensures_convergeAll {desired : List Desired} (once : (desired.map Desired.pluginId).Nodup)
    (placed : ∀ d ∈ desired, d ∈ answered) (sound : Sound world tools adapter root answered before)
    (first : Pass) :
    Ensures (· = before) (desired.foldlM (convergeNext world tools adapter root) first)
      (Turns world tools adapter root answered before desired first)
      (fun _ => Sound world tools adapter root answered) := by
  induction desired generalizing before first with
  | nil =>
    refine ensures_pure fun host same => ?_
    rw [same]
    exact ⟨sound, by simp, fun _ _ => rfl, fun _ failed => failed⟩
  | cons d rest ih =>
    rw [List.map_cons, List.nodup_cons] at once
    rw [List.foldlM_cons]
    refine (ensures_convergeNext sound (placed d List.mem_cons_self)).bind fun pass => ?_
    intro middle turned
    have later := ih once.2 (fun e member => placed e (List.mem_cons_of_mem d member)) turned.sound pass middle rfl
    revert later
    refine meets_mono (fun pass' host turns => ?_) (fun _ _ stops => stops)
    refine ⟨turns.sound, ?_, ?_, fun id failed => turns.failed id (turned.failed id failed)⟩
    · intro e member
      cases List.mem_cons.mp member with
      | inl isD =>
        rw [isD]
        exact (turned.each d List.mem_cons_self).later turns.failed (turns.others _ once.1)
      | inr isRest =>
        refine (turns.each e isRest).since (turned.others _ ?_)
        rw [List.map_singleton, List.mem_singleton]
        intro same
        exact once.1 (same ▸ List.mem_map_of_mem isRest)
    · intro id other
      rw [List.map_cons, List.mem_cons, not_or] at other
      rw [turns.others id other.2]
      refine turned.others id ?_
      rw [List.map_singleton, List.mem_singleton]
      exact other.1

/-- The departed plugins do not run, and no other is touched. -/
structure Departs (world : World) (tools : Tools) (adapter : Adapter) (root : String) (answered : List Desired)
    (before : Host) (departed : List String) (host : Host) : Prop where
  sound : Sound world tools adapter root answered host
  gone : ∀ id ∈ departed, host.running[id]? = none
  others : ∀ id, id ∉ departed → host.running[id]? = before.running[id]?

theorem ensures_depart {pass : Pass} (sound : Sound world tools adapter root answered before) :
    Ensures (· = before) (depart world pass id)
      (fun _ => Departs world tools adapter root answered before [id])
      (fun _ => Sound world tools adapter root answered) := by
  have stopped : (before.stop id).running[id]? = none := by
    rw [stop_running, if_pos rfl]
  have departs (host : Host) (isSound : Sound world tools adapter root answered host)
      (running : host.running = (before.stop id).running) :
      Departs world tools adapter root answered before [id] host := by
    refine ⟨isSound, fun i member => ?_, fun i other => ?_⟩
    · rw [running, List.mem_singleton.mp member, stopped]
    · rw [running, stop_running, if_neg fun same => other (List.mem_singleton.mpr same)]
  rw [depart]
  refine Ensures.through (fun _ host => host = before.stop id) ?_ fun _ => ?_
  · refine ensures_modify ?_
    rintro host rfl
    rfl
  refine Ensures.through (fun _ => Departs world tools adapter root answered before [id]) ?_ fun _ =>
    ensures_pure fun _ ends => ends
  rw [removePluginDir]
  split
  next =>
    refine ensures_pure fun host same => ?_
    rw [same]
    exact departs _ sound.stop rfl
  next =>
    refine ensures_effect fun host same => ?_
    rw [same]
    have cleared : Sound world tools adapter root answered
        (Host.cleared { before.stop id with effects := (before.stop id).effects + 1 } id
          (world.removed (before.stop id).effects)) :=
      sound.stop.counted.cleared stopped
    exact ⟨fun _ => cleared, fun _ _ => departs _ cleared rfl⟩

theorem ensures_departAll {departed : List String} (sound : Sound world tools adapter root answered before)
    (pass : Pass) :
    Ensures (· = before) (departed.foldlM (depart world) pass)
      (fun _ => Departs world tools adapter root answered before departed)
      (fun _ => Sound world tools adapter root answered) := by
  induction departed generalizing before pass with
  | nil =>
    refine ensures_pure fun host same => ?_
    rw [same]
    exact ⟨sound, by simp, fun _ _ => rfl⟩
  | cons id rest ih =>
    rw [List.foldlM_cons]
    refine (ensures_depart sound).bind fun pass middle departs => ?_
    have later := ih departs.sound pass middle rfl
    revert later
    refine meets_mono (fun _ host leave => ?_) (fun _ _ stops => stops)
    refine ⟨leave.sound, fun i member => ?_, fun i other => ?_⟩
    · by_cases isRest : i ∈ rest
      · exact leave.gone i isRest
      · rw [leave.others i isRest]
        exact departs.gone i (List.mem_singleton.mpr ((List.mem_cons.mp member).resolve_right isRest))
    · rw [List.mem_cons, not_or] at other
      rw [leave.others i other.2]
      exact departs.others i fun same => other.1 (List.mem_singleton.mp same)

/-- What runs is what is desired, but for what failed. -/
structure Matches (before : Host) (desired : List Desired) (pass : Pass) (host : Host) : Prop where
  only : ∀ id, host.running.contains id → id ∈ desired.map Desired.pluginId
  each : ∀ d ∈ desired, Settled before pass host d

theorem ensures_converge {desired : List Desired} (once : (desired.map Desired.pluginId).Nodup)
    (placed : ∀ d ∈ desired, d ∈ answered) (sound : Sound world tools adapter root answered before) :
    Ensures (· = before) (converge world tools adapter root desired)
      (fun pass host => Sound world tools adapter root answered host ∧ Matches before desired pass host)
      (fun _ => Sound world tools adapter root answered) := by
  rw [converge]
  refine ensures_get fun host isBefore => ?_
  rw [isBefore]
  generalize gone : (world.keys before.effects before.running.keys).filter
    (fun id => id ∉ desired.map Desired.pluginId) = departed
  have isDeparted (id : String) :
      id ∈ departed ↔ before.running.contains id ∧ id ∉ desired.map Desired.pluginId := by
    rw [← gone, List.mem_filter, (world.keys_perm _ _).mem_iff, Std.ExtTreeMap.mem_keys, decide_eq_true_eq]
    rfl
  refine (ensures_departAll sound _).bind fun first middle departs => ?_
  have later := ensures_convergeAll once placed departs.sound first middle rfl
  revert later
  refine meets_mono (fun pass now turns => ?_) (fun _ _ stops => stops)
  refine ⟨turns.sound, fun id runs => ?_, fun d member => ?_⟩
  · by_contra notDesired
    rw [Std.ExtTreeMap.contains_eq_isSome_getElem?, turns.others id notDesired] at runs
    by_cases leaves : id ∈ departed
    · rw [departs.gone id leaves] at runs
      cases runs
    · rw [departs.others id leaves, ← Std.ExtTreeMap.contains_eq_isSome_getElem?] at runs
      exact leaves ((isDeparted id).mpr ⟨runs, notDesired⟩)
  · refine (turns.each d member).since (departs.others _ fun leaves => ?_)
    exact ((isDeparted _).mp leaves).2 (List.mem_map_of_mem member)

/-! ## Core and the runtime -/

/-- Core answers each plugin once, since a placement is kept under its runtime and plugin. -/
theorem listPlacements_nodup (core : Core) (runtimeId : String) :
    ((core.listPlacements runtimeId).map Desired.pluginId).Nodup := by
  have keyed (entry : String × PlacementRecord) (member : entry ∈ core.placements.toList) :
      entry.1 = placementKey entry.2.runtimeId entry.2.pluginId :=
    core.keyed entry.1 entry.2 (Std.ExtTreeMap.mem_toList_iff_getElem?_eq_some.mp member)
  rw [Core.listPlacements, Core.placementsFor, List.map_map, ((List.mergeSort_perm _ _).map _).nodup_iff,
    List.Nodup, List.pairwise_map, List.pairwise_filter, List.pairwise_map]
  refine core.placements.distinct_keys_toList.imp_of_mem ?_
  intro a b isA isB differ ofA ofB same
  refine differ (Std.compare_eq_iff_eq.mpr ?_)
  rw [keyed a isA, keyed b isB, of_decide_eq_true ofA, of_decide_eq_true ofB]
  exact congrArg (placementKey runtimeId) same

structure Fleet.Sound (world : World) (tools : Tools) (adapter : Adapter) (root : String) (fleet : Fleet) :
    Prop where
  host : Hosting.Sound world tools adapter root fleet.answered fleet.host
  answer : ∀ desired, fleet.answer = some desired →
    (desired.map Desired.pluginId).Nodup ∧ ∀ d ∈ desired, d ∈ fleet.answered

theorem start_sound : Fleet.start.Sound world tools adapter root where
  host := by
    constructor
    case disk =>
      intro id version dir found
      cases found
    case running =>
      intro id running found
      cases (Std.ExtTreeMap.getElem?_empty (α := String)).symm.trans found
    case tasks =>
      intro k task found
      cases found
  answer := by
    intro desired found
    cases found

theorem step_sound (runtimeId : String) (fleet : Fleet) (input : FleetInput)
    (sound : fleet.Sound world tools adapter root) :
    (fleet.step world tools adapter root runtimeId input).Sound world tools adapter root := by
  cases input with
  | place runtimeId pluginId version sha256 bootstrap => exact ⟨sound.host, sound.answer⟩
  | withdraw pluginId => exact ⟨sound.host, sound.answer⟩
  | editConfig pluginId config => exact ⟨sound.host, sound.answer⟩
  | fetch arrives =>
    rw [Fleet.step, Fleet.fetch]
    cases arrives with
    | false => exact ⟨sound.host, by rintro _ ⟨⟩⟩
    | true =>
      refine ⟨sound.host.mono, ?_⟩
      rintro _ ⟨⟩
      exact ⟨listPlacements_nodup _ _, fun d member => List.mem_append_right _ member⟩
  | converge =>
    rw [Fleet.step, Fleet.converge]
    split
    next => exact sound
    next desired answer =>
      obtain ⟨once, placed⟩ := sound.answer desired answer
      have ensures := ensures_converge once placed sound.host
      split
      next pass host ended => exact ⟨(ensures.ended rfl ended).1, by rintro _ ⟨⟩⟩
      next stop host halted => exact ⟨(ensures.halted rfl halted).rebooted, by rintro _ ⟨⟩⟩
  | terminate => exact ⟨sound.host.stopAll, by rintro _ ⟨⟩⟩
  | reboot => exact ⟨sound.host.rebooted, by rintro _ ⟨⟩⟩

end HomeCore.Hosting
