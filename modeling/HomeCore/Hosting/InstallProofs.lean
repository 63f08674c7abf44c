import HomeCore.Hosting.Install

/-! An install leaves everything else as it is, and marks a directory only once it is complete. -/
namespace HomeCore.Hosting
open Stepwise
open TopicMap (Text HashOrder Vars)

section Whole
variable (world : World) (tools : Tools) (adapter : Adapter) (root : String)

/-- No removal that stops halfway leaves the marker. -/
def World.TakesMarkers : Prop := ∀ n version, (world.removed n version).TakesMarker

/-- A command of the adapter that succeeded, and what it made of an environment. -/
def Made (argv : List Text) (vars : Vars) (before after : Files) : Prop :=
  ∃ m n command, render (world.hash m) argv vars = .ok command ∧ world.ran n command before = (after, true)

/-- The environment is what the two commands made for the package of a manifest. -/
def Provisioned (id version : String) (pkg : Files) (manifest : Manifest) (env : Files) : Prop :=
  ∃ vars made, installVars tools root id version pkg manifest = .ok vars ∧
    Made world adapter.createEnv vars [] made ∧ Made world adapter.install vars made env

/-- The package is all of an artifact that was placed and that says what it is, and its environment is
provisioned. -/
structure Whole (placed : List UInt8 → Prop) (id version : String) (pkg env : Files) : Prop where
  named : versionDir id version = .ok ()
  unpacked : ∃ n artifact, placed artifact ∧ world.unpacked n artifact = (pkg, true)
  provisioned : ∃ manifest, readManifest tools pkg = .ok manifest ∧ manifest.id = id ∧
    manifest.version = version ∧ Provisioned world tools adapter root id version pkg manifest env

/-- What is left of a whole one; and all of it, where no removal leaves the marker behind. -/
def Left (placed : List UInt8 → Prop) (id version : String) (dir : VersionDir) : Prop :=
  ∃ pkg env, Whole world tools adapter root placed id version pkg env ∧
    dir.pkg.Sublist pkg ∧ dir.env.Sublist env ∧ (world.TakesMarkers → dir.pkg = pkg ∧ dir.env = env)

/-- A marked directory was complete when it was marked. -/
def Sealed (placed : List UInt8 → Prop) (id version : String) (dir : Option VersionDir) : Prop :=
  ∀ kept ∈ dir, kept.installed.isSome → Left world tools adapter root placed id version kept

end Whole

section Effects
variable {world : World} {tools : Tools} {adapter : Adapter} {root : String} {placed : List UInt8 → Prop}
  {id version : String} {before host : Host} {dir : Option VersionDir}

theorem marked_some {kept : VersionDir} : marked (some kept) = kept.installed.isSome := rfl

theorem sealed_of_unmarked (unmarked : marked dir = false) :
    Sealed world tools adapter root placed id version dir := by
  rintro kept rfl isMarked
  rw [marked_some, isMarked] at unmarked
  cases unmarked

theorem Whole.mono {more : List UInt8 → Prop} {pkg env : Files}
    (weaken : ∀ artifact, placed artifact → more artifact)
    (whole : Whole world tools adapter root placed id version pkg env) :
    Whole world tools adapter root more id version pkg env where
  named := whole.named
  unpacked := by
    obtain ⟨n, artifact, isPlaced, unpacked⟩ := whole.unpacked
    exact ⟨n, artifact, weaken artifact isPlaced, unpacked⟩
  provisioned := whole.provisioned

theorem Sealed.mono {more : List UInt8 → Prop} (weaken : ∀ artifact, placed artifact → more artifact)
    (isSealed : Sealed world tools adapter root placed id version dir) :
    Sealed world tools adapter root more id version dir := by
  intro kept found isMarked
  obtain ⟨pkg, env, whole, parts⟩ := isSealed kept found isMarked
  exact ⟨pkg, env, whole.mono weaken, parts⟩

theorem Left.sealed {kept : VersionDir} (left : Left world tools adapter root placed id version kept) :
    Sealed world tools adapter root placed id version (some kept) := by
  rintro _ ⟨⟩ -
  exact left

/-! ## Removals -/

/-- What a removal leaves of a directory marks it only if it was marked before. -/
theorem unmarked_removed {removal : Removal} (unmarked : marked dir = false) :
    marked (dir.bind removal.apply) = false := by
  cases dir with
  | none => rfl
  | some kept => cases removal with
    | complete => rfl
    | refused => exact unmarked
    | stopped keepsPkg keepsEnv keepsConfig keepsMarker => cases keepsMarker with
      | true => exact unmarked
      | false => rfl

theorem Sealed.removed {n : Nat} {answersFor : String}
    (isSealed : Sealed world tools adapter root placed id version dir) :
    Sealed world tools adapter root placed id version (dir.bind (world.removed n answersFor).apply) := by
  cases dir with
  | none => exact isSealed
  | some kept =>
    rw [Option.bind_some]
    cases removal : world.removed n answersFor with
    | complete => exact sealed_of_unmarked rfl
    | refused => exact isSealed
    | stopped keepsPkg keepsEnv keepsConfig keepsMarker => cases keepsMarker with
      | false => exact sealed_of_unmarked rfl
      | true =>
        rintro _ ⟨⟩ isMarked
        obtain ⟨pkg, env, whole, pkgLeft, envLeft, -⟩ := isSealed kept rfl isMarked
        refine ⟨pkg, env, whole, List.filter_sublist.trans pkgLeft, List.filter_sublist.trans envLeft, ?_⟩
        intro takes
        have taken := takes n answersFor
        rw [removal] at taken
        exact absurd taken Bool.noConfusion

/-! ## Rules -/

/-- The host runs what it ran before, and all other directories are as they were. -/
structure Beside (before : Host) (id version : String) (host : Host) : Prop where
  running : host.running = before.running
  tasks : host.tasks = before.tasks
  others : ∀ i v, (i, v) ≠ (id, version) → host.disk i v = before.disk i v

/-- The directory of the version is one that fits, and the rest is as before. -/
structure Holding (before : Host) (id version : String) (fits : Option VersionDir → Prop) (host : Host) :
    Prop where
  beside : Beside before id version host
  fits : fits (host.disk id version)

/-- It is launched as this version of this plugin. -/
structure Installed.names (installed : Installed) (id version : String) : Prop where
  pluginId : installed.pluginId = id
  version : installed.version = version

theorem Beside.refl : Beside before id version before := ⟨rfl, rfl, fun _ _ _ => rfl⟩

theorem setDir_self : (host.setDir id version dir).disk id version = dir := by
  simp [Host.setDir]

theorem Beside.setDir (beside : Beside before id version host) :
    Beside before id version (host.setDir id version dir) where
  running := beside.running
  tasks := beside.tasks
  others i v other := by
    rw [← beside.others i v other, Host.setDir]
    by_cases same : i = id
    · have differs : v ≠ version := fun isVersion => other (by rw [same, isVersion])
      simp [same, Function.update_of_ne differs]
    · simp [Function.update_of_ne same]

theorem Holding.weaken {fits also : Option VersionDir → Prop} (holding : Holding before id version fits host)
    (weaken : ∀ dir, fits dir → also dir) : Holding before id version also host :=
  ⟨holding.beside, weaken _ holding.fits⟩

theorem Holding.unmarked_sealed (holding : Holding before id version (fun dir => marked dir = false) host) :
    Holding before id version (Sealed world tools adapter root placed id version) host :=
  holding.weaken fun _ => sealed_of_unmarked

section Rules
variable {α : Type} {pre : Host → Prop} {stopped : Stop → Host → Prop}

theorem ensures_lift {answer : Except HostError α} :
    Ensures pre (lift answer) (fun a host => pre host ∧ answer = .ok a) (fun _ host => pre host) := by
  cases answer with
  | ok a => exact ensures_pure fun _ start => ⟨start, rfl⟩
  | error e => exact ensures_throw fun _ start => start

theorem ensures_effect {act : Nat → Host → Except HostError α × Host} {done : α → Host → Prop}
    (answers : ∀ host, pre host →
      (∀ stop, stopped stop (act host.effects { host with effects := host.effects + 1 }).2) ∧
      ∀ a, (act host.effects { host with effects := host.effects + 1 }).1 = .ok a →
        done a (act host.effects { host with effects := host.effects + 1 }).2) :
    Ensures pre (effect world act) done stopped := by
  rw [effect]
  refine ensures_get fun host start => ?_
  obtain ⟨stops, ends⟩ := answers host start
  generalize act host.effects { host with effects := host.effects + 1 } = result at stops ends
  refine Ensures.through (fun _ s => s = result.2) ?_ fun _ => ?_
  · exact fun _ _ => rfl
  refine ensures_ite (fun _ => ensures_throw ?_) fun _ => ?_
  · rintro _ rfl
    exact stops _
  refine ensures_lift.weaken (fun _ same => same) ?_ ?_
  · rintro a _ ⟨rfl, answered⟩
    exact ends a answered
  · rintro e _ rfl
    exact stops e

/-- A kill is passed on, and an error is handled. -/
theorem ensures_onError {job : HostM α} {handle : HostError → HostM α} {done : α → Host → Prop}
    (failed : Stop → Host → Prop) (tried : Ensures pre job done failed)
    (killed : ∀ host, failed .killed host → stopped .killed host)
    (handled : ∀ e, Ensures (failed (.error e)) (handle e) done stopped) :
    Ensures pre (onError job handle) done stopped := by
  refine tried.tryCatch fun stop => ?_
  cases stop with
  | killed => exact ensures_throw killed
  | error e => exact handled e

theorem ensures_renderNow {argv : List Text} {vars : Vars} :
    Ensures pre (renderNow world argv vars)
      (fun command host => pre host ∧ ∃ m, render (world.hash m) argv vars = .ok command)
      (fun _ host => pre host) := by
  refine ensures_get fun host start => ?_
  refine ensures_lift.weaken (fun _ same => same) ?_ ?_
  · rintro command _ ⟨rfl, rendered⟩
    exact ⟨start, _, rendered⟩
  · rintro _ _ rfl
    exact start

end Rules

variable {α : Type} {fits : Option VersionDir → Prop}

/-- An effect on the directory is seen there only. -/
theorem ensures_effectOn {act : Nat → Option VersionDir → Except HostError α × Option VersionDir}
    (ended : α → Option VersionDir → Prop) {stopped : Option VersionDir → Prop}
    (answers : ∀ n dir, fits dir →
      stopped (act n dir).2 ∧ ∀ a, (act n dir).1 = .ok a → ended a (act n dir).2) :
    Ensures (Holding before id version fits) (effectOn world id version act)
      (fun a => Holding before id version (ended a)) (fun _ => Holding before id version stopped) := by
  refine ensures_effect fun host holding => ?_
  obtain ⟨stops, ends⟩ := answers host.effects _ holding.fits
  have beside : Beside before id version { host with effects := host.effects + 1 } :=
    ⟨holding.beside.running, holding.beside.tasks, holding.beside.others⟩
  refine ⟨fun _ => ⟨beside.setDir, ?_⟩, fun a answered => ⟨beside.setDir, ?_⟩⟩
  · rw [setDir_self]
    exact stops
  · rw [setDir_self]
    exact ends a answered

theorem ensures_writeFile {text : String} {error : HostError} {put : Option String → VersionDir → VersionDir}
    {ended stopped : Option VersionDir → Prop}
    (wrote : ∀ dir, fits dir → ended (updated dir (put (some text))))
    (either : ∀ dir left, fits dir → stopped (updated dir (put left))) :
    Ensures (Holding before id version fits) (writeFile world id version text error put)
      (fun _ => Holding before id version ended) (fun _ => Holding before id version stopped) := by
  refine ensures_effectOn _ fun n dir isFit => ?_
  cases world.written n with
  | wrote => exact ⟨either dir _ isFit, fun _ _ => wrote dir isFit⟩
  | failed left =>
    refine ⟨either dir left isFit, ?_⟩
    rintro _ ⟨⟩

/-- Writing the config keeps what does not depend on it. -/
theorem ensures_writeConfig {config : String}
    (keeps : ∀ dir config, fits dir → fits (updated dir fun dir => { dir with config })) :
    Ensures (Holding before id version fits) (writeConfig world id version config)
      (fun _ => Holding before id version fits) (fun _ => Holding before id version fits) := by
  refine ensures_get fun host holding => ensures_ite (fun _ => ensures_pure ?_) fun _ => ?_
  · rintro _ rfl
    exact holding
  · refine (ensures_writeFile (fun dir => keeps dir _) keeps).weaken ?_ (fun _ _ ends => ends) fun _ _ ends => ends
    rintro _ rfl
    exact holding

theorem ensures_removeVersionDir (keeps : ∀ n dir, fits dir → fits (dir.bind (world.removed n version).apply)) :
    Ensures (Holding before id version fits) (removeVersionDir world id version)
      (fun _ => Holding before id version fits) (fun _ => Holding before id version fits) :=
  ensures_effectOn _ fun n dir isFit => ⟨keeps n dir isFit, fun _ _ => keeps n dir isFit⟩

/-! ## The stages of an install -/

/-- Not marked yet, with this package and environment. -/
def Filled (pkg env : Files) (dir : Option VersionDir) : Prop := ∃ config, dir = some ⟨pkg, env, config, none⟩

theorem Filled.sealed {pkg env : Files} (filled : Filled pkg env dir) :
    Sealed world tools adapter root placed id version dir := by
  obtain ⟨config, rfl⟩ := filled
  exact sealed_of_unmarked rfl

theorem succeeded_of_ok {succeeded : Bool} {e : HostError} {a b : α}
    (answered : (if succeeded then .ok a else .error e : Except HostError α) = .ok b) :
    succeeded = true ∧ a = b := by
  cases succeeded with
  | true => exact ⟨rfl, Except.ok.inj answered⟩
  | false => cases answered

theorem ensures_makeDir :
    Ensures (Holding before id version fun dir => marked dir = false) (makeDir world id version)
      (fun _ => Holding before id version (Filled [] []))
      (fun _ => Holding before id version (Sealed world tools adapter root placed id version)) := by
  refine ensures_effectOn _ fun n dir unmarked => ?_
  cases world.makesDir n with
  | made => exact ⟨sealed_of_unmarked rfl, fun _ _ => ⟨none, rfl⟩⟩
  | failed left =>
    refine ⟨?_, by rintro _ ⟨⟩⟩
    cases left with
    | true => exact sealed_of_unmarked rfl
    | false => exact sealed_of_unmarked unmarked

theorem ensures_unpack {artifact : List UInt8} :
    Ensures (Holding before id version (Filled [] [])) (unpack world id version artifact)
      (fun pkg host =>
        Holding before id version (Filled pkg []) host ∧ ∃ n, world.unpacked n artifact = (pkg, true))
      (fun _ => Holding before id version (Sealed world tools adapter root placed id version)) := by
  refine (ensures_effectOn
    (fun pkg dir => Filled pkg [] dir ∧ ∃ n, world.unpacked n artifact = (pkg, true)) ?_).weaken
    (fun _ start => start) ?_ fun _ _ ends => ends
  · rintro n _ ⟨config, rfl⟩
    refine ⟨sealed_of_unmarked rfl, fun pkg answered => ?_⟩
    obtain ⟨all, rfl⟩ := succeeded_of_ok answered
    exact ⟨⟨config, rfl⟩, n, Prod.ext rfl all⟩
  · rintro pkg host ⟨beside, filled, unpacked⟩
    exact ⟨⟨beside, filled⟩, unpacked⟩

theorem ensures_run {pkg env : Files} {what : String} {argv : List Text} :
    Ensures (Holding before id version (Filled pkg env)) (run world id version what argv)
      (fun _ host =>
        ∃ made, Holding before id version (Filled pkg made) host ∧ ∃ n, world.ran n argv env = (made, true))
      (fun _ => Holding before id version (Sealed world tools adapter root placed id version)) := by
  refine (ensures_effectOn
    (fun _ dir => ∃ made, Filled pkg made dir ∧ ∃ n, world.ran n argv env = (made, true)) ?_).weaken
    (fun _ start => start) ?_ fun _ _ ends => ends
  · rintro n _ ⟨config, rfl⟩
    refine ⟨sealed_of_unmarked rfl, fun _ answered => ⟨_, ⟨config, rfl⟩, n, ?_⟩⟩
    exact Prod.ext rfl (succeeded_of_ok answered).1
  · rintro _ host ⟨beside, made, filled, ran⟩
    exact ⟨made, ⟨beside, filled⟩, ran⟩

theorem ensures_runRendered {pkg env : Files} {what : String} {template : List Text} {vars : Vars} :
    Ensures (Holding before id version (Filled pkg env)) (runRendered world id version what template vars)
      (fun _ host => ∃ made, Holding before id version (Filled pkg made) host ∧ Made world template vars env made)
      (fun _ => Holding before id version (Sealed world tools adapter root placed id version)) := by
  refine Ensures.bind (ensures_renderNow.weaken (fun _ start => start) (fun _ _ ends => ends)
    fun _ _ stops => stops.weaken fun _ => Filled.sealed) fun command => ?_
  refine ensures_of (fun _ start => start.2) ?_
  rintro ⟨m, rendered⟩
  refine ensures_run.weaken (fun _ start => start.1) ?_ fun _ _ stops => stops
  rintro _ host ⟨made, holding, n, ran⟩
  exact ⟨made, holding, m, n, command, rendered, ran⟩

theorem ensures_mark {pkg env : Files} (whole : Whole world tools adapter root placed id version pkg env) :
    Ensures (Holding before id version (Filled pkg env)) (mark world id version)
      (fun _ => Holding before id version fun dir =>
        marked dir = true ∧ Sealed world tools adapter root placed id version dir)
      (fun _ => Holding before id version (Sealed world tools adapter root placed id version)) := by
  have isLeft (config installed : Option String) :
      Sealed world tools adapter root placed id version (some ⟨pkg, env, config, installed⟩) :=
    Left.sealed ⟨pkg, env, whole, List.Sublist.refl pkg, List.Sublist.refl env, fun _ => ⟨rfl, rfl⟩⟩
  refine ensures_writeFile ?_ ?_
  · rintro _ ⟨config, rfl⟩
    exact ⟨rfl, isLeft config _⟩
  · rintro _ left ⟨config, rfl⟩
    exact isLeft config left

theorem ensures_provisionEnv {pkg : Files} {manifest : Manifest} {config : String}
    (named : versionDir id version = .ok ())
    (unpacked : ∃ n artifact, placed artifact ∧ world.unpacked n artifact = (pkg, true))
    (manifested : readManifest tools pkg = .ok manifest) (sameId : manifest.id = id)
    (sameVersion : manifest.version = version) :
    Ensures (Holding before id version (Filled pkg []))
      (provisionEnv world tools adapter root id version pkg manifest config)
      (fun _ => Holding before id version fun dir =>
        marked dir = true ∧ Sealed world tools adapter root placed id version dir)
      (fun _ => Holding before id version (Sealed world tools adapter root placed id version)) := by
  have filled {env : Files} (host : Host) (holding : Holding before id version (Filled pkg env) host) :
      Holding before id version (Sealed world tools adapter root placed id version) host :=
    holding.weaken fun _ => Filled.sealed
  rw [provisionEnv]
  refine (ensures_lift.weaken (fun _ start => start) (fun _ _ ends => ends) fun _ => filled).bind fun vars => ?_
  refine ensures_of (fun _ start => start.2) fun hasVars => ?_
  refine (ensures_runRendered.weaken (fun _ start => start.1) (fun _ _ ends => ends)
    fun _ _ stops => stops).bind fun _ => ?_
  refine ensures_exists fun created => ensures_of (fun _ start => start.2) fun creates => ?_
  refine (ensures_runRendered.weaken (fun _ start => start.1) (fun _ _ ends => ends)
    fun _ _ stops => stops).bind fun _ => ?_
  refine ensures_exists fun env => ensures_of (fun _ start => start.2) fun installs => ?_
  have keeps : ∀ dir config, Filled pkg env dir → Filled pkg env (updated dir fun dir => { dir with config }) := by
    rintro _ config ⟨old, rfl⟩
    exact ⟨config, rfl⟩
  refine ((ensures_writeConfig keeps).weaken (fun _ start => start.1) (fun _ _ ends => ends)
    fun _ => filled).bind fun _ => ?_
  exact ensures_mark
    ⟨named, unpacked, manifest, manifested, sameId, sameVersion, vars, created, hasVars, creates, installs⟩

theorem ensures_installInto {artifact : List UInt8} {config : String} (named : versionDir id version = .ok ())
    (isPlaced : placed artifact) :
    Ensures (Holding before id version fun dir => marked dir = false)
      (installInto world tools adapter root id version artifact config)
      (fun installed host => installed.names id version ∧ Holding before id version (fun dir =>
        marked dir = true ∧ Sealed world tools adapter root placed id version dir) host)
      (fun _ => Holding before id version (Sealed world tools adapter root placed id version)) := by
  have filled {env pkg : Files} (host : Host) (holding : Holding before id version (Filled pkg env) host) :
      Holding before id version (Sealed world tools adapter root placed id version) host :=
    holding.weaken fun _ => Filled.sealed
  rw [installInto]
  refine ensures_makeDir.bind fun _ => ensures_unpack.bind fun pkg => ?_
  refine ensures_of (fun _ start => start.2) ?_
  rintro ⟨n, unpacked⟩
  refine (ensures_lift.weaken (fun _ start => start.1) (fun _ _ ends => ends) fun _ => filled).bind fun manifest => ?_
  refine ensures_of (fun _ start => start.2) fun manifested => ensures_ite (fun _ => ?_) fun fits => ?_
  · exact ensures_throw fun host start => filled host start.1
  · rw [not_or, not_not, not_not] at fits
    refine ((ensures_provisionEnv named ⟨n, artifact, isPlaced, unpacked⟩ manifested fits.1 fits.2).weaken
      (fun _ start => start.1) (fun _ _ ends => ends) fun _ _ stops => stops).bind fun _ => ?_
    exact ensures_pure fun host marks => ⟨⟨rfl, rfl⟩, marks⟩

theorem ensures_clear :
    Ensures (Holding before id version fun dir => marked dir = false) (clear world id version)
      (fun _ => Holding before id version fun dir => marked dir = false)
      (fun _ => Holding before id version fun dir => marked dir = false) := by
  refine ensures_get fun host holding => ensures_ite (fun _ => ?_) fun _ => ensures_pure ?_
  · refine (ensures_removeVersionDir fun n dir => unmarked_removed).weaken ?_ (fun _ _ ends => ends)
      fun _ _ ends => ends
    rintro _ rfl
    exact holding
  · rintro _ rfl
    exact holding

/-- An install of an unmarked version touches its directory only, and marks it only once it is whole. -/
theorem ensures_install {artifact : List UInt8} {config : String} (isPlaced : placed artifact) :
    Ensures (Holding before id version fun dir => marked dir = false)
      (install world tools adapter root id version artifact config)
      (fun installed host => installed.names id version ∧ Holding before id version (fun dir =>
        marked dir = true ∧ Sealed world tools adapter root placed id version dir) host)
      (fun _ => Holding before id version (Sealed world tools adapter root placed id version)) := by
  rw [install]
  refine (ensures_lift.weaken (fun _ start => start) (fun _ _ ends => ends)
    fun _ host start => start.unmarked_sealed).bind fun _ => ?_
  refine ensures_of (fun _ start => start.2) fun named => ?_
  refine (ensures_clear.weaken (fun _ start => start.1) (fun _ _ ends => ends)
    fun _ host start => start.unmarked_sealed).bind fun _ => ?_
  refine ensures_onError _ (ensures_installInto named isPlaced) (fun host stops => stops) fun e => ?_
  refine Ensures.through (fun _ => Holding before id version (Sealed world tools adapter root placed id version))
    ?_ fun _ => ensures_throw fun host stops => stops
  refine ensures_onError _ (ensures_removeVersionDir fun n dir isSealed => isSealed.removed) (fun host stops => stops)
    fun _ => ensures_pure fun host stops => stops

/-- What is launched of a version on disk is read only. -/
theorem ensures_existing {pre : Host → Prop} :
    Ensures pre (existing tools id version) (fun installed host => installed.names id version ∧ pre host)
      (fun _ host => pre host) := by
  rw [existing]
  refine (ensures_lift.weaken (fun _ start => start) (fun _ _ ends => ends.1) fun _ _ start => start).bind fun _ => ?_
  refine ensures_get fun host start => ?_
  refine (ensures_lift.weaken (fun _ same => same) (fun _ _ ends => ends.1) fun _ now same => ?_).bind
    fun manifest => ?_
  · rw [same]
    exact start
  · refine ensures_pure fun now same => ⟨⟨rfl, rfl⟩, ?_⟩
    rw [same]
    exact start

end Effects
end HomeCore.Hosting
