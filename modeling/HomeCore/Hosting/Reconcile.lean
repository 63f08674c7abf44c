import HomeCore.Hosting.Install
import HomeCore.Runs

/-! Making what is running match what core says should be running: core holds the placements, and a
runtime asks for its own, then stops, installs and starts plugins until it runs those. -/
namespace HomeCore.Hosting
open TopicMap (Text)

/-! ## Core's side -/

/-- One plugin, placed on one runtime. -/
structure PlacementRecord where
  runtimeId : String
  pluginId : String
  version : String
  sha256 : String
  config : String
  deriving DecidableEq

def keySep : String := "\x1f"

def placementKey (runtimeId pluginId : String) : String := runtimeId ++ keySep ++ pluginId

/-- A plugin id as the name of its config file. -/
def slug (id : String) : String :=
  String.ofList (id.toList.map fun c => if c.isAlphanum || c ∈ ['.', '-', '_'] then c else '_')

/-- One plugin core says belongs on a runtime. -/
structure Desired where
  pluginId : String
  version : String
  sha256 : String
  config : String
  deriving DecidableEq

structure Core where
  placements : Std.ExtTreeMap String PlacementRecord
  /-- The config files of plugins, by their slugs. -/
  configs : Std.ExtTreeMap String String
  keyed : ∀ key record, placements[key]? = some record → key = placementKey record.runtimeId record.pluginId

namespace Core

def placementsFor (core : Core) (runtimeId : String) : List PlacementRecord :=
  ((core.placements.toList.map Prod.snd).filter fun record => record.runtimeId = runtimeId).mergeSort
    fun a b => compare a.pluginId b.pluginId != .gt

/-- What a runtime is answered: its placements, with the configs that are on disk now. -/
def listPlacements (core : Core) (runtimeId : String) : List Desired :=
  (core.placementsFor runtimeId).map fun record =>
    ⟨record.pluginId, record.version, record.sha256, core.configs[slug record.pluginId]?.getD record.config⟩

def place (core : Core) (record : PlacementRecord) : Core where
  placements := core.placements.insert (placementKey record.runtimeId record.pluginId) record
  configs := core.configs
  keyed key other found := by
    rw [Std.ExtTreeMap.getElem?_insert] at found
    split at found
    next same =>
      cases found
      exact (Std.compare_eq_iff_eq.mp same).symm
    next => exact core.keyed key other found

/-- Record that a plugin belongs on a runtime, and seed its config. -/
def placeOnRuntime (core : Core) (runtimeId pluginId version sha256 bootstrap : String) : Core :=
  let config := core.configs[slug pluginId]?.getD bootstrap
  { core with configs := core.configs.insert (slug pluginId) config }.place
    ⟨runtimeId, pluginId, version, sha256, config⟩

def unplace (core : Core) (runtimeId pluginId : String) : Core where
  placements := core.placements.erase (placementKey runtimeId pluginId)
  configs := core.configs
  keyed key record found := by
    rw [Std.ExtTreeMap.getElem?_erase] at found
    split at found
    · cases found
    · exact core.keyed key record found

/-- Where the plugin is placed, in the order of the keys. -/
def placementOf (core : Core) (pluginId : String) : Option PlacementRecord :=
  (core.placements.toList.map Prod.snd).find? fun record => record.pluginId = pluginId

/-- Uninstalling withdraws the placement. -/
def withdraw (core : Core) (pluginId : String) : Core :=
  match core.placementOf pluginId with
  | some record => core.unplace record.runtimeId pluginId
  | none => core

def editConfig (core : Core) (pluginId : String) (config : Option String) : Core :=
  { core with configs := match config with
      | some text => core.configs.insert (slug pluginId) text
      | none => core.configs.erase (slug pluginId) }

end Core

/-! ## The runtime's side -/

section Runtime
variable (world : World) (tools : Tools) (adapter : Adapter) (root : String)

/-- Compare the bytes against a hex digest, case-insensitively. -/
def verifySha256 (bytes : List UInt8) (expected : String) : Except HostError Unit :=
  let actual := tools.sha256 bytes
  if actual.toList.map Char.toLower = (trim expected.toList).map Char.toLower then .ok ()
  else .error (.digestMismatch expected actual)

def fetchArtifact (d : Desired) : HostM (List UInt8) := do
  let bytes ← effect world fun n host =>
    ((world.served n).elim (.error .fetching) .ok, host)
  lift (verifySha256 tools bytes d.sha256)
  return bytes

/-- Get this version onto disk, reusing it when it is already there. -/
def provision (d : Desired) : HostM Installed := do
  let host ← get
  if host.isInstalled d.pluginId d.version then
    let installed ← existing tools d.pluginId d.version
    writeConfig world d.pluginId d.version d.config
    return installed
  else
    let bytes ← fetchArtifact world tools d
    install world tools adapter root d.pluginId d.version bytes d.config

def Host.start (host : Host) (d : Desired) (argv : List Text) (env : List (String × String)) : Host :=
  { host with
    tasks := host.tasks ++ [⟨d.pluginId, argv, env, false⟩]
    running := host.running.insert d.pluginId ⟨d.version, d.config, host.tasks.length⟩ }

/-- Stop a plugin; whether it is gone in time or not, the host goes on. -/
def Host.stop (host : Host) (id : String) : Host :=
  match host.running[id]? with
  | none => host
  | some running => { host with
      running := host.running.erase id
      tasks := host.tasks.modify running.task fun task => { task with shutdown := true } }

def Host.stopAll (host : Host) : Host := host.running.keys.foldl Host.stop host

inductive Converged where
  | unchanged
  | started
  | restarted
  deriving DecidableEq

def convergeOne (d : Desired) : HostM Converged := do
  let host ← get
  if host.running[d.pluginId]?.any fun running => running.version = d.version && running.config = d.config then
    return .unchanged
  else
    let installed ← provision world tools adapter root d
    let argv ← renderNow world adapter.launch (installed.launchVars root)
    modify fun now => (now.stop d.pluginId).start d argv (installed.launchEnv root)
    return if host.running.contains d.pluginId then .restarted else .started

/-- What one pass did. -/
structure Pass where
  started : List String
  restarted : List String
  stopped : List String
  unchanged : List String
  failed : List (String × HostError)

def Pass.add (pass : Pass) (id : String) : Converged → Pass
  | .unchanged => { pass with unchanged := pass.unchanged ++ [id] }
  | .started => { pass with started := pass.started ++ [id] }
  | .restarted => { pass with restarted := pass.restarted ++ [id] }

def convergeNext (pass : Pass) (d : Desired) : HostM Pass :=
  onError
    (do
      let outcome ← convergeOne world tools adapter root d
      return pass.add d.pluginId outcome)
    fun e => return { pass with failed := pass.failed ++ [(d.pluginId, e)] }

/-- What a removal of all versions of a plugin leaves. -/
def Host.cleared (host : Host) (id : String) (removed : String → Removal) : Host :=
  { host with disk := Function.update host.disk id fun version =>
      (host.disk id version).bind (removed version).apply }

/-- Delete everything belonging to a plugin that is no longer placed here. -/
def removePluginDir (id : String) : HostM Unit :=
  match pluginDir id with
  | .error _ => pure ()
  | .ok () => effect world fun n host => (.ok (), host.cleared id (world.removed n))

def depart (pass : Pass) (id : String) : HostM Pass := do
  modify (·.stop id)
  removePluginDir world id
  return { pass with stopped := pass.stopped ++ [id] }

/-- Make what is running match what is desired. -/
def converge (desired : List Desired) : HostM Pass := do
  let host ← get
  let departed := (world.keys host.effects host.running.keys).filter fun id =>
    id ∉ desired.map Desired.pluginId
  let pass ← departed.foldlM (depart world) ⟨[], [], [], [], []⟩
  desired.foldlM (convergeNext world tools adapter root) pass

end Runtime

/-! ## Core and a runtime -/

/-- Core and one of its runtimes, with the answer that is on its way. -/
structure Fleet where
  core : Core
  host : Host
  answer : Option (List Desired)
  /-- Everything core has answered, which no step reads. -/
  answered : List Desired

inductive FleetInput where
  | place (runtimeId pluginId version sha256 bootstrap : String)
  | withdraw (pluginId : String)
  | editConfig (pluginId : String) (config : Option String)
  /-- The runtime asks what should be here, and hears of it or not. -/
  | fetch (arrives : Bool)
  | converge
  | terminate
  /-- The host is gone with all its processes, and comes back. -/
  | reboot

/-- The processes of a host end with it. -/
def Host.rebooted (host : Host) : Host := { host with running := ∅, tasks := [] }

namespace Fleet
variable (world : World) (tools : Tools) (adapter : Adapter) (root runtimeId : String)

def fetch (fleet : Fleet) (arrives : Bool) : Fleet :=
  let desired := fleet.core.listPlacements runtimeId
  if arrives then { fleet with answer := some desired, answered := fleet.answered ++ desired }
  else { fleet with answer := none }

def converge (fleet : Fleet) : Fleet :=
  match fleet.answer with
  | none => fleet
  | some desired => match Hosting.converge world tools adapter root desired fleet.host with
    | .ok _ host => { fleet with host, answer := none }
    | .error _ host => { fleet with host := host.rebooted, answer := none }

def step (fleet : Fleet) : FleetInput → Fleet
  | .place runtimeId pluginId version sha256 bootstrap =>
    { fleet with core := fleet.core.placeOnRuntime runtimeId pluginId version sha256 bootstrap }
  | .withdraw pluginId => { fleet with core := fleet.core.withdraw pluginId }
  | .editConfig pluginId config => { fleet with core := fleet.core.editConfig pluginId config }
  | .fetch arrives => fleet.fetch runtimeId arrives
  | .converge => fleet.converge world tools adapter root
  | .terminate => { fleet with host := fleet.host.stopAll, answer := none }
  | .reboot => { fleet with host := fleet.host.rebooted, answer := none }

/-- Nothing is placed, on disk or running. -/
def start : Fleet where
  core := ⟨∅, ∅, by simp⟩
  host := ⟨0, fun _ _ => none, ∅, []⟩
  answer := none
  answered := []

end Fleet
end HomeCore.Hosting
