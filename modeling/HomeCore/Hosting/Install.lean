import HomeCore.Stepwise
import HomeCore.TopicMap.Router
import HomeCore.Types.Text

/-! A runtime's container: one directory for each version of a plugin, filled effect by effect and
marked once it is complete. The world answers every effect by its number, and can kill the host in
the middle of any of them. -/
namespace HomeCore.Hosting
open TopicMap (Text HashOrder Vars placeholder renderTemplate)

/-! ## The adapter -/

/-- What differs per language: command templates. -/
structure Adapter where
  createEnv : List Text
  install : List Text
  launch : List Text
  createEnv_names : createEnv ≠ []
  install_names : install ≠ []
  passesConfig : ∃ arg ∈ launch, placeholder "config" <:+: arg

/-- The first brace that is opened, up to the next that closes. -/
def unknownPlaceholder (rendered : Text) : Option Text :=
  let rest := rendered.dropWhile (· ≠ TopicMap.openingBrace)
  if TopicMap.closingBrace ∈ rest then
    some (rest.takeWhile (· ≠ TopicMap.closingBrace) ++ [TopicMap.closingBrace])
  else none

inductive HostError where
  | badName (what value : String)
  | clearing
  | creating
  | unpacking
  | noManifest
  | mismatch (id version : String)
  | noWheel (package : String)
  | unknownPlaceholder (placeholder arg : Text)
  | command (what : String)
  | writing
  | marking
  | fetching
  | digestMismatch (expected received : String)
  deriving DecidableEq

def render (hash : HashOrder) (argv : List Text) (vars : Vars) : Except HostError (List Text) :=
  argv.mapM fun arg =>
    let rendered := renderTemplate hash arg vars
    match unknownPlaceholder rendered with
    | none => .ok rendered
    | some unknown => .error (.unknownPlaceholder unknown arg)

/-! ## The disk -/

/-- The files below a directory, by their path. -/
abbrev Files := List (String × List UInt8)

/-- What the host reads of a package's `plugin.toml`. -/
structure Manifest where
  id : String
  version : String
  entrypoint : String
  package : Option String
  ui : Option String

/-- The directory of one version: the unpacked artifact, what the adapter's commands made, the
config and the marker. -/
structure VersionDir where
  pkg : Files
  env : Files
  config : Option String
  installed : Option String

def VersionDir.empty : VersionDir := ⟨[], [], none, none⟩

/-- How far `remove_dir_all` came. -/
inductive Removal where
  | complete
  | refused
  /-- What it had not come to is kept. -/
  | stopped (keepsPkg keepsEnv : String → Bool) (keepsConfig keepsMarker : Bool)

def Removal.apply : Removal → VersionDir → Option VersionDir
  | .complete, _ => none
  | .refused, dir => some dir
  | .stopped keepsPkg keepsEnv keepsConfig keepsMarker, dir => some
    { pkg := dir.pkg.filter fun file => keepsPkg file.1
      env := dir.env.filter fun file => keepsEnv file.1
      config := if keepsConfig then dir.config else none
      installed := if keepsMarker then dir.installed else none }

def Removal.isComplete : Removal → Bool
  | .complete => true
  | _ => false

/-- A removal that stops halfway leaves no marker. -/
def Removal.TakesMarker : Removal → Prop
  | .stopped _ _ _ keepsMarker => keepsMarker = false
  | _ => True

/-- `fs::write`, which where it fails may leave a part or nothing. -/
inductive Write where
  | wrote
  | failed (left : Option String)

/-- `fs::create_dir_all`. -/
inductive MakeDir where
  | made
  | failed (left : Bool)

/-- What the operating system and the network answer to the effect of each number. -/
structure World where
  /-- The host is killed by the time that the effect has come as far as the answer says. -/
  killed : Nat → Bool
  hash : Nat → HashOrder
  /-- The order in which a hash map lists its keys. -/
  keys : Nat → List String → List String
  keys_perm : ∀ n ids, (keys n ids).Perm ids
  makesDir : Nat → MakeDir
  /-- The files unpacked before the first error, and whether there was none. -/
  unpacked : Nat → List UInt8 → Files × Bool
  /-- The files of the environment after a command, and whether it succeeded. -/
  ran : Nat → List Text → Files → Files × Bool
  written : Nat → Write
  removed : Nat → String → Removal
  /-- The bytes that core serves, where it answers. -/
  served : Nat → Option (List UInt8)

/-- What the standard library and the crates compute. -/
structure Tools where
  lowercase : String → String
  /-- `toml::from_str`, into a manifest. -/
  parseManifest : List UInt8 → Option Manifest
  /-- In lower-case hexadecimal digits. -/
  sha256 : List UInt8 → String
  /-- The path names a directory of the package. -/
  isDir : Files → Text → Bool

/-! ## The host -/

/-- A plugin this host currently has running, and the task that supervises it. -/
structure Running where
  version : String
  config : String
  task : Nat
  deriving DecidableEq

/-- A supervisor's task. -/
structure Task where
  pluginId : String
  argv : List Text
  env : List (String × String)
  /-- It was told to stop. -/
  shutdown : Bool
  deriving DecidableEq

structure Host where
  effects : Nat
  disk : String → String → Option VersionDir
  running : Std.ExtTreeMap String Running
  tasks : List Task

def Host.setDir (host : Host) (id version : String) (dir : Option VersionDir) : Host :=
  { host with disk := Function.update host.disk id (Function.update (host.disk id) version dir) }

inductive Stop where
  | error (e : HostError)
  | killed

abbrev HostM := EStateM Stop Host

def fail {α : Type} (e : HostError) : HostM α := throw (.error e)

def lift {α : Type} : Except HostError α → HostM α
  | .ok a => pure a
  | .error e => fail e

/-- An error is handled; what is killed handles none. -/
def onError {α : Type} (job : HostM α) (handle : HostError → HostM α) : HostM α :=
  tryCatch job fun
    | .killed => throw .killed
    | .error e => handle e

section Install
variable (world : World) (tools : Tools) (adapter : Adapter) (root : String)

/-- An effect on the disk or elsewhere, as the world answers it. -/
def effect {α : Type} (act : Nat → Host → Except HostError α × Host) : HostM α := do
  let host ← get
  let result := act host.effects { host with effects := host.effects + 1 }
  set result.2
  if world.killed host.effects then throw .killed else lift result.1

/-- An effect on one version's directory. -/
def effectOn {α : Type} (id version : String)
    (act : Nat → Option VersionDir → Except HostError α × Option VersionDir) : HostM α :=
  effect world fun n host =>
    let result := act n (host.disk id version)
    (result.1, host.setDir id version result.2)

def updated (dir : Option VersionDir) (change : VersionDir → VersionDir) : Option VersionDir :=
  some (change (dir.getD .empty))

/-! ## Installing -/

def hasDoubleDot : List Char → Bool
  | '.' :: '.' :: _ => true
  | _ :: rest => hasDoubleDot rest
  | [] => false

def checkPathComponent (what value : String) : Except HostError Unit :=
  let chars := value.toList
  if chars.isEmpty || chars.contains '/' || chars.contains '\\' || hasDoubleDot chars ||
      chars.head? = some '.' then
    .error (.badName what value)
  else .ok ()

def pluginDir (id : String) : Except HostError Unit := checkPathComponent "plugin id" id

def versionDir (id version : String) : Except HostError Unit := do
  checkPathComponent "version" version
  pluginDir id

def marked (dir : Option VersionDir) : Bool := dir.any (·.installed.isSome)

def Host.isInstalled (host : Host) (id version : String) : Bool :=
  (versionDir id version).toOption.isSome && marked (host.disk id version)

def removeVersionDir (id version : String) : HostM Unit :=
  effectOn world id version fun n dir =>
    (if (world.removed n version).isComplete then .ok () else .error .clearing,
      dir.bind (world.removed n version).apply)

/-- `fs::write` of one of the two files of a version's directory. -/
def writeFile (id version text : String) (error : HostError) (put : Option String → VersionDir → VersionDir) :
    HostM Unit :=
  effectOn world id version fun n dir => match world.written n with
    | .wrote => (.ok (), updated dir (put (some text)))
    | .failed left => (.error error, updated dir (put left))

/-- Write the config core sent, if it is not already exactly that. -/
def writeConfig (id version config : String) : HostM Unit := do
  let host ← get
  if (host.disk id version).bind (·.config) = some config then pure ()
  else writeFile world id version config .writing fun config dir => { dir with config }

def mark (id version : String) : HostM Unit :=
  writeFile world id version version .marking fun installed dir => { dir with installed }

def readManifest (pkg : Files) : Except HostError Manifest :=
  match (pkg.lookup "plugin.toml").bind tools.parseManifest with
  | some manifest => .ok manifest
  | none => .error .noManifest

def pathBelow (dir : Text) (path : String) : Option Text :=
  if (dir ++ ['/']).isPrefixOf path.toList then some (path.toList.drop (dir.length + 1)) else none

/-- The name of the wheel of a package: the first listed whose distribution is the package's. -/
def findWheel (pkg : Files) (package : String) : Except HostError Text :=
  let normalised := tools.lowercase
    (String.ofList (package.toList.map fun c => if c = '-' || c = '.' then '_' else c))
  let names := pkg.filterMap fun file =>
    (pathBelow "wheelhouse".toList file.1).map (·.takeWhile (· ≠ '/'))
  match names.find? fun name =>
      tools.lowercase (String.ofList (name.takeWhile (· ≠ '-'))) = normalised &&
        ".whl".toList.isSuffixOf name with
  | some name => .ok name
  | none => .error (.noWheel package)

/-- The UI folder a manifest names, if it is in the package. -/
def uiDir (pkg : Files) (manifest : Manifest) : Option Text := do
  let ui := trim ((← manifest.ui).toList)
  if ui.isEmpty || hasDoubleDot ui || ui.head? = some '/' then none
  else if tools.isDir pkg ui then some ui
  else none

/-- A plugin installed and ready to launch. -/
structure Installed where
  pluginId : String
  version : String
  entrypoint : String
  uiDir : Option Text

def versionPath (id version : String) : Text := (root ++ "/plugins/" ++ id ++ "/" ++ version).toList

def Installed.launchVars (installed : Installed) : Vars :=
  let dir := versionPath root installed.pluginId installed.version
  Std.ExtTreeMap.ofList [("env", dir ++ "/env".toList), ("entrypoint", installed.entrypoint.toList),
    ("config", dir ++ "/config.toml".toList)] compare

def Installed.launchEnv (installed : Installed) : List (String × String) :=
  (installed.uiDir.map fun ui => ("HC_PLUGIN_UI_DIR", String.ofList
    (versionPath root installed.pluginId installed.version ++ "/pkg/".toList ++ ui))).toList

def installVars (id version : String) (pkg : Files) (manifest : Manifest) : Except HostError Vars := do
  let dir := versionPath root id version
  let wheelhouse := dir ++ "/pkg/wheelhouse".toList
  let vars : Vars := Std.ExtTreeMap.ofList [("env", dir ++ "/env".toList), ("pkg", dir ++ "/pkg".toList),
    ("wheelhouse", wheelhouse), ("entrypoint", manifest.entrypoint.toList)] compare
  match manifest.package with
  | none => return vars
  | some package =>
    let wheel ← findWheel tools pkg package
    return (vars.insert "package" package.toList).insert "plugin_wheel" (wheelhouse ++ '/' :: wheel)

/-- One of the adapter's commands, which makes what it makes in the environment. -/
def run (id version what : String) (argv : List Text) : HostM Unit :=
  effectOn world id version fun n dir =>
    let made := world.ran n argv (dir.elim [] (·.env))
    (if made.2 then .ok () else .error (.command what), updated dir fun dir => { dir with env := made.1 })

def renderNow (argv : List Text) (vars : Vars) : HostM (List Text) := do
  let host ← get
  lift (render (world.hash host.effects) argv vars)

/-- Render a command and run it. -/
def runRendered (id version what : String) (template : List Text) (vars : Vars) : HostM Unit := do
  let argv ← renderNow world template vars
  run world id version what argv

def unpack (id version : String) (artifact : List UInt8) : HostM Files :=
  effectOn world id version fun n dir =>
    let pkg := world.unpacked n artifact
    (if pkg.2 then .ok pkg.1 else .error .unpacking, updated dir fun dir => { dir with pkg := pkg.1 })

def makeDir (id version : String) : HostM Unit :=
  effectOn world id version fun n dir => match world.makesDir n with
    | .made => (.ok (), some .empty)
    | .failed left => (.error .creating, if left then some .empty else dir)

/-- Fill the environment of an unpacked package, write its config and mark it. -/
def provisionEnv (id version : String) (pkg : Files) (manifest : Manifest) (config : String) : HostM Unit := do
  let vars ← lift (installVars tools root id version pkg manifest)
  runRendered world id version "create_env" adapter.createEnv vars
  runRendered world id version "install" adapter.install vars
  writeConfig world id version config
  mark world id version

def installInto (id version : String) (artifact : List UInt8) (config : String) : HostM Installed := do
  makeDir world id version
  let pkg ← unpack world id version artifact
  let manifest ← lift (readManifest tools pkg)
  if manifest.id ≠ id ∨ manifest.version ≠ version then fail (.mismatch manifest.id manifest.version)
  else
    provisionEnv world tools adapter root id version pkg manifest config
    return ⟨id, version, manifest.entrypoint, uiDir tools pkg manifest⟩

/-- Clear a previous attempt. -/
def clear (id version : String) : HostM Unit := do
  let host ← get
  if (host.disk id version).isSome then removeVersionDir world id version else pure ()

/-- Unpack, provision an environment, and write the config. -/
def install (id version : String) (artifact : List UInt8) (config : String) : HostM Installed := do
  lift (versionDir id version)
  clear world id version
  onError (installInto world tools adapter root id version artifact config) fun e => do
    onError (removeVersionDir world id version) fun _ => pure ()
    fail e

/-- What is launched of a version already on disk. -/
def existing (id version : String) : HostM Installed := do
  lift (versionDir id version)
  let host ← get
  let pkg := (host.disk id version).elim [] (·.pkg)
  let manifest ← lift (readManifest tools pkg)
  return ⟨id, version, manifest.entrypoint, uiDir tools pkg manifest⟩

end Install
end HomeCore.Hosting
