import HomeCore.Outcome
import HomeCore.Types.Text

/-! A restore: reading an archive and saying what it would do, and, at the next start, putting its
files in place one by one. The zip crate is taken as it is documented. -/
namespace HomeCore.Backup
open Outcome

abbrev Bytes := List UInt8

/-! ## Paths and names -/

/-- The parts of a path; the first part of an absolute path is empty. -/
abbrev Path := List String

def display (path : Path) : String := "/".intercalate path

def parent : Path → Option Path
  | [] | [""] => none
  | path => some path.dropLast

def withFileName (path : Path) (name : String) : Path := (parent path).getD [] ++ [name]

def stripPrefix (before text : String) : Option String :=
  if before.toList.isPrefixOf text.toList then
    some (String.ofList (text.toList.drop before.toList.length))
  else none

def stripSuffix (after text : String) : Option String :=
  if after.toList.isSuffixOf text.toList then
    some (String.ofList (text.toList.take (text.toList.length - after.toList.length)))
  else none

/-- `Path::file_name`: the last part, which empty parts and `.` are none of. -/
def fileName (name : String) : Option String :=
  ((splitText '/' name).filter fun part => part ≠ "" && part ≠ ".").getLast?.filter (· ≠ "..")

structure PluginConfigEntry where
  id : String
  path : Path
  deriving DecidableEq

structure BackupPaths where
  stateDbPath : Path
  historyDbPath : Path
  configPath : Path
  rulesDir : Path
  pluginConfigs : List PluginConfigEntry
  /-- The folder of the central store. -/
  pluginsStore : Option Path
  calendarsDir : Option Path

/-- Where a staged restore waits for the next start. -/
def BackupPaths.pending (paths : BackupPaths) : Path :=
  (parent paths.stateDbPath).getD ["."] ++ ["restore-pending.zip"]

def BackupPaths.applied (paths : BackupPaths) : Path :=
  withFileName paths.pending "restore-applied.zip"

def slug (id : String) : String :=
  String.ofList (id.toList.map fun c =>
    if c.isAlphanum || c == '.' || c == '-' || c == '_' then c else '_')

def pathFor (dir : Path) (id : String) : Path := dir ++ [slug id ++ ".toml"]

/-- The id in `plugins/<id>/config.toml`. -/
def archivedId (name : String) : String :=
  ((stripPrefix "plugins/" name).bind (stripSuffix "/config.toml")).getD ""

/-- An id goes by the table of this host, else to the central folder. Only ids of plugins go
there, so that none lands on its other files. -/
def pluginDestination (paths : BackupPaths) (id : String) : Option Path :=
  match paths.pluginConfigs.find? (·.id == id) with
  | some entry => some entry.path
  | none => paths.pluginsStore.bind fun dir =>
    if "plugin.".toList.isPrefixOf id.toList && !id.toList.contains '/' then some (pathFor dir id)
    else none

/-- Where an archive entry goes on this host, or `none` to skip it. -/
def destination (paths : BackupPaths) (name : String) : Option Path :=
  if name = "state.redb" then some paths.stateDbPath
  else if name = "history.db" then some paths.historyDbPath
  else if name = "config/homecore.toml" then some paths.configPath
  else if name = "config/modes.toml" then (parent paths.configPath).map (· ++ ["modes.toml"])
  else if name = "config/mode_definitions.json" then
    (parent paths.configPath).map (· ++ ["mode_definitions.json"])
  else if "rules/".toList.isPrefixOf name.toList then
    (fileName name).map fun file => paths.rulesDir ++ [file]
  else if "calendars/".toList.isPrefixOf name.toList then
    paths.calendarsDir.bind fun dir => (fileName name).map fun file => dir ++ [file]
  else if "plugins/".toList.isPrefixOf name.toList then pluginDestination paths (archivedId name)
  else none

/-! ## Archives -/

structure ZipTime where
  year : Nat
  month : Nat
  day : Nat
  hour : Nat
  minute : Nat
  second : Nat

/-- What the crate gives of an entry: whether `by_index` opens it, and what is read of it. -/
structure ZipEntry where
  opened : Except String Unit
  enclosedName : Option String
  lastModified : Option ZipTime
  data : Except String Bytes

/-- The zip crate, with the text that chrono makes of a time, if it is one. -/
structure ZipCrate where
  /-- Whether an entry of this name may be added to entries of those. -/
  startFile : List String → String → Except String Unit
  pack : ZipTime → List (String × Bytes) → Bytes
  unpack : Bytes → Except String (List ZipEntry)
  enclosedName : String → Option String
  timeText : ZipTime → Option String

structure RestorePlan where
  restored : List String
  skipped : List String
  takenAt : Option String

def unsafePath (index : Nat) : String := "unsafe path at index " ++ toString index

section
variable (zip : ZipCrate) (paths : BackupPaths)

/-- An archive from before entries were stamped says 1980: unknown. -/
def takenAt (entry : ZipEntry) : Option String :=
  (entry.lastModified.filter (1980 < ·.year)).bind zip.timeText

def planEntry (plan : RestorePlan) (entry : ZipEntry × Nat) : Except String RestorePlan := do
  entry.1.opened
  match entry.1.enclosedName with
  | none => return { plan with skipped := plan.skipped ++ [unsafePath entry.2] }
  | some name =>
    let plan :=
      if name = "state.redb" then { plan with takenAt := takenAt zip entry.1 } else plan
    match destination paths name with
    | some _ => return { plan with restored := plan.restored ++ [name] }
    | none => return { plan with skipped := plan.skipped ++ [name] }

/-- What an archive would do. One that is no backup is refused. -/
def planRestore (bytes : Bytes) : Except String RestorePlan :=
  match zip.unpack bytes with
  | .error e => .error ("invalid ZIP archive: " ++ e)
  | .ok entries => do
    let plan ← entries.zipIdx.foldlM (planEntry zip paths) ⟨[], [], none⟩
    refuseIf (!plan.restored.contains "state.redb")
      "this isn't a homeCore backup: it has no state.redb"
    return plan

/-! ## Putting it in place -/

/-- The files of the host, by their paths. -/
abbrev Files := Path → Option Bytes

/-- What becomes of a write: one that fails may have written a part. -/
inductive WriteResult where
  | written
  | refused (e : String)
  | torn (kept : Nat) (e : String)

structure Extraction where
  files : Files
  restored : List String
  skipped : List String
  outcome : Except String Unit

def failedToWrite (dest : Path) (e : String) : String :=
  "failed to write " ++ display dest ++ ": " ++ e

/-- The outcome is an error where the extraction stops. -/
def extractEntry (attempts : Nat → WriteResult) (ex : Extraction) (entry : ZipEntry × Nat) :
    Extraction :=
  match entry.1.opened with
  | .error e => { ex with outcome := .error e }
  | .ok _ => match entry.1.enclosedName with
    | none => { ex with skipped := ex.skipped ++ [unsafePath entry.2] }
    | some name => match destination paths name with
      | none => { ex with skipped := ex.skipped ++ [name] }
      | some dest => match entry.1.data with
        | .error e => { ex with outcome := .error e }
        | .ok data => match attempts entry.2 with
          | .written => { ex with
              files := Function.update ex.files dest (some data)
              restored := ex.restored ++ [name] }
          | .refused e => { ex with outcome := .error (failedToWrite dest e) }
          | .torn kept e => { ex with
              files := Function.update ex.files dest (some (data.take kept))
              outcome := .error (failedToWrite dest e) }

def extractEntries (attempts : Nat → WriteResult) : List (ZipEntry × Nat) → Extraction → Extraction
  | [], ex => ex
  | entry :: rest, ex =>
    let next := extractEntry paths attempts ex entry
    match next.outcome with
    | .error _ => next
    | .ok _ => extractEntries attempts rest next

/-- Copy a backup's files to their places on this host. -/
def extractRestore (attempts : Nat → WriteResult) (files : Files) (bytes : Bytes) : Extraction :=
  match zip.unpack bytes with
  | .error e => ⟨files, [], [], .error ("invalid ZIP archive: " ++ e)⟩
  | .ok entries => extractEntries paths attempts entries.zipIdx ⟨files, [], [], .ok ()⟩

/-- What becomes of the staged archive: it is renamed, or else removed if that can be done. -/
inductive Aside where
  | renamed
  | removed
  | stuck

/-- What a start of homeCore finds, and how its calls to the file system turn out. -/
structure Start where
  files : Files
  /-- Why the staged archive cannot be read, if not because there is none. -/
  pendingError : Option String
  attempts : Nat → WriteResult
  aside : Aside

structure Report where
  restored : List String
  skipped : List String
  deriving DecidableEq

def setAside (aside : Aside) (bytes : Bytes) (files : Files) : Files :=
  match aside with
  | .renamed => Function.update (Function.update files paths.pending none) paths.applied (some bytes)
  | .removed => Function.update files paths.pending none
  | .stuck => files

/-- Applied or not, the staged archive is set aside. -/
def applyPending (start : Start) : Option (Except String Report) × Files :=
  match start.pendingError with
  | some e => (some (.error ("reading " ++ display paths.pending ++ ": " ++ e)), start.files)
  | none => match start.files paths.pending with
    | none => (none, start.files)
    | some bytes => match planRestore zip paths bytes with
      | .error e => (some (.error e), setAside paths start.aside bytes start.files)
      | .ok _ =>
        let ex := extractRestore zip paths start.attempts start.files bytes
        (some (ex.outcome.map fun _ => ⟨ex.restored, ex.skipped⟩),
          setAside paths start.aside bytes ex.files)

/-! ## All or nothing -/

/-- Any file but the staged archive and what becomes of it. -/
def IsLive (path : Path) : Prop := path ≠ paths.pending ∧ path ≠ paths.applied

structure AllOrNothing (start : Start) : Prop where
  /-- An error leaves every live file as it was. -/
  nothing : ∀ e, (applyPending zip paths start).1 = some (.error e) → ∀ path, IsLive paths path →
    (applyPending zip paths start).2 path = start.files path
  /-- What the plan lists is what is put in place. -/
  all : ∀ bytes plan, start.files paths.pending = some bytes → planRestore zip paths bytes = .ok plan →
    (extractRestore zip paths start.attempts start.files bytes).restored = plan.restored

/-- The entry has no place on this host, or it can be read and written there. -/
def Goes (attempts : Nat → WriteResult) (entry : ZipEntry × Nat) : Prop :=
  ∀ name dest, entry.1.enclosedName = some name → destination paths name = some dest →
    (∃ data, entry.1.data = .ok data) ∧ attempts entry.2 = .written

/-- The staged archive is refused, or all that has a place goes there. -/
def GoesThrough (start : Start) : Prop :=
  ∀ bytes plan entries, start.files paths.pending = some bytes →
    planRestore zip paths bytes = .ok plan → zip.unpack bytes = .ok entries →
    ∀ entry ∈ entries.zipIdx, Goes paths start.attempts entry

end
end HomeCore.Backup
