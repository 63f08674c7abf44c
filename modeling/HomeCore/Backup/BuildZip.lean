import HomeCore.Backup.Restore
import HomeCore.Rules.Loader

/-! A backup: which files of the house go into the archive, and under which names. -/
namespace HomeCore.Backup
open Outcome

/-- A name that a directory can list. -/
def isPlain (name : String) : Bool :=
  name ≠ "" && name ≠ "." && name ≠ ".." && !name.toList.contains '/' &&
    !name.toList.contains '\x00'

/-- The files of the house as a backup finds them. -/
structure Disk where
  files : Files
  /-- What a directory lists; `none` where there is no directory. -/
  names : Path → Option (List String)
  /-- Why a file cannot be read, or a directory listed. -/
  refuses : Path → Option String
  listed : ∀ dir name, (files (dir ++ [name])).isSome →
    ∃ entries, names dir = some entries ∧ name ∈ entries
  plain : ∀ dir entries name, names dir = some entries → name ∈ entries → isPlain name

inductive ReadResult where
  | data (bytes : Bytes)
  | notFound
  | failed (e : String)
  deriving DecidableEq

def Disk.read (disk : Disk) (path : Path) : ReadResult :=
  match disk.files path with
  | none => if (disk.names path).isSome then .failed "Is a directory (os error 21)" else .notFound
  | some bytes => match disk.refuses path with
    | some e => .failed e
    | none => .data bytes

/-- An entry of the archive, and the file it was read from. -/
structure Saved where
  name : String
  source : Path
  data : Bytes
  deriving DecidableEq

section
variable (zip : ZipCrate) (disk : Disk) (paths : BackupPaths)

def addData (saved : List Saved) (path : Path) (archiveName : String) (data : Bytes) :
    Except String (List Saved) := do
  zip.startFile (saved.map (·.name)) archiveName
  return saved ++ [⟨archiveName, path, data⟩]

def addFile (saved : List Saved) (path : Path) (archiveName : String) : Except String (List Saved) :=
  match disk.read path with
  | .data data => addData zip saved path archiveName data
  | .notFound => .error ("failed to read " ++ display path ++ ": No such file or directory (os error 2)")
  | .failed e => .error ("failed to read " ++ display path ++ ": " ++ e)

/-- An optional file that is absent is skipped, and so is one that cannot be read. -/
def addFileOpt (saved : List Saved) (path : Path) (archiveName : String) :
    Except String (List Saved) :=
  match disk.read path with
  | .data data => addData zip saved path archiveName data
  | .notFound | .failed _ => .ok saved

/-- `read_dir`, of a directory that is there. -/
def listDir (dir : Path) : Except String (List String) :=
  match disk.names dir with
  | none => .ok []
  | some entries => match disk.refuses dir with
    | some e => .error e
    | none => .ok entries

/-- The modes and their definitions, beside the main config. -/
def modeFiles : List (Path × String) :=
  match parent paths.configPath with
  | none => []
  | some dir => [(dir ++ ["modes.toml"], "config/modes.toml"),
      (dir ++ ["mode_definitions.json"], "config/mode_definitions.json")]

def ruleFiles : Except String (List (Path × String)) :=
  (listDir disk paths.rulesDir).map fun entries =>
    ((entries.filter Loader.isRuleFile).insertionSort (· ≤ ·)).map fun name =>
      (paths.rulesDir ++ [name], "rules/" ++ name)

def pluginFiles : List (Path × String) :=
  paths.pluginConfigs.map fun plugin => (plugin.path, "plugins/" ++ plugin.id ++ "/config.toml")

def calendarFiles : Except String (List (Path × String)) :=
  match paths.calendarsDir with
  | none => .ok []
  | some dir => (listDir disk dir).map fun entries =>
    ((entries.filter fun name => (disk.files (dir ++ [name])).isSome).insertionSort (· ≤ ·)).map
      fun name => (dir ++ [name], "calendars/" ++ name)

def archived : Except String (List Saved) := do
  let saved ← addFile zip disk [] paths.stateDbPath "state.redb"
  let saved ← addFile zip disk saved paths.historyDbPath "history.db"
  let saved ← addFileOpt zip disk saved paths.configPath "config/homecore.toml"
  let saved ← (modeFiles paths).foldlM (fun saved file => addFileOpt zip disk saved file.1 file.2) saved
  let rules ← ruleFiles disk paths
  let saved ← rules.foldlM (fun saved file => addFile zip disk saved file.1 file.2) saved
  let saved ← (pluginFiles paths).foldlM
    (fun saved file => addFileOpt zip disk saved file.1 file.2) saved
  let calendars ← calendarFiles disk paths
  calendars.foldlM (fun saved file => addFileOpt zip disk saved file.1 file.2) saved

def stored (saved : List Saved) : List (String × Bytes) := saved.map fun s => (s.name, s.data)

/-- Every entry carries when the backup was taken. -/
def buildZip (taken : ZipTime) : Except String Bytes :=
  (archived zip disk paths).map fun saved => zip.pack taken (stored saved)

end

/-! ## What a restore is to bring back -/

/-- What a stored file reads back as. -/
def readBack (zip : ZipCrate) (taken : ZipTime) (file : String × Bytes) : ZipEntry :=
  ⟨.ok (), zip.enclosedName file.1, some taken, .ok file.2⟩

/-- The zip crate gives back what was stored in the archive of a house, and takes a relative name
without `.` and `..` as it is. -/
structure ReturnsStored (zip : ZipCrate) (disk : Disk) (paths : BackupPaths) (taken : ZipTime) :
    Prop where
  unpack : ∀ saved, archived zip disk paths = .ok saved →
    zip.unpack (zip.pack taken (stored saved)) = .ok ((stored saved).map (readBack zip taken))
  enclosedName : ∀ name, (∀ part ∈ splitText '/' name, isPlain part) →
    zip.enclosedName name = some name

section
variable (paths : BackupPaths)

/-- The rule files, the calendars, the modes, the databases and the plugin configs. -/
def IsKept (path : Path) : Prop :=
  path = paths.stateDbPath ∨ path = paths.historyDbPath ∨ path ∈ (modeFiles paths).map (·.1) ∨
    (∃ name, Loader.isRuleFile name ∧ path = paths.rulesDir ++ [name]) ∨
    (∃ plugin ∈ paths.pluginConfigs, path = plugin.path) ∨
    ∃ dir name, paths.calendarsDir = some dir ∧ path = dir ++ [name]

/-- The same house later: the same places, whatever plugins it lists by then. -/
structure SamePlaces (now : BackupPaths) : Prop where
  stateDbPath : now.stateDbPath = paths.stateDbPath
  historyDbPath : now.historyDbPath = paths.historyDbPath
  configPath : now.configPath = paths.configPath
  rulesDir : now.rulesDir = paths.rulesDir
  calendarsDir : now.calendarsDir = paths.calendarsDir

/-- The id of each plugin whose config was saved still leads to the file it was read from. -/
def PluginsLeadBack (zip : ZipCrate) (disk : Disk) (now : BackupPaths) : Prop :=
  ∀ file ∈ pluginFiles paths, ∀ data, disk.read file.1 = .data data →
    (zip.enclosedName file.2).bind (destination now) = some file.1

end
end HomeCore.Backup
