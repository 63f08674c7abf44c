import HomeCore.Types.Rule
import HomeCore.Runs

/-! The file of mode definitions, `modes.toml`. Each operation reads the whole file,
edits the list and writes the whole file back. -/
namespace HomeCore

inductive ModeKind where
  | solar
  | manual
  deriving DecidableEq

structure ModeConfig where
  id : String
  name : String
  kind : ModeKind
  onEvent : Option SunEventType
  offEvent : Option SunEventType
  onOffsetMinutes : Int
  offOffsetMinutes : Int
  deriving DecidableEq

/-- The TOML library, at the wrapper type of the file. -/
structure ModesToml where
  fromStr : String → Except String (List ModeConfig)
  toText : List ModeConfig → Except String String

namespace Modes

def header : String :=
  "# HomeCore mode definitions.\n" ++
  "# This file is managed automatically — API-created modes are appended here.\n" ++
  "# Edit directly or use POST /api/v1/modes.\n\n"

def dayId : String := "mode_day"

def nightId : String := "mode_night"

def defaultModeNight : ModeConfig :=
  ⟨nightId, "Night Mode", .solar, some .sunset, some .sunrise, 0, 0⟩

def defaultModeDay : ModeConfig :=
  ⟨dayId, "Day Mode", .solar, some .sunrise, some .sunset, 0, 0⟩

/-- What is written under the header reads back as what it was made from. -/
def RoundTrips (toml : ModesToml) : Prop :=
  ∀ modes body, toml.toText modes = .ok body → toml.fromStr (header ++ body) = .ok modes

section Operations
variable (toml : ModesToml) (path : String)

/-- Parse the file, which may not exist yet and may hold any bytes. -/
def loadModes : Option ByteArray → Except String (List ModeConfig)
  | none => .ok []
  | some bytes => match String.fromUTF8? bytes with
    | none => .error s!"reading {path}"
    | some content => match toml.fromStr content with
      | .error cause => .error s!"parsing {path}: {cause}"
      | .ok modes => .ok modes

def writeModes (file : Option ByteArray) (modes : List ModeConfig) :
    Option ByteArray × Except String Unit :=
  match toml.toText modes with
  | .error cause => (file, .error s!"serialising modes to TOML: {cause}")
  | .ok body => (some (header ++ body).toUTF8, .ok ())

/-- `unwrap_or_default`: a file that could not be read counts as empty. -/
def modesOrNone (file : Option ByteArray) : List ModeConfig :=
  match loadModes toml path file with
  | .ok modes => modes
  | .error _ => []

/-- Ensure that the file has the built-in modes. -/
def ensureDefaultModes (file : Option ByteArray) : Option ByteArray × Except String Unit :=
  let modes := modesOrNone toml path file
  let withDay := if modes.any (·.id == dayId) then modes else defaultModeDay :: modes
  let withNight := if withDay.any (·.id == nightId) then withDay else defaultModeNight :: withDay
  if modes.any (·.id == dayId) && withDay.any (·.id == nightId) then (file, .ok ())
  else writeModes toml file withNight

def appendMode (file : Option ByteArray) (mode : ModeConfig) : Option ByteArray × Except String Unit :=
  let modes := modesOrNone toml path file
  if modes.any (·.id == mode.id) then
    (file, .error s!"mode '{mode.id}' already exists in modes.toml")
  else writeModes toml file (modes ++ [mode])

def removeMode (file : Option ByteArray) (id : String) : Option ByteArray × Except String Unit :=
  let modes := modesOrNone toml path file
  let kept := modes.filter (·.id != id)
  if kept.length = modes.length then (file, .error s!"mode '{id}' not found in modes.toml")
  else writeModes toml file kept

end Operations
end Modes

inductive ModesCall where
  | ensureDefaultModes
  | appendMode (mode : ModeConfig)
  | removeMode (id : String)
  deriving DecidableEq

namespace ModesCall
variable (toml : ModesToml) (path : String)

def run (file : Option ByteArray) : ModesCall → Option ByteArray × Except String Unit
  | .ensureDefaultModes => Modes.ensureDefaultModes toml path file
  | .appendMode mode => Modes.appendMode toml path file mode
  | .removeMode id => Modes.removeMode toml path file id

def step (file : Option ByteArray) (call : ModesCall) : Option ByteArray := (call.run toml path file).1

/-- The call keeps every definition but the one it removes, and a file that cannot be
parsed stays as it is, with an error. -/
structure Keeps (file : Option ByteArray) (call : ModesCall) : Prop where
  definitions : ∀ mode ∈ Modes.modesOrNone toml path file, call ≠ .removeMode mode.id →
    mode ∈ Modes.modesOrNone toml path (call.step toml path file)
  unparsed : ∀ error, Modes.loadModes toml path file = .error error →
    call.step toml path file = file ∧ ∃ failure, (call.run toml path file).2 = .error failure

/-- What the call writes where it takes the file to be empty, none where that makes
it fail. -/
def fromEmpty : ModesCall → Option (List ModeConfig)
  | .ensureDefaultModes => some [Modes.defaultModeNight, Modes.defaultModeDay]
  | .appendMode mode => some [mode]
  | .removeMode _ => none

/-- The file can be parsed, or the call would fail on an empty one. -/
def Clear (file : Option ByteArray) (call : ModesCall) : Prop :=
  (Modes.loadModes toml path file).isOk = true ∨
    ∀ modes ∈ call.fromEmpty, (toml.toText modes).isOk = false

end ModesCall
/-! Mode definitions are kept exactly where no call meets a file that it cannot parse:
both adding calls then write over the file as if it were empty. -/

section Calls
variable {toml : ModesToml} {path : String} {file : Option ByteArray}

theorem fromUTF8?_toUTF8 (text : String) : String.fromUTF8? text.toUTF8 = some text := by
  have valid : text.toUTF8.IsValidUTF8 := text.isValidUTF8
  rw [String.fromUTF8?, dif_pos valid]
  rfl

/-- What was written is there to be read. -/
theorem modesOrNone_written {modes : List ModeConfig} {body : String}
    (roundTrips : Modes.RoundTrips toml) (rendered : toml.toText modes = .ok body) :
    Modes.loadModes toml path (some (Modes.header ++ body).toUTF8) = .ok modes := by
  simp only [Modes.loadModes, fromUTF8?_toUTF8, roundTrips modes body rendered]

theorem writeModes_cases (toml : ModesToml) (file : Option ByteArray) (modes : List ModeConfig) :
    (∃ failure, Modes.writeModes toml file modes = (file, .error failure) ∧
      (toml.toText modes).isOk = false) ∨
    ∃ body, toml.toText modes = .ok body ∧
      Modes.writeModes toml file modes = (some (Modes.header ++ body).toUTF8, .ok ()) := by
  unfold Modes.writeModes
  cases rendered : toml.toText modes with
  | error cause => exact .inl ⟨_, rfl, rfl⟩
  | ok body => exact .inr ⟨body, rfl, rfl⟩

/-- A list that has the modes is written, or nothing is. -/
theorem mem_written {modes : List ModeConfig} (roundTrips : Modes.RoundTrips toml) {mode : ModeConfig}
    (there : mode ∈ Modes.modesOrNone toml path file) (kept : mode ∈ modes) :
    mode ∈ Modes.modesOrNone toml path (Modes.writeModes toml file modes).1 := by
  rcases writeModes_cases toml file modes with ⟨failure, written, _⟩ | ⟨body, rendered, written⟩
  · rw [written]
    exact there
  · rw [written, Modes.modesOrNone, modesOrNone_written roundTrips rendered]
    exact kept

/-! ## What each call keeps -/

theorem mem_either {decided : Bool} {mode : ModeConfig} {a b : List ModeConfig} (inA : mode ∈ a)
    (inB : mode ∈ b) : mode ∈ if decided then a else b := by
  split
  · exact inA
  · exact inB

theorem ensureDefaultModes_mem (roundTrips : Modes.RoundTrips toml) {mode : ModeConfig}
    (there : mode ∈ Modes.modesOrNone toml path file) :
    mode ∈ Modes.modesOrNone toml path (Modes.ensureDefaultModes toml path file).1 := by
  unfold Modes.ensureDefaultModes
  simp only []
  rw [apply_ite Prod.fst, apply_ite (Modes.modesOrNone toml path)]
  have withDay : ∀ present : Bool, mode ∈ if present then Modes.modesOrNone toml path file
      else Modes.defaultModeDay :: Modes.modesOrNone toml path file :=
    fun _ => mem_either there (List.mem_cons_of_mem _ there)
  refine mem_either there (mem_written roundTrips there ?_)
  exact mem_either (withDay _) (List.mem_cons_of_mem _ (withDay _))

theorem appendMode_mem (roundTrips : Modes.RoundTrips toml) (added : ModeConfig) {mode : ModeConfig}
    (there : mode ∈ Modes.modesOrNone toml path file) :
    mode ∈ Modes.modesOrNone toml path (Modes.appendMode toml path file added).1 := by
  unfold Modes.appendMode
  simp only []
  split
  · exact there
  · exact mem_written roundTrips there (List.mem_append_left _ there)

theorem removeMode_mem (roundTrips : Modes.RoundTrips toml) {id : String} {mode : ModeConfig}
    (there : mode ∈ Modes.modesOrNone toml path file) (other : id ≠ mode.id) :
    mode ∈ Modes.modesOrNone toml path (Modes.removeMode toml path file id).1 := by
  unfold Modes.removeMode
  simp only []
  split
  · exact there
  · refine mem_written roundTrips there (List.mem_filter.mpr ⟨there, ?_⟩)
    simpa using other.symm

/-- Whatever is in the file, the definitions that can be read are kept. -/
theorem step_mem (roundTrips : Modes.RoundTrips toml) (call : ModesCall) {mode : ModeConfig}
    (there : mode ∈ Modes.modesOrNone toml path file) (other : call ≠ .removeMode mode.id) :
    mode ∈ Modes.modesOrNone toml path (call.step toml path file) := by
  cases call with
  | ensureDefaultModes => exact ensureDefaultModes_mem roundTrips there
  | appendMode added => exact appendMode_mem roundTrips added there
  | removeMode id => exact removeMode_mem roundTrips there fun same => other (congrArg _ same)

theorem modesOrNone_unparsed {error : String} (unparsed : Modes.loadModes toml path file = .error error) :
    Modes.modesOrNone toml path file = [] := by
  rw [Modes.modesOrNone, unparsed]

/-- On a file that cannot be parsed, a call does what it does on an empty one. -/
theorem run_unparsed {error : String} (unparsed : Modes.loadModes toml path file = .error error)
    (call : ModesCall) :
    (call.fromEmpty = none ∧ ∃ failure, call.run toml path file = (file, .error failure)) ∨
    ∃ modes, call.fromEmpty = some modes ∧
      call.run toml path file = Modes.writeModes toml file modes := by
  have none := modesOrNone_unparsed unparsed
  cases call with
  | ensureDefaultModes =>
    refine .inr ⟨_, rfl, ?_⟩
    simp only [ModesCall.run, Modes.ensureDefaultModes, none]
    rfl
  | appendMode added =>
    refine .inr ⟨_, rfl, ?_⟩
    simp only [ModesCall.run, Modes.appendMode, none]
    rfl
  | removeMode id =>
    refine .inl ⟨rfl, s!"mode '{id}' not found in modes.toml", ?_⟩
    simp only [ModesCall.run, Modes.removeMode, none]
    rfl

/-- A call keeps what it should exactly where the file can be parsed, or where it
would fail on an empty file. -/
theorem keeps_iff_clear (roundTrips : Modes.RoundTrips toml) (file : Option ByteArray)
    (call : ModesCall) : call.Keeps toml path file ↔ call.Clear toml path file := by
  constructor
  · intro keeps
    cases loaded : Modes.loadModes toml path file with
    | ok modes => exact .inl (by rw [loaded]; rfl)
    | error error =>
      right
      intro modes empty
      obtain ⟨_, failure, failed⟩ := keeps.unparsed error loaded
      rcases run_unparsed loaded call with ⟨never, _⟩ | ⟨written, isEmpty, run⟩
      · rw [Option.mem_def, never] at empty
        cases empty
      · rw [Option.mem_def, isEmpty] at empty
        cases empty
        rcases writeModes_cases toml file modes with ⟨_, _, unrendered⟩ | ⟨body, _, done⟩
        · exact unrendered
        · rw [run, done] at failed
          cases failed
  · intro clear
    refine ⟨fun mode there other => step_mem roundTrips call there other, fun error loaded => ?_⟩
    rcases clear with parsed | unrendered
    · rw [loaded] at parsed
      cases parsed
    · rcases run_unparsed loaded call with ⟨_, failure, run⟩ | ⟨modes, isEmpty, run⟩
      · rw [ModesCall.step, run]
        exact ⟨rfl, failure, rfl⟩
      · rcases writeModes_cases toml file modes with ⟨failure, written, _⟩ | ⟨body, rendered, _⟩
        · rw [ModesCall.step, run, written]
          exact ⟨rfl, failure, rfl⟩
        · have failed := unrendered modes isEmpty
          rw [rendered] at failed
          cases failed

end Calls

/-- Along any calls, each keeps what it should exactly where it is clear; and a
definition that is in the file and is not removed is there in the end. -/
theorem modes_never_lost (toml : ModesToml) (path : String) (roundTrips : Modes.RoundTrips toml)
    (file : Option ByteArray) (calls : List ModesCall) :
    (Runs.EachStep (ModesCall.step toml path) (ModesCall.Keeps toml path) file calls ↔
      Runs.EachStep (ModesCall.step toml path) (ModesCall.Clear toml path) file calls) ∧
    ∀ mode ∈ Modes.modesOrNone toml path file, (∀ call ∈ calls, call ≠ .removeMode mode.id) →
      mode ∈ Modes.modesOrNone toml path (calls.foldl (ModesCall.step toml path) file) := by
  induction calls generalizing file with
  | nil => exact ⟨Iff.rfl, fun mode there _ => there⟩
  | cons call rest ih =>
    obtain ⟨iff, final⟩ := ih (call.step toml path file)
    refine ⟨and_congr (keeps_iff_clear roundTrips file call) iff, fun mode there kept => ?_⟩
    obtain ⟨here, later⟩ := List.forall_mem_cons.mp kept
    exact final mode (step_mem roundTrips call there here) later

/-! ## A file that is kept, and one with a typo -/

def modeAway : ModeConfig := ⟨"mode_away", "Away", .manual, none, none, 0, 0⟩

def modeGuests : ModeConfig := ⟨"mode_guests", "Guests", .manual, none, none, 0, 0⟩

def manualText (mode : ModeConfig) : String :=
  "\n[[modes]]\nid = \"" ++ mode.id ++ "\"\nname = \"" ++ mode.name ++ "\"\nkind = \"manual\"\n"

def defaultsText : String :=
  "[[modes]]\nid = \"mode_night\"\nname = \"Night Mode\"\nkind = \"solar\"\n" ++
  "on_event = \"Sunset\"\noff_event = \"Sunrise\"\n\n" ++
  "[[modes]]\nid = \"mode_day\"\nname = \"Day Mode\"\nkind = \"solar\"\n" ++
  "on_event = \"Sunrise\"\noff_event = \"Sunset\"\n"

/-- The built-in modes and these. -/
def withDefaults (manual : List ModeConfig) : List ModeConfig × String :=
  (Modes.defaultModeNight :: Modes.defaultModeDay :: manual,
    manual.foldl (fun text mode => text ++ manualText mode) defaultsText)

def knownFiles : List (List ModeConfig × String) :=
  [withDefaults [], withDefaults [modeAway], withDefaults [modeAway, modeGuests], withDefaults [modeGuests]]

/-- As the library does on these lists and on their texts. -/
def defaultsToml : ModesToml where
  fromStr text := (knownFiles.find? fun file => text = Modes.header ++ file.2).elim
    (.error "invalid array of tables") (.ok ·.1)
  toText modes := (knownFiles.find? (·.1 = modes)).elim (.error "another list") (.ok ·.2)

theorem defaultsToml_known : ∀ file ∈ knownFiles,
    defaultsToml.toText file.1 = .ok file.2 ∧ defaultsToml.fromStr (Modes.header ++ file.2) = .ok file.1 := by
  decide +kernel

theorem defaultsToml_roundTrips : Modes.RoundTrips defaultsToml := by
  intro modes body rendered
  rw [defaultsToml] at rendered
  dsimp only at rendered
  cases found : knownFiles.find? (·.1 = modes) with
  | none =>
    rw [found] at rendered
    cases rendered
  | some file =>
    rw [found] at rendered
    cases rendered
    have same := List.find?_some found
    obtain rfl : file.1 = modes := of_decide_eq_true same
    exact (defaultsToml_known file (List.mem_of_find?_eq_some found)).2

/-- The file that has the built-in modes and these. -/
def fileWith (manual : List ModeConfig) : Option ByteArray :=
  some (Modes.header ++ (withDefaults manual).2).toUTF8

theorem fileWith_known (manual : List ModeConfig) (known : withDefaults manual ∈ knownFiles) :
    Modes.loadModes defaultsToml "modes.toml" (fileWith manual) = .ok (withDefaults manual).1 ∧
      ∀ file, Modes.writeModes defaultsToml file (withDefaults manual).1 = (fileWith manual, .ok ()) := by
  obtain ⟨written, read⟩ := defaultsToml_known _ known
  constructor
  · simp only [fileWith, Modes.loadModes, fromUTF8?_toUTF8, read]
  · intro file
    simp only [Modes.writeModes, written, fileWith]

/-- The away mode was made by hand. One for guests is made, and the other removed. -/
def guestsForAway : List ModesCall :=
  [.ensureDefaultModes, .appendMode modeGuests, .removeMode "mode_away", .ensureDefaultModes]

theorem guests_keep_modes : Modes.RoundTrips defaultsToml ∧
    Runs.EachStep (ModesCall.step defaultsToml "modes.toml") (ModesCall.Keeps defaultsToml "modes.toml")
      (fileWith [modeAway]) guestsForAway := by
  obtain ⟨away, _⟩ := fileWith_known [modeAway] (by simp [knownFiles])
  obtain ⟨both, writesBoth⟩ := fileWith_known [modeAway, modeGuests] (by simp [knownFiles])
  obtain ⟨guests, writesGuests⟩ := fileWith_known [modeGuests] (by simp [knownFiles])
  have ensured : ModesCall.step defaultsToml "modes.toml" (fileWith [modeAway]) .ensureDefaultModes =
      fileWith [modeAway] := by
    simp only [ModesCall.step, ModesCall.run, Modes.ensureDefaultModes, Modes.modesOrNone, away]
    rfl
  have appended : ModesCall.step defaultsToml "modes.toml" (fileWith [modeAway]) (.appendMode modeGuests) =
      fileWith [modeAway, modeGuests] := by
    simp only [ModesCall.step, ModesCall.run, Modes.appendMode, Modes.modesOrNone, away]
    exact congrArg Prod.fst (writesBoth (fileWith [modeAway]))
  have removed : ModesCall.step defaultsToml "modes.toml" (fileWith [modeAway, modeGuests])
      (.removeMode "mode_away") = fileWith [modeGuests] := by
    simp only [ModesCall.step, ModesCall.run, Modes.removeMode, Modes.modesOrNone, both]
    exact congrArg Prod.fst (writesGuests (fileWith [modeAway, modeGuests]))
  refine ⟨defaultsToml_roundTrips, ?_⟩
  refine (modes_never_lost defaultsToml "modes.toml" defaultsToml_roundTrips _ guestsForAway).1.mpr ?_
  rw [guestsForAway]
  refine ⟨.inl ?_, ?_⟩
  · rw [away]
    rfl
  rw [ensured]
  refine ⟨.inl ?_, ?_⟩
  · rw [away]
    rfl
  rw [appended]
  refine ⟨.inl ?_, ?_⟩
  · rw [both]
    rfl
  rw [removed]
  refine ⟨.inl ?_, trivial⟩
  rw [guests]
  rfl

/-- A bracket is missing. -/
def typo : String := "[[modes]\nid = \"mode_away\"\nname = \"Away\"\nkind = \"manual\"\n"

theorem typo_unparsed : Modes.loadModes defaultsToml "modes.toml" (some typo.toUTF8) =
    .error "parsing modes.toml: invalid array of tables" := by
  have unlike : knownFiles.find? (fun file => typo = Modes.header ++ file.2) = none := by decide +kernel
  simp only [Modes.loadModes, fromUTF8?_toUTF8, defaultsToml, unlike]
  rfl

/-- The next start writes over a file with a typo, and reports no error. -/
theorem typo_loses_modes :
    ¬ ModesCall.Keeps defaultsToml "modes.toml" (some typo.toUTF8) .ensureDefaultModes := by
  intro keeps
  obtain ⟨_, failure, failed⟩ := keeps.unparsed _ typo_unparsed
  rcases run_unparsed typo_unparsed .ensureDefaultModes with ⟨never, _⟩ | ⟨modes, isEmpty, run⟩
  · cases never
  · cases isEmpty
    rw [run] at failed
    cases failed

end HomeCore
