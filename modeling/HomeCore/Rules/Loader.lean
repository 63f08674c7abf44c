import HomeCore.Rules.Resolver
import HomeCore.Types.Text

/-! Rule files and the rule set kept in step with them: the full load of the
directory, and the reload of only those files that changed. The RON and TOML
codecs are parameters, and so is what the outside decides during one pass over
the files: the order of a directory listing, generated ids, failing writes. -/
namespace HomeCore.Loader
open Resolver

/-- The text of a file, if it can be read as text. -/
abbrev Contents := Option String

structure RuleCodec where
  parseRon : String → Option Rule
  parseToml : String → Option Rule
  printRon : Rule → Option String
  printToml : Rule → Option String
  /-- UUID v5 in the OID namespace. -/
  uuidV5 : String → Uuid

structure Draws where
  /-- The order in which entries come. -/
  order : List String → List String
  newId : String → Uuid
  duplicateId : Nat → Uuid
  writable : String → Bool
  perm : ∀ names, (order names).Perm names

/-! ## File names -/

/-- The parts before and after the last dot, unless the name starts with it. -/
def splitAtDot (name : List Char) : Option (List Char × List Char) :=
  match name.reverse.span (· ≠ '.') with
  | (_, []) => none
  | (after, _ :: before) =>
    if before.isEmpty || name == ['.', '.'] then none else some (before.reverse, after.reverse)

def extension (name : String) : Option String :=
  (splitAtDot name.toList).map fun (_, after) => String.ofList after

def fileStem (name : String) : String :=
  ((splitAtDot name.toList).map fun (before, _) => String.ofList before).getD name

def isRuleFile (name : String) : Bool :=
  extension name == some "ron" || extension name == some "toml"

/-! ## Writing a generated id into a TOML file -/

/-- `str::lines`: without the line ends, and nothing after the last of them. -/
def lines (text : String) : List (List Char) :=
  let parts := text.toList.splitOn '\n'
  let kept := if parts.getLast? == some [] then parts.dropLast else parts
  kept.map fun line => if line.getLast? == some '\r' then line.dropLast else line

/-- What follows `id =` on a line that sets it. -/
def idValue (line : List Char) : Option (List Char) :=
  match trim line with
  | 'i' :: 'd' :: after => match trimStart after with
    | '=' :: value => some value
    | _ => none
  | _ => none

def isEmptyText (value : List Char) : Bool := trim value == ['"', '"']

def hasEmptyId (content : String) : Bool :=
  ((lines content).findSome? idValue).any isEmptyText

def isMissingId (content : String) : Bool :=
  !(lines content).any fun line => (idValue line).isSome

def replaceEmptyLine (newId : String) : List (List Char) → List (List Char)
  | [] => []
  | line :: rest =>
    if (idValue line).any isEmptyText then ("id = \"" ++ newId ++ "\"").toList :: rest
    else line :: replaceEmptyLine newId rest

def replaceEmptyId (content newId : String) : String :=
  String.ofList ((replaceEmptyLine newId (lines content)).flatMap (· ++ ['\n']))

/-! ## One file -/

section Files
variable (codec : RuleCodec) (dir : String)

def pathText (name : String) : String := dir ++ "/" ++ name

/-- A disabled stand-in for a file that does not load, its id a hash of the path. -/
def brokenStub (name why : String) : Rule :=
  let stem := fileStem name
  { Rule.minimal (codec.uuidV5 (pathText dir name)) .manualTrigger [] with
    name := s!"{stem} [BROKEN]"
    enabled := false
    error := some ("parse error: " ++ why) }

def readRule (name : String) (contents : Contents) : Except String Rule :=
  let path := pathText dir name
  match contents with
  | none => .error s!"reading {path}"
  | some text => match extension name with
    | some "ron" => (codec.parseRon text).elim (.error s!"parsing RON in {path}") .ok
    | some "toml" => (codec.parseToml text).elim (.error s!"parsing TOML in {path}") .ok
    | ext =>
      let shown := ext.getD ""
      .error s!"unsupported rule file extension: {shown}"

/-- The file's text once the generated id is in it. -/
def withGeneratedId (name text : String) (rule : Rule) : Except String String :=
  if extension name = some "ron" then
    (codec.printRon rule).elim (.error "serializing rule to RON") .ok
  else if hasEmptyId text then .ok (replaceEmptyId text rule.id.text)
  else if isMissingId text then .ok ("id = \"" ++ rule.id.text ++ "\"\n" ++ text)
  else (codec.printToml rule).elim (.error "serializing rule to TOML") .ok

/-- The display name of a rule that gives none is its file's. -/
def withFileName (name : String) (rule : Rule) : Rule :=
  if rule.name = "" then { rule with name := fileStem name } else rule

/-- `load_file`: the rule or why there is none, and the file afterwards. -/
def loadFile (draws : Draws) (name : String) (contents : Contents) :
    Except String Rule × Contents :=
  match readRule codec dir name contents with
  | .error why => (.error why, contents)
  | .ok rule =>
    if rule.id.isNil then
      let rule := { rule with id := draws.newId name }
      match withGeneratedId codec name (contents.getD "") rule with
      | .error why => (.error why, contents)
      | .ok updated =>
        let path := pathText dir name
        if draws.writable name then (.ok (withFileName name rule), some updated)
        else (.error s!"writing generated id back to {path}", contents)
    else (.ok (withFileName name rule), contents)

/-- The rule a file stands for, a stub where it does not load. -/
def loadOrStub (draws : Draws) (name : String) (contents : Contents) : Rule × Contents :=
  match loadFile codec dir draws name contents with
  | (.ok rule, after) => (rule, after)
  | (.error why, after) => (brokenStub codec dir name why, after)

/-! ## The whole directory -/

abbrev Files := Std.ExtTreeMap String Contents

def ruleNames (names : List String) : List String := names.filter isRuleFile

/-- Load the named files one after another, those that are there. -/
def loadEach (draws : Draws) : List String → Files → List (String × Rule) × Files
  | [], files => ([], files)
  | name :: rest, files => match files[name]? with
    | none => loadEach draws rest files
    | some contents =>
      let (rule, after) := loadOrStub codec dir draws name contents
      let (others, files) := loadEach draws rest (files.insert name after)
      ((name, rule) :: others, files)

/-- Of rules with one id the first is kept and the others get an id of their own. -/
def stubDuplicates (draws : Draws) : List Uuid → Nat → List Rule → List Rule
  | _, _, [] => []
  | seen, k, rule :: rest =>
    if rule.id ∈ seen then
      let id := rule.id.text
      { rule with
        enabled := false
        error := some s!"duplicate rule ID {id} — rule disabled until ID is fixed"
        id := draws.duplicateId k } :: stubDuplicates draws seen (k + 1) rest
    else rule :: stubDuplicates draws (rule.id :: seen) (k + 1) rest

/-- A stable sort, highest priority first. -/
def byPriority (rules : List Rule) : List Rule :=
  rules.insertionSort fun a b => b.priority ≤ a.priority

def loadAll (draws : Draws) (files : Files) : List Rule × Files :=
  let (loaded, files) := loadEach codec dir draws (draws.order (ruleNames files.keys)) files
  (byPriority (stubDuplicates draws [] 0 (loaded.map (·.2))), files)

/-- The ids by path, of those files that load. -/
def scanPaths (draws : Draws) : List String → Files → Std.ExtTreeMap String Uuid × Files
  | [], files => (∅, files)
  | name :: rest, files => match files[name]? with
    | none => scanPaths draws rest files
    | some contents =>
      let (loaded, after) := loadFile codec dir draws name contents
      let (index, files) := scanPaths draws rest (files.insert name after)
      (match loaded with
        | .ok rule => index.insert name rule.id
        | .error _ => index, files)

end Files

/-! ## The watcher -/

/-- The directory, the rules as written and as compiled, and where each was loaded from. -/
structure RuleSet where
  files : Files
  source : List Rule
  live : List Rule
  pathIndex : Std.ExtTreeMap String Uuid

def applyRuleDiff (rules newRules : List Rule) (removedIds : List Uuid) : List Rule :=
  let replacing := newRules.map (·.id)
  byPriority ((rules.filter fun rule => !removedIds.contains rule.id && !replacing.contains rule.id) ++
    newRules)

/-- What someone does to a file of the directory. -/
inductive Edit where
  | write (name : String) (contents : Contents)
  | remove (name : String)

def Edit.name : Edit → String
  | .write name _ => name
  | .remove name => name

def Edit.apply (files : Files) : Edit → Files
  | .write name contents => files.insert name contents
  | .remove name => files.erase name

/-- The edits of one debounce window, and the paths the watcher reports for them. -/
structure Batch where
  edits : List Edit
  changed : List String
  nodup : changed.Nodup
  ruleFiles : ∀ name ∈ changed, isRuleFile name = true
  reported : ∀ edit ∈ edits, isRuleFile edit.name = true → edit.name ∈ changed
  draws : Draws
  /-- Whether the device list can be read for the reload, and again for a full one. -/
  devicesRead : Bool
  devicesReadAgain : Bool

section Watcher
variable (codec : RuleCodec) (dir : String) (devices : List DeviceState)

/-- The ids that went away with their file, or whose file now holds another rule. -/
def removedIds (pathIndex : Std.ExtTreeMap String Uuid) (removedPaths : List String)
    (reloaded : List (String × Rule)) : List Uuid :=
  removedPaths.filterMap (pathIndex[·]?) ++
    reloaded.filterMap fun (name, rule) => pathIndex[name]?.filter (· ≠ rule.id)

def surgicalReload (draws : Draws) (devicesRead : Bool) (changed : List String) (set : RuleSet) :
    RuleSet × Bool :=
  let (reloaded, files) := loadEach codec dir draws changed set.files
  let removedPaths := changed.filter fun name => !set.files.contains name
  let removed := removedIds set.pathIndex removedPaths reloaded
  let rules := reloaded.map (·.2)
  if devicesRead then
    ({ files := files
       source := applyRuleDiff set.source rules removed
       live := applyRuleDiff set.live (compileRules rules devices) removed
       pathIndex := reloaded.foldl (fun index (name, rule) => index.insert name rule.id)
         (removedPaths.foldl (·.erase ·) set.pathIndex) }, true)
  else ({ set with files := files }, false)

def fullReload (draws : Draws) (devicesRead : Bool) (set : RuleSet) : RuleSet :=
  let (rules, files) := loadAll codec dir draws set.files
  if devicesRead then
    let (pathIndex, files) :=
      scanPaths codec dir draws (draws.order (ruleNames files.keys)) files
    ⟨files, rules, compileRules rules devices, pathIndex⟩
  else { set with files := files, source := rules }

/-- Start-up: load and compile everything, then index it. -/
def startSet (draws : Draws) (files : Files) : RuleSet :=
  fullReload codec dir devices draws true ⟨files, [], [], ∅⟩

def reload (set : RuleSet) (batch : Batch) : RuleSet :=
  let edited := { set with files := batch.edits.foldl Edit.apply set.files }
  match surgicalReload codec dir devices batch.draws batch.devicesRead batch.changed edited with
  | (set, true) => set
  | (set, false) => fullReload codec dir devices batch.draws batch.devicesReadAgain set

end Watcher
end HomeCore.Loader
