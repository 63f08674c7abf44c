import HomeCore.Directory
import HomeCore.Rules.Loader
import HomeCore.Runs

/-! The rule files as the server writes them: a rule's file is found by the id in it, a new
file is named after its rule, and a renamed rule moves to the file of its new name. Which
characters are letters and digits, and the RON and TOML codecs, are parameters. -/
namespace HomeCore.RuleFiles
open Loader

abbrev RuleDir := Directory.Dir String Contents

section Names
variable (isAlphanumeric : Char → Bool)

/-- A display name as part of a file name. -/
def slugify (name : String) : String :=
  let raw := name.toList.map fun c => if isAlphanumeric c then c.toLower else '_'
  String.ofList (List.intercalate ['_'] ((raw.splitOn '_').filter fun part => !part.isEmpty))

end Names

def ronPath (stem : String) : String := stem ++ ".ron"

section Files
variable (codec : RuleCodec)

def parseRuleFile (name text : String) : Option Rule :=
  match extension name with
  | some "ron" => codec.parseRon text
  | some "toml" => codec.parseToml text
  | _ => none

/-- `none` where the rule cannot be written so. -/
def serializeRule (rule : Rule) (name : String) : Option String :=
  match extension name with
  | some "toml" => codec.printToml rule
  | _ => codec.printRon rule

/-- `str::contains`. -/
def containsText (text part : String) : Bool := decide (part.toList <:+: text.toList)

/-- The rule of that id, as `find_file` sees it in a file. -/
def ruleIn (id : Uuid) (file : String × Contents) : Option Rule :=
  if isRuleFile file.1 then
    file.2.bind fun text =>
      if containsText text id.text then (parseRuleFile codec file.1 text).filter (·.id = id) else none
  else none

def findFile (dir : RuleDir) (id : Uuid) : Option String :=
  (dir.files.find? fun file => (ruleIn codec id file).isSome).map Prod.fst

/-- The rule that is found by its id, as it stands in the file. -/
def findRule (dir : RuleDir) (id : Uuid) : Option Rule := dir.first (ruleIn codec id)

/-- The file for a new rule: the first of its names that is free. -/
def freePath (dir : RuleDir) (slug : String) (draw : Uuid) : String :=
  if !dir.has (ronPath slug) then ronPath slug
  else match (List.range' 2 998).find? (fun n => !dir.has (ronPath (slug ++ "-" ++ toString n))) with
    | some n => ronPath (slug ++ "-" ++ toString n)
    | none => ronPath (slug ++ "-" ++ draw.text)

/-! ## Calls -/

/-- With a random id, for a name that is taken too often, and the place that a new file gets
among the others. -/
structure FileDraws where
  name : Uuid
  place : Nat

inductive RuleCall where
  | writeRule (rule : Rule) (draws : FileDraws)
  | writeRuleRenamed (rule : Rule) (oldName : String) (draws : FileDraws)
  | deleteRule (id : Uuid)
  /-- The operating system lists the files in another order. -/
  | relisted (listing : RuleDir)

variable (isAlphanumeric : Char → Bool)

def writeRule (dir : RuleDir) (rule : Rule) (draws : FileDraws) : Option RuleDir :=
  let name := (findFile codec dir rule.id).getD (freePath dir (slugify isAlphanumeric rule.name) draws.name)
  (serializeRule codec rule name).map fun text => dir.put draws.place name (some text)

def deleteRule (dir : RuleDir) (id : Uuid) : RuleDir :=
  match findFile codec dir id with
  | some name => dir.remove name
  | none => dir

def writeRuleRenamed (dir : RuleDir) (rule : Rule) (oldName : String) (draws : FileDraws) :
    Option RuleDir :=
  let existing := findFile codec dir rule.id
  let newSlug := slugify isAlphanumeric rule.name
  let newPath := ronPath newSlug
  (codec.printRon rule).map fun text =>
    let written := dir.put draws.place newPath (some text)
    match existing with
    | some old => if old ≠ newPath then written.remove old else written
    | none =>
      let oldSlug := slugify isAlphanumeric oldName
      if oldSlug ≠ newSlug then
        (written.remove (ronPath oldSlug)).remove (oldSlug ++ ".toml")
      else written

/-- The directory after a call; `none` where the rule could not be written, and nothing was. -/
def perform (dir : RuleDir) : RuleCall → Option RuleDir
  | .writeRule rule draws => writeRule codec isAlphanumeric dir rule draws
  | .writeRuleRenamed rule oldName draws => writeRuleRenamed codec isAlphanumeric dir rule oldName draws
  | .deleteRule id => some (deleteRule codec dir id)
  | .relisted listing => if listing.files.Perm dir.files then some listing else some dir

def step (dir : RuleDir) (call : RuleCall) : RuleDir := (perform codec isAlphanumeric dir call).getD dir

/-! ## What it is for -/

/-- Rules by their ids. -/
abbrev RuleMap := Uuid → Option Rule

/-- What a call is to do to the map that the directory stands for; nothing is said of a
listing in another order. -/
def RuleCall.Refines (before : RuleMap) (call : RuleCall) (after : RuleMap) : Prop :=
  match call with
  | writeRule rule _ => after = Function.update before rule.id (some rule)
  | writeRuleRenamed rule _ _ => after = Function.update before rule.id (some rule)
  | deleteRule id => after = Function.update before id none
  | relisted _ => True

/-- A call that goes through does to the rules that are found what it does to the map. -/
def ActsAsMap (dir : RuleDir) (call : RuleCall) : Prop :=
  ∀ after, perform codec isAlphanumeric dir call = some after →
    call.Refines (findRule codec dir) (findRule codec after)

/-! ## Where it is so -/

/-- The rule that can be found in a file, by whatever id it has. -/
def heldRule (file : String × Contents) : Option Rule :=
  if isRuleFile file.1 then
    file.2.bind fun text =>
      (parseRuleFile codec file.1 text).filter fun rule => containsText text rule.id.text
  else none

def holds (id : Uuid) (file : String × Contents) : Bool := (ruleIn codec id file).isSome

def atMostOne (dir : RuleDir) (id : Uuid) : Bool :=
  dir.files.all fun file => dir.files.all fun other =>
    !holds codec id file || !holds codec id other || file.1 = other.1

/-- A new file has a name besides its extension; where the rule of an id is to vanish from
its file, no other file has it; and no file that is written over or removed has another
rule. -/
def keepsApart (dir : RuleDir) : RuleCall → Bool
  | .writeRule rule _ => (findFile codec dir rule.id).isSome ||
      slugify isAlphanumeric rule.name ≠ "" || dir.has (ronPath "")
  | .writeRuleRenamed rule oldName _ =>
    let newSlug := slugify isAlphanumeric rule.name
    let oldSlug := slugify isAlphanumeric oldName
    newSlug ≠ "" && atMostOne codec dir rule.id &&
      dir.files.all (fun file => file.1 ≠ ronPath newSlug || (heldRule codec file).all (·.id = rule.id)) &&
      ((findFile codec dir rule.id).isSome || oldSlug = newSlug ||
        dir.files.all fun file => (file.1 ≠ ronPath oldSlug && file.1 ≠ oldSlug ++ ".toml") ||
          (heldRule codec file).isNone)
  | .deleteRule id => atMostOne codec dir id
  | .relisted _ => true

/-- A random name is no file's. -/
def freshName (dir : RuleDir) : RuleCall → Bool
  | .writeRule rule draws =>
    !dir.has (ronPath (slugify isAlphanumeric rule.name ++ "-" ++ draws.name.text))
  | _ => true

def RuleCall.rule? : RuleCall → Option Rule
  | writeRule rule _ => some rule
  | writeRuleRenamed rule _ _ => some rule
  | _ => none

/-- What a rule is written as is read as that rule again, and has its id in it. -/
structure ReadsBack (rule : Rule) : Prop where
  ron : ∀ text, codec.printRon rule = some text →
    codec.parseRon text = some rule ∧ containsText text rule.id.text = true
  toml : ∀ text, codec.printToml rule = some text →
    codec.parseToml text = some rule ∧ containsText text rule.id.text = true

end Files
end HomeCore.RuleFiles
