import HomeCore.Rules.RuleFiles

/-! When the directory of rule files is a map from ids to rules. A call reads and writes the
files by their names and the rules by the ids in them, so the two have to be kept apart by
hand: a file is written over or removed only where it has no other rule than the call's. -/
namespace HomeCore.RuleFiles
open Loader Directory

variable {codec : RuleCodec} {isAlphanumeric : Char → Bool} {dir : RuleDir} {id other : Uuid}
  {rule : Rule} {file : String × Contents} {name text : String} {draws : FileDraws} {place : Nat}

/-! ## File names -/

theorem extension_ronPath {stem : String} (isStem : stem ≠ "") :
    extension (ronPath stem) = some "ron" := by
  have span : (stem.toList ++ ".ron".toList).reverse.span (· ≠ '.') =
      ("ron".toList.reverse, '.' :: stem.toList.reverse) := by
    rw [List.reverse_append, List.span_eq_takeWhile_dropWhile]
    rfl
  have named : stem.toList.reverse.isEmpty = false := by
    rw [List.isEmpty_reverse, List.isEmpty_eq_false_iff]
    exact fun isNil => isStem (String.toList_eq_nil_iff.mp isNil)
  have apart : (stem.toList ++ ".ron".toList == ['.', '.']) = false := by
    refine beq_false_of_ne fun same => ?_
    have lengths := congrArg List.length same
    rw [List.length_append] at lengths
    have four : ".ron".toList.length = 4 := rfl
    have two : ['.', '.'].length = 2 := rfl
    omega
  have split : splitAtDot (stem ++ ".ron").toList = some (stem.toList, "ron".toList) := by
    rw [String.toList_append, splitAtDot, span]
    simp only [named, apart, Bool.or_self, Bool.false_eq_true, if_false, List.reverse_reverse]
  rw [extension, ronPath, split]
  rfl

theorem isRuleFile_ronPath {stem : String} (isStem : stem ≠ "") : isRuleFile (ronPath stem) = true := by
  rw [isRuleFile, extension_ronPath isStem]
  rfl

theorem ronPath_injective {stem other : String} (same : ronPath stem = ronPath other) : stem = other := by
  have lists := congrArg String.toList same
  simp only [ronPath, String.toList_append] at lists
  exact String.toList_injective (List.append_cancel_right lists)

theorem ronPath_ne_toml (stem other : String) : ronPath stem ≠ other ++ ".toml" := by
  intro same
  have lasts := congrArg (fun name : String => name.toList.getLast?) same
  simp only [ronPath, String.toList_append] at lasts
  rw [List.getLast?_append, List.getLast?_append] at lasts
  change some 'n' = some 'l' at lasts
  cases lasts

/-! ## What a file has -/

theorem ruleIn_eq_heldRule : ruleIn codec id file = (heldRule codec file).filter (·.id = id) := by
  simp only [ruleIn, heldRule]
  split
  next =>
    cases file.2 with
    | none => rfl
    | some text =>
      simp only [Option.bind_some]
      cases parsed : parseRuleFile codec file.1 text with
      | none => simp
      | some rule =>
        rw [Option.filter_filter]
        simp only [Option.filter_some, Bool.and_eq_true, decide_eq_true_eq]
        by_cases same : rule.id = id
        · subst same
          simp
        · simp [same]
  next => rfl

/-- A file that has the rule of one id has no other's. -/
theorem ruleIn_other (found : (ruleIn codec id file).isSome = true) (apart : other ≠ id) :
    ruleIn codec other file = none := by
  obtain ⟨rule, isRule⟩ := Option.isSome_iff_exists.mp found
  rw [ruleIn_eq_heldRule] at isRule ⊢
  obtain ⟨held, same⟩ := Option.filter_eq_some_iff.mp isRule
  rw [held, Option.filter_some, if_neg]
  intro also
  exact apart ((of_decide_eq_true also).symm.trans (of_decide_eq_true same))

theorem ruleIn_of_held (held : (heldRule codec file).all (·.id = id) = true) (apart : other ≠ id) :
    ruleIn codec other file = none := by
  rw [ruleIn_eq_heldRule]
  cases isHeld : heldRule codec file with
  | none => rfl
  | some rule =>
    rw [isHeld, Option.all_some, decide_eq_true_eq] at held
    rw [Option.filter_some, if_neg]
    intro also
    exact apart ((of_decide_eq_true also).symm.trans held)

theorem ruleIn_of_unheld (unheld : (heldRule codec file).isNone = true) :
    ruleIn codec id file = none := by
  rw [ruleIn_eq_heldRule, Option.isNone_iff_eq_none.mp unheld]
  rfl

/-- A rule is found in the file it was written to. -/
theorem ruleIn_written (back : ReadsBack codec rule) (isFile : isRuleFile name = true)
    (written : serializeRule codec rule name = some text) :
    ruleIn codec rule.id (name, some text) = some rule := by
  have parsed : parseRuleFile codec name text = some rule ∧ containsText text rule.id.text = true := by
    rw [isRuleFile, Bool.or_eq_true, beq_iff_eq, beq_iff_eq] at isFile
    rcases isFile with isRon | isToml
    · simp only [serializeRule, isRon] at written
      simp only [parseRuleFile, isRon]
      exact back.ron text written
    · simp only [serializeRule, isToml] at written
      simp only [parseRuleFile, isToml]
      exact back.toml text written
  simp only [ruleIn, isFile, if_true, Option.bind_some, parsed.1, parsed.2]
  simp

theorem findFile_eq_some (found : findFile codec dir id = some name) :
    ∃ file, dir.files.find? (fun file => (ruleIn codec id file).isSome) = some file ∧
      file.1 = name ∧ file ∈ dir.files ∧ (ruleIn codec id file).isSome = true := by
  obtain ⟨file, isFirst, isName⟩ := Option.map_eq_some_iff.mp found
  have holdsIt := List.find?_some isFirst
  exact ⟨file, isFirst, isName, List.mem_of_find?_eq_some isFirst, holdsIt⟩

theorem findFile_eq_none (found : findFile codec dir id = none) :
    ∀ file ∈ dir.files, ruleIn codec id file = none := by
  intro file member
  have none := List.find?_eq_none.mp (Option.map_eq_none_iff.mp found) file member
  exact Option.not_isSome_iff_eq_none.mp none

theorem atMostOne_spec (one : atMostOne codec dir id = true) {file also : String × Contents}
    (member : file ∈ dir.files) (alsoMember : also ∈ dir.files)
    (holdsIt : (ruleIn codec id file).isSome = true) (alsoHolds : (ruleIn codec id also).isSome = true) :
    file.1 = also.1 := by
  have same := List.all_eq_true.mp (List.all_eq_true.mp one file member) also alsoMember
  simpa [holds, holdsIt, alsoHolds] using same

/-! ## Calls -/

theorem refines_of_own {before after : RuleMap} {found : Option Rule} (own : after id = found)
    (others : ∀ other, other ≠ id → after other = before other) :
    after = Function.update before id found := by
  funext other
  by_cases same : other = id
  · subst same
    rw [own, Function.update_self]
  · rw [others other same, Function.update_of_ne same]

/-- A file that is written with the rule of an id changes nothing for the other ids where it
had none of theirs. -/
theorem findRule_put_other (written : ruleIn codec id (name, some text) = some rule)
    (apart : other ≠ id)
    (unheld : ∀ old ∈ dir.files, old.1 = name → ruleIn codec other old = none) :
    findRule codec (dir.put place name (some text)) other = findRule codec dir other := by
  have elsewhere : ruleIn codec other (name, some text) = none :=
    ruleIn_other (Option.isSome_iff_exists.mpr ⟨rule, written⟩) apart
  exact Dir.first_put_of_none unheld elsewhere

theorem freePath_spec {slug : String} {draw : Uuid}
    (fresh : dir.has (ronPath (slug ++ "-" ++ draw.text)) = false)
    (named : slug ≠ "" ∨ dir.has (ronPath "") = true) :
    ∃ stem, freePath dir slug draw = ronPath stem ∧ dir.has (ronPath stem) = false ∧ stem ≠ "" := by
  have hyphenated : ∀ rest : String, slug ++ "-" ++ rest ≠ "" := by
    intro rest isEmpty
    have lengths := congrArg String.length isEmpty
    simp only [String.length_append] at lengths
    have hyphen : "-".length = 1 := rfl
    have empty : "".length = 0 := rfl
    omega
  simp only [freePath]
  split
  next isFree =>
    rw [Bool.not_eq_true'] at isFree
    refine ⟨slug, rfl, isFree, ?_⟩
    rintro rfl
    rcases named with isNamed | taken
    · exact isNamed rfl
    · rw [isFree] at taken
      cases taken
  next =>
    split
    next n found =>
      have isFree := List.find?_some found
      rw [Bool.not_eq_true'] at isFree
      exact ⟨slug ++ "-" ++ toString n, rfl, isFree, hyphenated _⟩
    next => exact ⟨slug ++ "-" ++ draw.text, rfl, fresh, hyphenated _⟩

theorem not_has (absent : dir.has name = false) : ∀ old ∈ dir.files, old.1 ≠ name := by
  rintro old member rfl
  exact absurd (List.mem_map_of_mem member) (of_decide_eq_false absent)

section NewPath
variable {newPath : String} (written : ruleIn codec rule.id (newPath, some text) = some rule)
  (held : ∀ old ∈ dir.files, old.1 = newPath → (heldRule codec old).all (·.id = rule.id) = true)
  (place : Nat)
include written held

/-- The rule has its new file, no other file is left that has it, and what was removed had no
other rule. -/
theorem renamed_refines {after : RuleDir} (isIn : (newPath, some text) ∈ after.files)
    (gone : ∀ file ∈ after.files, file.1 ≠ newPath → ruleIn codec rule.id file = none)
    (others : ∀ other, other ≠ rule.id →
      findRule codec after other = findRule codec (dir.put place newPath (some text)) other) :
    findRule codec after = Function.update (findRule codec dir) rule.id (some rule) := by
  refine refines_of_own ?_ ?_
  · refine Dir.first_eq_of_all isIn written ?_
    intro file member found isFound
    by_cases sameName : file.1 = newPath
    · rw [Dir.eq_of_name member isIn sameName, written] at isFound
      exact (Option.some.inj isFound).symm
    · rw [gone file member sameName] at isFound
      cases isFound
  · intro other apart
    rw [others other apart]
    exact findRule_put_other written apart fun old member sameName =>
      ruleIn_of_held (held old member sameName) apart

/-- Nothing is removed: no other file has the rule. -/
theorem put_refines
    (elsewhere : ∀ file ∈ dir.files, file.1 ≠ newPath → ruleIn codec rule.id file = none) :
    findRule codec (dir.put place newPath (some text)) =
      Function.update (findRule codec dir) rule.id (some rule) := by
  refine renamed_refines written held place (Dir.mem_put.mpr (.inl rfl)) ?_ fun _ _ => rfl
  intro file member apart
  rcases Dir.mem_put.mp member with rfl | ⟨was, _⟩
  · exact (apart rfl).elim
  · exact elsewhere file was apart

/-- The file that had the rule is removed. -/
theorem moved_refines (member : file ∈ dir.files) (moves : file.1 ≠ newPath)
    (holdsIt : (ruleIn codec rule.id file).isSome = true)
    (onlyThere : ∀ other ∈ dir.files, other.1 ≠ file.1 → ruleIn codec rule.id other = none) :
    findRule codec ((dir.put place newPath (some text)).remove file.1) =
      Function.update (findRule codec dir) rule.id (some rule) := by
  refine renamed_refines written held place
    (Dir.mem_remove.mpr ⟨Dir.mem_put.mpr (.inl rfl), Ne.symm moves⟩) ?_ ?_
  · intro other isOther apart
    obtain ⟨isPut, kept⟩ := Dir.mem_remove.mp isOther
    rcases Dir.mem_put.mp isPut with rfl | ⟨was, _⟩
    · exact (apart rfl).elim
    · exact onlyThere other was kept
  · intro other isApart
    refine Dir.first_remove_of_none fun old isOld sameName => ?_
    rcases Dir.mem_put.mp isOld with rfl | ⟨was, _⟩
    · exact (moves sameName.symm).elim
    · rw [Dir.eq_of_name was member sameName]
      exact ruleIn_other holdsIt isApart

/-- No file had the rule, and those of its old name are removed. -/
theorem replaced_refines {oldRon oldToml : String}
    (nowhere : ∀ file ∈ dir.files, ruleIn codec rule.id file = none)
    (ronApart : newPath ≠ oldRon) (tomlApart : newPath ≠ oldToml)
    (unheld : ∀ old ∈ dir.files, old.1 = oldRon ∨ old.1 = oldToml →
      (heldRule codec old).isNone = true) :
    findRule codec (((dir.put place newPath (some text)).remove oldRon).remove oldToml) =
      Function.update (findRule codec dir) rule.id (some rule) := by
  have isIn : (newPath, some text) ∈ (dir.put place newPath (some text)).files :=
    Dir.mem_put.mpr (.inl rfl)
  refine renamed_refines written held place
    (Dir.mem_remove.mpr ⟨Dir.mem_remove.mpr ⟨isIn, ronApart⟩, tomlApart⟩) ?_ ?_
  · intro other isOther apart
    obtain ⟨isRemoved, _⟩ := Dir.mem_remove.mp isOther
    obtain ⟨isPut, _⟩ := Dir.mem_remove.mp isRemoved
    rcases Dir.mem_put.mp isPut with rfl | ⟨was, _⟩
    · exact (apart rfl).elim
    · exact nowhere other was
  · intro other _
    rw [findRule, Dir.first_remove_of_none, Dir.first_remove_of_none]
    · rfl
    · intro old isOld sameName
      rcases Dir.mem_put.mp isOld with rfl | ⟨was, _⟩
      · exact (ronApart sameName).elim
      · exact ruleIn_of_unheld (unheld old was (.inl sameName))
    · intro old isOld sameName
      obtain ⟨isPut, _⟩ := Dir.mem_remove.mp isOld
      rcases Dir.mem_put.mp isPut with rfl | ⟨was, _⟩
      · exact (tomlApart sameName).elim
      · exact ruleIn_of_unheld (unheld old was (.inr sameName))

end NewPath

/-- The rule is written to the file it was found in. -/
theorem put_found_refines (found : findFile codec dir rule.id = some name)
    (written : ruleIn codec rule.id (name, some text) = some rule) :
    findRule codec (dir.put place name (some text)) =
      Function.update (findRule codec dir) rule.id (some rule) := by
  obtain ⟨file, isFirst, rfl, member, holdsIt⟩ := findFile_eq_some found
  refine refines_of_own ?_ ?_
  · refine Dir.first_put_of_first isFirst ?_ written
    intro old _ unheld
    exact Option.isNone_iff_eq_none.mp (Option.isSome_eq_false_iff.mp unheld)
  · intro other apart
    refine findRule_put_other written apart ?_
    intro old isOld sameName
    rw [Dir.eq_of_name isOld member sameName]
    exact ruleIn_other holdsIt apart

theorem deleteRule_refines (one : atMostOne codec dir id = true) :
    findRule codec (deleteRule codec dir id) = Function.update (findRule codec dir) id none := by
  rw [deleteRule]
  cases found : findFile codec dir id with
  | none =>
    refine refines_of_own ?_ fun other _ => rfl
    exact Dir.first_eq_none.mpr (findFile_eq_none found)
  | some name =>
    obtain ⟨file, _, rfl, member, holdsIt⟩ := findFile_eq_some found
    refine refines_of_own ?_ ?_
    · refine Dir.first_eq_none.mpr fun old isOld => ?_
      obtain ⟨was, apart⟩ := Dir.mem_remove.mp isOld
      rw [← Option.not_isSome_iff_eq_none]
      intro alsoHolds
      exact apart (atMostOne_spec one was member alsoHolds holdsIt)
    · intro other apart
      refine Dir.first_remove_of_none fun old isOld sameName => ?_
      rw [Dir.eq_of_name isOld member sameName]
      exact ruleIn_other holdsIt apart

theorem writeRule_refines (back : ReadsBack codec rule) {after : RuleDir}
    (fresh : freshName isAlphanumeric dir (.writeRule rule draws) = true)
    (apart : keepsApart codec isAlphanumeric dir (.writeRule rule draws) = true)
    (performed : writeRule codec isAlphanumeric dir rule draws = some after) :
    findRule codec after = Function.update (findRule codec dir) rule.id (some rule) := by
  simp only [freshName, Bool.not_eq_true'] at fresh
  simp only [keepsApart, Bool.or_eq_true, decide_eq_true_eq] at apart
  simp only [writeRule] at performed
  obtain ⟨text, serialized, rfl⟩ := Option.map_eq_some_iff.mp performed
  cases found : findFile codec dir rule.id with
  | some name =>
    rw [found, Option.getD_some] at serialized
    rw [Option.getD_some]
    obtain ⟨file, _, rfl, _, holdsIt⟩ := findFile_eq_some found
    have isFile : isRuleFile file.1 = true := by
      by_contra notFile
      simp [ruleIn, notFile] at holdsIt
    exact put_found_refines found (ruleIn_written back isFile serialized)
  | none =>
    rw [found, Option.getD_none] at serialized
    rw [Option.getD_none]
    simp only [found, Option.isSome_none, Bool.false_eq_true, false_or] at apart
    obtain ⟨stem, isPath, absent, isStem⟩ := freePath_spec fresh apart
    rw [isPath] at serialized ⊢
    exact put_refines (ruleIn_written back (isRuleFile_ronPath isStem) serialized)
      (fun old member isName => (not_has absent old member isName).elim) draws.place
      fun file member _ => findFile_eq_none found file member

theorem writeRuleRenamed_refines (back : ReadsBack codec rule) {oldName : String} {after : RuleDir}
    (apart : keepsApart codec isAlphanumeric dir (.writeRuleRenamed rule oldName draws) = true)
    (performed : writeRuleRenamed codec isAlphanumeric dir rule oldName draws = some after) :
    findRule codec after = Function.update (findRule codec dir) rule.id (some rule) := by
  simp only [keepsApart, Bool.and_eq_true, decide_eq_true_eq, List.all_eq_true] at apart
  obtain ⟨⟨⟨isStem, one⟩, heldRules⟩, unheld⟩ := apart
  have held : ∀ old ∈ dir.files, old.1 = ronPath (slugify isAlphanumeric rule.name) →
      (heldRule codec old).all (·.id = rule.id) = true := by
    intro old member sameName
    simpa [sameName] using heldRules old member
  simp only [writeRuleRenamed] at performed
  obtain ⟨text, printed, rfl⟩ := Option.map_eq_some_iff.mp performed
  have written : ruleIn codec rule.id (ronPath (slugify isAlphanumeric rule.name), some text) = some rule := by
    refine ruleIn_written back (isRuleFile_ronPath isStem) ?_
    simp only [serializeRule, extension_ronPath isStem]
    exact printed
  cases found : findFile codec dir rule.id with
  | some old =>
    obtain ⟨file, _, rfl, member, holdsIt⟩ := findFile_eq_some found
    have onlyThere : ∀ other ∈ dir.files, other.1 ≠ file.1 → ruleIn codec rule.id other = none := by
      intro other isOther elsewhere
      rw [← Option.not_isSome_iff_eq_none]
      intro alsoHolds
      exact elsewhere (atMostOne_spec one isOther member alsoHolds holdsIt)
    by_cases stays : file.1 = ronPath (slugify isAlphanumeric rule.name)
    · simp only [stays, ne_eq, not_true_eq_false, if_false]
      exact put_refines written held draws.place fun other isOther elsewhere =>
        onlyThere other isOther fun same => elsewhere (same.trans stays)
    · simp only [stays, ne_eq, not_false_eq_true, if_true]
      exact moved_refines written held draws.place member stays holdsIt onlyThere
  | none =>
    have nowhere := findFile_eq_none found
    by_cases sameSlug : slugify isAlphanumeric oldName = slugify isAlphanumeric rule.name
    · simp only [sameSlug, ne_eq, not_true_eq_false, if_false]
      exact put_refines written held draws.place fun other isOther _ => nowhere other isOther
    · simp only [sameSlug, ne_eq, not_false_eq_true, if_true]
      refine replaced_refines written held draws.place nowhere
        (fun same => sameSlug (ronPath_injective same).symm) (ronPath_ne_toml _ _) ?_
      intro old member isName
      simp only [found, Option.isSome_none, Bool.false_eq_true, sameSlug, decide_false, false_or,
        Bool.or_eq_true, List.all_eq_true, Bool.and_eq_true, decide_eq_true_eq] at unheld
      refine (unheld old member).resolve_left ?_
      rintro ⟨notRon, notToml⟩
      exact isName.elim notRon notToml

/-! ## Runs -/

theorem actsAsMap {call : RuleCall} (back : ∀ rule, call.rule? = some rule → ReadsBack codec rule)
    (fresh : freshName isAlphanumeric dir call = true)
    (apart : keepsApart codec isAlphanumeric dir call = true) : ActsAsMap codec isAlphanumeric dir call := by
  intro after performed
  cases call with
  | writeRule rule draws => exact writeRule_refines (back rule rfl) fresh apart performed
  | writeRuleRenamed rule oldName draws => exact writeRuleRenamed_refines (back rule rfl) apart performed
  | deleteRule id =>
    cases performed
    exact deleteRule_refines apart
  | relisted listing => trivial

/-- In every sequence of calls that keep the files of different rules apart, each call does
to the rules that are found what it does to a map. -/
theorem directory_acts_as_map (codec : RuleCodec) (isAlphanumeric : Char → Bool) (dir : RuleDir)
    (calls : List RuleCall)
    (back : ∀ call ∈ calls, ∀ rule, call.rule? = some rule → ReadsBack codec rule)
    (fresh : Runs.EachStep (step codec isAlphanumeric)
      (fun dir call => freshName isAlphanumeric dir call = true) dir calls)
    (apart : Runs.EachStep (step codec isAlphanumeric)
      (fun dir call => keepsApart codec isAlphanumeric dir call = true) dir calls) :
    Runs.EachStep (step codec isAlphanumeric) (ActsAsMap codec isAlphanumeric) dir calls := by
  induction calls generalizing dir with
  | nil => trivial
  | cons call rest ih =>
    refine ⟨actsAsMap (back call List.mem_cons_self) fresh.1 apart.1, ?_⟩
    exact ih _ (fun later member => back later (List.mem_cons_of_mem call member)) fresh.2 apart.2

/-- A rule is written as its id and its name. -/
def plainRule (id : Uuid) (name : String) : Rule := { Rule.minimal id .manualTrigger [] with name := name }

def readPlain (text : String) : Option Rule :=
  [⟨1⟩, ⟨2⟩].findSome? fun id => if id.text.toList.isPrefixOf text.toList then
    some (plainRule id (String.ofList (text.toList.drop 36))) else none

def plainCodec : RuleCodec where
  parseRon := readPlain
  parseToml := readPlain
  printRon rule := some (rule.id.text ++ rule.name)
  printToml rule := some (rule.id.text ++ rule.name)
  uuidV5 _ := ⟨0⟩

def porchRule : Rule := plainRule ⟨1⟩ "Porch light"

def atticRule : Rule := plainRule ⟨2⟩ "Attic fan"

def emptyDir : RuleDir := ⟨[], List.nodup_nil⟩

/-- Two rules are written, and one of them is renamed. -/
def renamesAttic : List RuleCall :=
  [.writeRule porchRule ⟨⟨7⟩, 0⟩, .writeRule atticRule ⟨⟨8⟩, 0⟩,
    .writeRuleRenamed (plainRule ⟨2⟩ "Attic") "Attic fan" ⟨⟨9⟩, 1⟩, .deleteRule ⟨1⟩]

theorem plain_readsBack (reads : readPlain (rule.id.text ++ rule.name) = some rule) :
    ReadsBack plainCodec rule := by
  have inside : containsText (rule.id.text ++ rule.name) rule.id.text = true := by
    rw [containsText, String.toList_append]
    exact decide_eq_true (List.prefix_append _ _).isInfix
  have back : ∀ text, some (rule.id.text ++ rule.name) = some text →
      readPlain text = some rule ∧ containsText text rule.id.text = true := by
    intro text printed
    rw [← Option.some.inj printed]
    exact ⟨reads, inside⟩
  exact ⟨back, back⟩

theorem attic_renamed :
    Runs.EachStep (step plainCodec Char.isAlphanum) (ActsAsMap plainCodec Char.isAlphanum) emptyDir
        renamesAttic ∧
      (renamesAttic.foldl (step plainCodec Char.isAlphanum) emptyDir).files.map Prod.fst = ["attic.ron"] := by
  refine ⟨directory_acts_as_map plainCodec Char.isAlphanum emptyDir renamesAttic ?_ ?_ ?_, ?_⟩
  · intro call member rule isRule
    simp only [renamesAttic, List.mem_cons, List.not_mem_nil, or_false] at member
    rcases member with rfl | rfl | rfl | rfl
    · cases isRule
      exact plain_readsBack rfl
    · cases isRule
      exact plain_readsBack rfl
    · cases isRule
      exact plain_readsBack rfl
    · cases isRule
  all_goals decide

/-- The rule of the attic gets the name that the porch's has. -/
def renamesOntoPorch : List RuleCall :=
  [.writeRule porchRule ⟨⟨7⟩, 0⟩, .writeRule atticRule ⟨⟨8⟩, 0⟩,
    .writeRuleRenamed (plainRule ⟨2⟩ "Porch light") "Attic fan" ⟨⟨9⟩, 1⟩]

/-- The directory with both rules. -/
def bothRules : RuleDir := (renamesOntoPorch.take 2).foldl (step plainCodec Char.isAlphanum) emptyDir

def porchLost : RuleDir := renamesOntoPorch.foldl (step plainCodec Char.isAlphanum) emptyDir

theorem renaming_loses_porch :
    ¬ Runs.EachStep (step plainCodec Char.isAlphanum) (ActsAsMap plainCodec Char.isAlphanum) emptyDir
      renamesOntoPorch := by
  intro steps
  have acts : ActsAsMap plainCodec Char.isAlphanum bothRules
      (.writeRuleRenamed (plainRule ⟨2⟩ "Porch light") "Attic fan" ⟨⟨9⟩, 1⟩) := steps.2.2.1
  have refines := acts porchLost rfl
  have porch := congrFun refines ⟨1⟩
  rw [Function.update_of_ne (by decide)] at porch
  have before : (findRule plainCodec bothRules ⟨1⟩).isSome = true := by decide
  have after : (findRule plainCodec porchLost ⟨1⟩).isSome = false := by decide
  rw [porch, before] at after
  cases after

end HomeCore.RuleFiles
