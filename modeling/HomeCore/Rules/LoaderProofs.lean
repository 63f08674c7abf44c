import HomeCore.Rules.Loader
import HomeCore.Runs

/-! When the incremental reload agrees with the full load. The reload finds the
rules a change makes obsolete through its index from paths to ids, so it is
right as long as ids tell files apart and the index knows the files it is to
replace. -/
namespace HomeCore.Loader
open Resolver

section Settled
variable (codec : RuleCodec) (dir : String)

/-- The rule of a file that needs no id generated. -/
def settledRule (name : String) (contents : Contents) : Option Rule :=
  match readRule codec dir name contents with
  | .error why => some (brokenStub codec dir name why)
  | .ok rule => if rule.id.isNil then none else some (withFileName name rule)

def ruleAt (files : Files) (name : String) : Option Rule :=
  if isRuleFile name then files[name]?.bind (settledRule codec dir name) else none

/-- Every rule file has its id, and no two of them the same. -/
structure Settled (files : Files) : Prop where
  loads : ∀ name ∈ ruleNames files.keys, (ruleAt codec dir files name).isSome
  distinct : ((ruleNames files.keys).map fun name =>
    (ruleAt codec dir files name).map (·.id)).Nodup

/-- Loading the named files leaves a settled directory, in which each of them
reads as the rule it was loaded as. -/
structure LoadsCleanly (draws : Draws) (names : List String) (files : Files) : Prop where
  settled : Settled codec dir (loadEach codec dir draws names files).2
  written : ∀ name rule, (name, rule) ∈ (loadEach codec dir draws names files).1 →
    ruleAt codec dir (loadEach codec dir draws names files).2 name = some rule

end Settled

section Property
variable (codec : RuleCodec) (dir : String) (devices : List DeviceState)

/-- The rule set, as written and as compiled, is what loading the directory
afresh would give. -/
structure Agrees (set : RuleSet) : Prop where
  source : ∀ draws, set.source.Perm (loadAll codec dir draws set.files).1
  live : ∀ draws, set.live.Perm (compileRules (loadAll codec dir draws set.files).1 devices)

/-- The batch leaves rule files with ids that tell them apart; each changed file
that stood for a rule before is known to the index or still has that rule's id;
and the device list could be read. -/
structure KeepsTrack (set : RuleSet) (batch : Batch) : Prop where
  clean : LoadsCleanly codec dir batch.draws batch.changed (batch.edits.foldl Edit.apply set.files)
  indexed : ∀ name ∈ batch.changed, set.pathIndex[name]? = none →
    ∀ old, ruleAt codec dir set.files name = some old →
      (ruleAt codec dir
        (loadEach codec dir batch.draws batch.changed (batch.edits.foldl Edit.apply set.files)).2
        name).map (·.id) = some old.id
  read : batch.devicesRead = true ∨ batch.devicesReadAgain = true

end Property

/-! ## Loading settled files -/

section Loading
variable {codec : RuleCodec} {dir : String}

theorem loadOrStub_settled {name : String} {contents : Contents} {rule : Rule}
    (settled : settledRule codec dir name contents = some rule) (draws : Draws) :
    loadOrStub codec dir draws name contents = (rule, contents) := by
  unfold settledRule at settled
  unfold loadOrStub loadFile
  cases read : readRule codec dir name contents with
  | error why =>
    simp only [read, Option.some_inj] at settled
    simp [settled]
  | ok found =>
    simp only [read] at settled
    split at settled
    · cases settled
    · rename_i hasId
      simpa [hasId] using settled

theorem insert_of_getElem? {α β : Type} {cmp : α → α → Ordering} [Std.TransCmp cmp]
    [Std.LawfulEqCmp cmp] {m : Std.ExtTreeMap α β cmp} {k : α} {v : β} (found : m[k]? = some v) :
    m.insert k v = m := by
  apply Std.ExtTreeMap.ext_getElem?
  intro key
  rw [Std.ExtTreeMap.getElem?_insert]
  split
  · rename_i same
    rw [← Std.LawfulEqCmp.eq_of_compare same, found]
  · rfl

theorem mem_ruleNames {files : Files} {name : String} :
    name ∈ ruleNames files.keys ↔ isRuleFile name = true ∧ name ∈ files := by
  simp [ruleNames, and_comm]

theorem ruleAt_eq_some {files : Files} {name : String} {rule : Rule} :
    ruleAt codec dir files name = some rule ↔
      isRuleFile name = true ∧ ∃ contents, files[name]? = some contents ∧
        settledRule codec dir name contents = some rule := by
  unfold ruleAt
  split <;> simp_all [Option.bind_eq_some_iff]

/-- Settled files are loaded as they are, and left as they are. -/
theorem loadEach_settled {files : Files}
    (loads : ∀ name ∈ ruleNames files.keys, (ruleAt codec dir files name).isSome) (draws : Draws)
    (names : List String) (rulesOnly : ∀ name ∈ names, isRuleFile name = true) :
    loadEach codec dir draws names files =
      (names.filterMap fun name => (ruleAt codec dir files name).map (name, ·), files) := by
  induction names with
  | nil => rfl
  | cons name rest ih =>
    have later := ih fun other member => rulesOnly other (List.mem_cons_of_mem _ member)
    have isRule := rulesOnly name List.mem_cons_self
    unfold loadEach
    cases found : files[name]? with
    | none => simp [later, ruleAt, found]
    | some contents =>
      have member : name ∈ ruleNames files.keys := by
        rw [mem_ruleNames, Std.ExtTreeMap.mem_iff_isSome_getElem?, found]
        exact ⟨isRule, rfl⟩
      obtain ⟨rule, loaded⟩ := Option.isSome_iff_exists.mp (loads name member)
      obtain ⟨_, _, found', settled⟩ := ruleAt_eq_some.mp loaded
      cases found.symm.trans found'
      simp only [loadOrStub_settled settled draws, insert_of_getElem? found, later, loaded,
        Option.map_some, List.filterMap_cons]

/-- A pass over some files does not touch the others. -/
theorem loadEach_other {draws : Draws} {names : List String} {files : Files} {name : String}
    (other : name ∉ names) :
    (loadEach codec dir draws names files).2[name]? = files[name]? := by
  induction names generalizing files with
  | nil => rfl
  | cons first rest ih =>
    simp only [List.mem_cons, not_or] at other
    unfold loadEach
    cases files[first]? with
    | none => exact ih other.2
    | some contents =>
      dsimp only
      rw [ih other.2, Std.ExtTreeMap.getElem?_insert]
      have differ : ¬ compare first name = .eq := fun same =>
        other.1 (Std.LawfulEqCmp.eq_of_compare same).symm
      rw [if_neg differ]

theorem mem_loadEach {draws : Draws} {names : List String} {files : Files} {name : String} :
    name ∈ (loadEach codec dir draws names files).2 ↔ name ∈ files := by
  induction names generalizing files with
  | nil => rfl
  | cons first rest ih =>
    unfold loadEach
    cases found : files[first]? with
    | none => exact ih
    | some contents =>
      dsimp only
      rw [ih, Std.ExtTreeMap.mem_insert]
      constructor
      · rintro (same | member)
        · rw [← Std.LawfulEqCmp.eq_of_compare same, Std.ExtTreeMap.mem_iff_isSome_getElem?, found]
          rfl
        · exact member
      · exact .inr

/-- The files a pass loads are those it is given that are there. -/
theorem loadEach_names {draws : Draws} {names : List String} {files : Files} :
    (loadEach codec dir draws names files).1.map (·.1) = names.filter fun name => name ∈ files := by
  induction names generalizing files with
  | nil => rfl
  | cons first rest ih =>
    unfold loadEach
    cases found : files[first]? with
    | none =>
      have absent : first ∉ files := by
        simp [Std.ExtTreeMap.mem_iff_isSome_getElem?, found]
      simp [ih, absent]
    | some contents =>
      have present : first ∈ files := by
        simp [Std.ExtTreeMap.mem_iff_isSome_getElem?, found]
      have same : ∀ name ∈ rest, decide (name ∈ files.insert first
          (loadOrStub codec dir draws first contents).2) = decide (name ∈ files) := by
        intro name _
        rw [decide_eq_decide, Std.ExtTreeMap.mem_insert]
        constructor
        · rintro (isFirst | member)
          · rwa [← Std.LawfulEqCmp.eq_of_compare isFirst]
          · exact member
        · exact .inr
      simp only [List.map_cons, ih, List.filter_congr same, present, decide_true, List.filter_cons,
        if_true]

theorem Settled.injective {files : Files} (settled : Settled codec dir files) {a b : String}
    {ruleA ruleB : Rule} (atA : ruleAt codec dir files a = some ruleA)
    (atB : ruleAt codec dir files b = some ruleB) (sameId : ruleA.id = ruleB.id) : a = b := by
  have listed : ∀ {name rule}, ruleAt codec dir files name = some rule →
      name ∈ ruleNames files.keys := by
    intro name rule found
    obtain ⟨isRule, contents, present, _⟩ := ruleAt_eq_some.mp found
    rw [mem_ruleNames, Std.ExtTreeMap.mem_iff_isSome_getElem?, present]
    exact ⟨isRule, rfl⟩
  exact List.inj_on_of_nodup_map settled.distinct (listed atA) (listed atB) (by simp [atA, atB, sameId])

theorem ruleAt_congr {files others : Files} {name : String} (same : files[name]? = others[name]?) :
    ruleAt codec dir files name = ruleAt codec dir others name := by
  simp only [ruleAt, same]

theorem LoadsCleanly.mem_loaded {draws : Draws} {names : List String} {files : Files}
    (clean : LoadsCleanly codec dir draws names files) {name : String} {rule : Rule} :
    (name, rule) ∈ (loadEach codec dir draws names files).1 ↔
      name ∈ names ∧ ruleAt codec dir (loadEach codec dir draws names files).2 name = some rule := by
  constructor
  · intro member
    have named : name ∈ (loadEach codec dir draws names files).1.map (·.1) :=
      List.mem_map.mpr ⟨_, member, rfl⟩
    rw [loadEach_names] at named
    exact ⟨(List.mem_filter.mp named).1, clean.written name rule member⟩
  · rintro ⟨listed, found⟩
    obtain ⟨_, contents, present, _⟩ := ruleAt_eq_some.mp found
    have after : name ∈ (loadEach codec dir draws names files).2 := by
      rw [Std.ExtTreeMap.mem_iff_isSome_getElem?, present]
      rfl
    have there : name ∈ files := mem_loadEach.mp after
    have named : name ∈ (loadEach codec dir draws names files).1.map (·.1) := by
      rw [loadEach_names]
      exact List.mem_filter.mpr ⟨listed, by simpa using there⟩
    obtain ⟨⟨_, other⟩, member, rfl⟩ := List.mem_map.mp named
    have same := (clean.written _ other member).symm.trans found
    cases same
    exact member

/-- The rules loaded in one pass have ids of their own. -/
theorem LoadsCleanly.nodup_ids {draws : Draws} {names : List String} {files : Files}
    (clean : LoadsCleanly codec dir draws names files) (nodup : names.Nodup) :
    (((loadEach codec dir draws names files).1.map (·.2)).map (·.id)).Nodup := by
  have namesNodup : ((loadEach codec dir draws names files).1.map (·.1)).Nodup := by
    rw [loadEach_names]
    exact nodup.filter _
  rw [List.map_map]
  refine (List.Nodup.of_map _ namesNodup).map_on ?_
  rintro ⟨a, ruleA⟩ memberA ⟨b, ruleB⟩ memberB sameId
  have atA := clean.written a ruleA memberA
  have atB := clean.written b ruleB memberB
  obtain rfl := clean.settled.injective atA atB sameId
  cases atA.symm.trans atB
  rfl

theorem stubDuplicates_of_nodup (draws : Draws) (rules : List Rule) (seen : List Uuid) (k : Nat)
    (nodup : (rules.map (·.id)).Nodup) (apart : ∀ rule ∈ rules, rule.id ∉ seen) :
    stubDuplicates draws seen k rules = rules := by
  induction rules generalizing seen k with
  | nil => rfl
  | cons rule rest ih =>
    obtain ⟨notLater, nodup⟩ := List.nodup_cons.mp nodup
    unfold stubDuplicates
    rw [if_neg (apart rule List.mem_cons_self), ih (rule.id :: seen) (k + 1) nodup]
    intro other member
    simp only [List.mem_cons, not_or]
    refine ⟨?_, apart other (List.mem_cons_of_mem _ member)⟩
    intro same
    exact notLater (List.mem_map.mpr ⟨other, member, same⟩)

theorem perm_byPriority (rules : List Rule) : (byPriority rules).Perm rules :=
  List.perm_insertionSort _ rules

theorem nodup_ruleNames (files : Files) : (ruleNames files.keys).Nodup :=
  (Std.ExtTreeMap.nodup_keys).filter _

/-- A clean load takes every file's rule once. -/
theorem LoadsCleanly.loadAll {draws : Draws} {files : Files}
    (clean : LoadsCleanly codec dir draws (draws.order (ruleNames files.keys)) files) :
    (loadAll codec dir draws files).2 =
        (loadEach codec dir draws (draws.order (ruleNames files.keys)) files).2 ∧
      (Loader.loadAll codec dir draws files).1.Nodup ∧
      ∀ rule, rule ∈ (Loader.loadAll codec dir draws files).1 ↔
        ∃ name, ruleAt codec dir (Loader.loadAll codec dir draws files).2 name = some rule := by
  have nodup : (draws.order (ruleNames files.keys)).Nodup :=
    (draws.perm _).nodup_iff.mpr (nodup_ruleNames files)
  have ids := clean.nodup_ids nodup
  have rulesEq : (Loader.loadAll codec dir draws files).1 = byPriority
      ((loadEach codec dir draws (draws.order (ruleNames files.keys)) files).1.map (·.2)) := by
    simp only [Loader.loadAll]
    rw [stubDuplicates_of_nodup draws _ [] 0 ids (by simp)]
  refine ⟨rfl, ?_, fun rule => ?_⟩
  · rw [rulesEq, (perm_byPriority _).nodup_iff]
    exact List.Nodup.of_map _ ids
  · rw [rulesEq, (perm_byPriority _).mem_iff, List.mem_map]
    constructor
    · rintro ⟨⟨name, rule⟩, member, rfl⟩
      exact ⟨name, clean.written name rule member⟩
    · rintro ⟨name, found⟩
      obtain ⟨isRule, contents, present, _⟩ := ruleAt_eq_some.mp found
      have listed : name ∈ draws.order (ruleNames files.keys) := by
        rw [(draws.perm _).mem_iff, mem_ruleNames]
        refine ⟨isRule, ?_⟩
        have after : name ∈ (Loader.loadAll codec dir draws files).2 := by
          rw [Std.ExtTreeMap.mem_iff_isSome_getElem?, present]
          rfl
        exact mem_loadEach.mp after
      exact ⟨(name, rule), clean.mem_loaded.mpr ⟨listed, found⟩, rfl⟩

theorem Settled.loadsCleanly {files : Files} (settled : Settled codec dir files) (draws : Draws)
    {names : List String} (rulesOnly : ∀ name ∈ names, isRuleFile name = true) :
    LoadsCleanly codec dir draws names files := by
  have loaded := loadEach_settled settled.loads draws names rulesOnly
  refine ⟨by rwa [loaded], ?_⟩
  intro name rule member
  rw [loaded] at member ⊢
  obtain ⟨other, _, found⟩ := List.mem_filterMap.mp member
  obtain ⟨_, found, same⟩ := Option.map_eq_some_iff.mp found
  cases same
  exact found

theorem order_rulesOnly (draws : Draws) (files : Files) :
    ∀ name ∈ draws.order (ruleNames files.keys), isRuleFile name = true := by
  intro name member
  rw [(draws.perm _).mem_iff, mem_ruleNames] at member
  exact member.1

/-- Loading a settled directory leaves it as it is. -/
theorem Settled.loadAll_files {files : Files} (settled : Settled codec dir files) (draws : Draws) :
    (loadAll codec dir draws files).2 = files := by
  have clean := settled.loadsCleanly draws (order_rulesOnly draws files)
  rw [clean.loadAll.1, loadEach_settled settled.loads draws _ (order_rulesOnly draws files)]

theorem scanPaths_settled {files : Files} (settled : Settled codec dir files) (draws : Draws)
    (names : List String) (rulesOnly : ∀ name ∈ names, isRuleFile name = true) :
    (scanPaths codec dir draws names files).2 = files ∧
      ∀ name id, (scanPaths codec dir draws names files).1[name]? = some id →
        ∃ rule, ruleAt codec dir files name = some rule ∧ rule.id = id := by
  induction names with
  | nil => simp [scanPaths]
  | cons first rest ih =>
    have later := ih fun other member => rulesOnly other (List.mem_cons_of_mem _ member)
    have isRule := rulesOnly first List.mem_cons_self
    unfold scanPaths
    cases found : files[first]? with
    | none => exact later
    | some contents =>
      have listed : first ∈ ruleNames files.keys := by
        rw [mem_ruleNames, Std.ExtTreeMap.mem_iff_isSome_getElem?, found]
        exact ⟨isRule, rfl⟩
      obtain ⟨rule, atFirst⟩ := Option.isSome_iff_exists.mp (settled.loads first listed)
      obtain ⟨_, _, present, settledAs⟩ := ruleAt_eq_some.mp atFirst
      cases found.symm.trans present
      have loaded := loadOrStub_settled settledAs draws
      have untouched : (loadFile codec dir draws first contents).2 = contents := by
        unfold loadOrStub at loaded
        split at loaded <;> simp_all
      simp only [untouched, insert_of_getElem? found]
      refine ⟨later.1, ?_⟩
      intro name id
      cases outcome : (loadFile codec dir draws first contents).1 with
      | error why => exact later.2 name id
      | ok known =>
        have isKnown : known = rule := by
          unfold loadOrStub at loaded
          split at loaded <;> simp_all
        subst isKnown
        dsimp only
        rw [Std.ExtTreeMap.getElem?_insert]
        split
        · rename_i isFirst
          intro same
          cases same
          obtain rfl := Std.LawfulEqCmp.eq_of_compare isFirst
          exact ⟨known, atFirst, rfl⟩
        · exact later.2 name id

end Loading

/-! ## The rule set keeps in step -/

section Reload
variable (codec : RuleCodec) (dir : String) (devices : List DeviceState)

/-- The rule as it goes live. -/
def compiled (rule : Rule) : Rule :=
  match compileRule rule devices with
  | .ok compiled => compiled
  | .error why => { rule with enabled := false, error := some why }

theorem compileRules_eq (rules : List Rule) : compileRules rules devices = rules.map (compiled devices) :=
  rfl

theorem compiled_id (rule : Rule) : (compiled devices rule).id = rule.id := by
  unfold compiled
  split
  · rename_i outcome
    unfold compileRule at outcome
    split at outcome
    · cases outcome
    · simp only [Outcome.bind_ok, Outcome.pure_ok] at outcome
      obtain ⟨_, _, _, _, _, _, _, _, rfl⟩ := outcome
      rfl
  · rfl

/-- The invariant: one rule for each rule file, each compiled, and an index
that is right about the files it knows. -/
structure InStep (set : RuleSet) : Prop where
  settled : Settled codec dir set.files
  nodup : set.source.Nodup
  mem_source : ∀ rule, rule ∈ set.source ↔ ∃ name, ruleAt codec dir set.files name = some rule
  live : set.live.Perm (set.source.map (compiled devices))
  index : ∀ name id, set.pathIndex[name]? = some id →
    ∃ rule, ruleAt codec dir set.files name = some rule ∧ rule.id = id

variable {codec dir devices}

theorem InStep.agrees {set : RuleSet} (inStep : InStep codec dir devices set) :
    Agrees codec dir devices set := by
  have sourceEq : ∀ draws, set.source.Perm (loadAll codec dir draws set.files).1 := by
    intro draws
    have clean := inStep.settled.loadsCleanly draws (order_rulesOnly draws set.files)
    obtain ⟨_, nodup, mem⟩ := clean.loadAll
    rw [inStep.settled.loadAll_files draws] at mem
    refine (List.perm_ext_iff_of_nodup inStep.nodup nodup).mpr fun rule => ?_
    rw [inStep.mem_source, mem]
  refine ⟨sourceEq, fun draws => ?_⟩
  rw [compileRules_eq]
  exact inStep.live.trans ((sourceEq draws).map _)

theorem inStep_fullReload {draws : Draws} {set : RuleSet}
    (clean : LoadsCleanly codec dir draws (draws.order (ruleNames set.files.keys)) set.files) :
    InStep codec dir devices (fullReload codec dir devices draws true set) := by
  obtain ⟨filesEq, nodup, mem⟩ := clean.loadAll
  have settled : Settled codec dir (loadAll codec dir draws set.files).2 := filesEq ▸ clean.settled
  obtain ⟨scanned, index⟩ := scanPaths_settled settled draws _ (order_rulesOnly draws _)
  have filesAfter : (fullReload codec dir devices draws true set).files =
      (loadAll codec dir draws set.files).2 := scanned
  exact {
    settled := filesAfter ▸ settled
    nodup := nodup
    mem_source := fun rule => by
      rw [filesAfter]
      exact mem rule
    live := List.Perm.refl _
    index := fun name id found => by
      rw [filesAfter]
      exact index name id found }

theorem applyRuleDiff_map (source newRules : List Rule) (removed : List Uuid) :
    (applyRuleDiff (source.map (compiled devices)) (newRules.map (compiled devices)) removed).Perm
      ((applyRuleDiff source newRules removed).map (compiled devices)) := by
  unfold applyRuleDiff
  refine (perm_byPriority _).trans (List.Perm.trans ?_ ((perm_byPriority _).symm.map _))
  have ids : (newRules.map (compiled devices)).map (·.id) = newRules.map (·.id) := by
    rw [List.map_map]
    exact List.map_congr_left fun rule _ => compiled_id devices rule
  simp only [ids, List.map_append, List.filter_map]
  refine List.Perm.append_right _ (List.Perm.of_eq ?_)
  congr 1
  refine List.filter_congr fun rule _ => ?_
  simp [compiled_id]

theorem perm_applyRuleDiff {rules others : List Rule} (same : rules.Perm others)
    (newRules : List Rule) (removed : List Uuid) :
    (applyRuleDiff rules newRules removed).Perm (applyRuleDiff others newRules removed) := by
  unfold applyRuleDiff
  refine (perm_byPriority _).trans (List.Perm.trans ?_ (perm_byPriority _).symm)
  exact (same.filter _).append_right _

theorem mem_applyRuleDiff {rules newRules : List Rule} {removed : List Uuid} {rule : Rule} :
    rule ∈ applyRuleDiff rules newRules removed ↔
      (rule ∈ rules ∧ rule.id ∉ removed ∧ rule.id ∉ newRules.map (·.id)) ∨ rule ∈ newRules := by
  unfold applyRuleDiff
  rw [(perm_byPriority _).mem_iff]
  simp [List.mem_filter]

theorem nodup_applyRuleDiff {rules newRules : List Rule} {removed : List Uuid} (nodup : rules.Nodup)
    (newNodup : (newRules.map (·.id)).Nodup) : (applyRuleDiff rules newRules removed).Nodup := by
  unfold applyRuleDiff
  rw [(perm_byPriority _).nodup_iff]
  refine (nodup.filter _).append (List.Nodup.of_map _ newNodup) ?_
  intro rule kept isNew
  have kept := (List.mem_filter.mp kept).2
  simp only [Bool.and_eq_true, Bool.not_eq_true', List.contains_eq_mem, decide_eq_false_iff_not] at kept
  exact kept.2 (List.mem_map.mpr ⟨rule, isNew, rfl⟩)

theorem mem_removedIds {pathIndex : Std.ExtTreeMap String Uuid} {removedPaths : List String}
    {reloaded : List (String × Rule)} {id : Uuid} :
    id ∈ removedIds pathIndex removedPaths reloaded ↔
      (∃ name ∈ removedPaths, pathIndex[name]? = some id) ∨
        ∃ name rule, (name, rule) ∈ reloaded ∧ pathIndex[name]? = some id ∧ id ≠ rule.id := by
  unfold removedIds
  simp [List.mem_append, List.mem_filterMap, Option.filter_eq_some_iff]

theorem erased_index {paths : List String} {pathIndex : Std.ExtTreeMap String Uuid} {name : String}
    {id : Uuid} (found : (paths.foldl (·.erase ·) pathIndex)[name]? = some id) :
    name ∉ paths ∧ pathIndex[name]? = some id := by
  induction paths generalizing pathIndex with
  | nil => exact ⟨by simp, found⟩
  | cons path rest ih =>
    obtain ⟨notLater, found⟩ := ih found
    rw [Std.ExtTreeMap.getElem?_erase] at found
    split at found
    · cases found
    · rename_i differ
      refine ⟨?_, found⟩
      simp only [List.mem_cons, not_or]
      exact ⟨fun same => differ (by rw [same]; exact Std.ReflCmp.compare_self), notLater⟩

theorem inserted_index {reloaded : List (String × Rule)} {pathIndex : Std.ExtTreeMap String Uuid}
    {name : String} {id : Uuid}
    (found : (reloaded.foldl (fun index (name, rule) => index.insert name rule.id) pathIndex)[name]? =
      some id) :
    (∃ rule, (name, rule) ∈ reloaded ∧ rule.id = id) ∨
      (name ∉ reloaded.map (·.1) ∧ pathIndex[name]? = some id) := by
  induction reloaded generalizing pathIndex with
  | nil => exact .inr ⟨by simp, found⟩
  | cons entry rest ih =>
    obtain ⟨path, reloadedRule⟩ := entry
    rcases ih found with ⟨rule, member, sameId⟩ | ⟨notLater, found⟩
    · exact .inl ⟨rule, List.mem_cons_of_mem _ member, sameId⟩
    · rw [Std.ExtTreeMap.getElem?_insert] at found
      split at found
      · rename_i same
        cases found
        obtain rfl := Std.LawfulEqCmp.eq_of_compare same
        exact .inl ⟨reloadedRule, List.mem_cons_self, rfl⟩
      · rename_i differ
        refine .inr ⟨?_, found⟩
        simp only [List.map_cons, List.mem_cons, not_or]
        exact ⟨fun same => differ (by rw [same]; exact Std.ReflCmp.compare_self), notLater⟩

/-- An edit reaches the rule files the watcher reports, and no others. -/
theorem edited_other (batch : Batch) (files : Files) {name : String} (isRule : isRuleFile name = true)
    (other : name ∉ batch.changed) : (batch.edits.foldl Edit.apply files)[name]? = files[name]? := by
  have apart : ∀ edit ∈ batch.edits, edit.name ≠ name := by
    rintro edit member rfl
    exact other (batch.reported edit member isRule)
  generalize batch.edits = edits at apart
  induction edits generalizing files with
  | nil => rfl
  | cons edit rest ih =>
    have differ : ¬ compare edit.name name = .eq := fun same =>
      apart edit List.mem_cons_self (Std.LawfulEqCmp.eq_of_compare same)
    rw [List.foldl_cons, ih _ fun later member => apart later (List.mem_cons_of_mem _ member)]
    cases edit with
    | write path contents => exact (Std.ExtTreeMap.getElem?_insert).trans (if_neg differ)
    | remove path => exact (Std.ExtTreeMap.getElem?_erase).trans (if_neg differ)

section Step
variable {set : RuleSet} {batch : Batch}

theorem ruleAt_unchanged {name : String} (other : name ∉ batch.changed) :
    ruleAt codec dir (loadEach codec dir batch.draws batch.changed
      (batch.edits.foldl Edit.apply set.files)).2 name = ruleAt codec dir set.files name := by
  by_cases isRule : isRuleFile name = true
  · exact ruleAt_congr ((loadEach_other other).trans (edited_other batch set.files isRule other))
  · simp [ruleAt, isRule]

/-- The rule of a file that was touched is taken out of the set or replaced. -/
theorem touched_leaves (inStep : InStep codec dir devices set)
    (keeps : KeepsTrack codec dir set batch) {rule : Rule} {name : String} {edited : Files}
    (isEdited : batch.edits.foldl Edit.apply set.files = edited) {reloaded : List (String × Rule)}
    (isReloaded : (loadEach codec dir batch.draws batch.changed edited).1 = reloaded)
    (changed : name ∈ batch.changed) (found : ruleAt codec dir set.files name = some rule) :
    rule.id ∈ removedIds set.pathIndex (batch.changed.filter fun name => !edited.contains name)
        reloaded ∨
      rule.id ∈ (reloaded.map (·.2)).map (·.id) := by
  have clean := keeps.clean
  rw [isEdited] at clean
  have replaced : ∀ {name new}, (name, new) ∈ reloaded → new.id = rule.id →
      rule.id ∈ (reloaded.map (·.2)).map (·.id) := by
    intro name new member sameId
    rw [List.map_map]
    exact List.mem_map.mpr ⟨(name, new), member, sameId⟩
  cases indexed : set.pathIndex[name]? with
  | none =>
    -- A file the index does not know must still stand for the same id.
    have kept := keeps.indexed name changed indexed rule found
    rw [isEdited] at kept
    obtain ⟨new, atAfter, sameId⟩ := Option.map_eq_some_iff.mp kept
    have member := clean.mem_loaded.mpr ⟨changed, atAfter⟩
    rw [isReloaded] at member
    exact .inr (replaced member sameId)
  | some id =>
    obtain ⟨known, atName, rfl⟩ := inStep.index name id indexed
    cases atName.symm.trans found
    by_cases present : name ∈ edited
    · have named : name ∈ reloaded.map (·.1) := by
        rw [← isReloaded, loadEach_names]
        exact List.mem_filter.mpr ⟨changed, by simpa using present⟩
      obtain ⟨⟨_, new⟩, member, rfl⟩ := List.mem_map.mp named
      by_cases sameId : new.id = rule.id
      · exact .inr (replaced member sameId)
      · exact .inl (mem_removedIds.mpr (.inr ⟨_, new, member, indexed, Ne.symm sameId⟩))
    · refine .inl (mem_removedIds.mpr (.inl ⟨name, List.mem_filter.mpr ⟨changed, ?_⟩, indexed⟩))
      simpa [← Std.ExtTreeMap.contains_iff_mem] using present

/-- The rule of a file that was not touched is neither taken out nor replaced. -/
theorem untouched_stays (inStep : InStep codec dir devices set)
    (keeps : KeepsTrack codec dir set batch) {rule : Rule} {name : String} {edited : Files}
    (isEdited : batch.edits.foldl Edit.apply set.files = edited) {reloaded : List (String × Rule)}
    (isReloaded : (loadEach codec dir batch.draws batch.changed edited).1 = reloaded)
    (unchanged : name ∉ batch.changed) (found : ruleAt codec dir set.files name = some rule) :
    rule.id ∉ removedIds set.pathIndex (batch.changed.filter fun name => !edited.contains name)
        reloaded ∧
      rule.id ∉ (reloaded.map (·.2)).map (·.id) := by
  have clean := keeps.clean
  rw [isEdited] at clean
  have otherFile : ∀ other ∈ batch.changed, set.pathIndex[other]? ≠ some rule.id := by
    intro other changed indexed
    obtain ⟨known, atOther, sameId⟩ := inStep.index other rule.id indexed
    obtain rfl := inStep.settled.injective atOther found sameId
    exact unchanged changed
  refine ⟨fun removed => ?_, fun isReplaced => ?_⟩
  · rcases mem_removedIds.mp removed with ⟨other, member, indexed⟩ | ⟨other, new, member, indexed, _⟩
    · exact otherFile other (List.mem_filter.mp member).1 indexed
    · rw [← isReloaded] at member
      exact otherFile other (clean.mem_loaded.mp member).1 indexed
  · rw [List.map_map] at isReplaced
    obtain ⟨⟨other, new⟩, member, sameId⟩ := List.mem_map.mp isReplaced
    rw [← isReloaded] at member
    obtain ⟨changed, atOther⟩ := clean.mem_loaded.mp member
    have atName : ruleAt codec dir (loadEach codec dir batch.draws batch.changed edited).2 name =
        some rule := by
      rw [← isEdited, ruleAt_unchanged unchanged]
      exact found
    obtain rfl := clean.settled.injective atOther atName sameId
    exact unchanged changed

/-- The rules that survive the diff are those of the files nobody touched. -/
theorem survives_iff (inStep : InStep codec dir devices set)
    (keeps : KeepsTrack codec dir set batch) (rule : Rule) {edited : Files}
    (isEdited : batch.edits.foldl Edit.apply set.files = edited) {reloaded : List (String × Rule)}
    (isReloaded : (loadEach codec dir batch.draws batch.changed edited).1 = reloaded) :
    (rule ∈ set.source ∧
        rule.id ∉ removedIds set.pathIndex (batch.changed.filter fun name => !edited.contains name)
          reloaded ∧
        rule.id ∉ (reloaded.map (·.2)).map (·.id)) ↔
      ∃ name, name ∉ batch.changed ∧ ruleAt codec dir set.files name = some rule := by
  constructor
  · rintro ⟨inSource, notRemoved, notReplaced⟩
    obtain ⟨name, found⟩ := (inStep.mem_source rule).mp inSource
    refine ⟨name, fun changed => ?_, found⟩
    rcases touched_leaves inStep keeps isEdited isReloaded changed found with removed | replaced
    · exact notRemoved removed
    · exact notReplaced replaced
  · rintro ⟨name, unchanged, found⟩
    exact ⟨(inStep.mem_source rule).mpr ⟨name, found⟩,
      untouched_stays inStep keeps isEdited isReloaded unchanged found⟩

theorem inStep_surgicalReload (inStep : InStep codec dir devices set)
    (keeps : KeepsTrack codec dir set batch) :
    InStep codec dir devices (surgicalReload codec dir devices batch.draws true batch.changed
      { set with files := batch.edits.foldl Edit.apply set.files }).1 := by
  obtain ⟨edited, isEdited⟩ : ∃ edited, batch.edits.foldl Edit.apply set.files = edited := ⟨_, rfl⟩
  have clean := keeps.clean
  rw [isEdited] at clean ⊢
  obtain ⟨reloaded, isReloaded⟩ :
      ∃ reloaded, (loadEach codec dir batch.draws batch.changed edited).1 = reloaded := ⟨_, rfl⟩
  have ids := clean.nodup_ids batch.nodup
  simp only [surgicalReload, if_true, isReloaded]
  rw [isReloaded] at ids
  refine ⟨clean.settled, nodup_applyRuleDiff inStep.nodup ids, fun rule => ?_, ?_, ?_⟩
  · dsimp only
    rw [mem_applyRuleDiff, survives_iff inStep keeps rule isEdited isReloaded]
    constructor
    · rintro (⟨name, unchanged, found⟩ | isNew)
      · refine ⟨name, ?_⟩
        rw [← isEdited, ruleAt_unchanged unchanged]
        exact found
      · obtain ⟨⟨name, _⟩, member, rfl⟩ := List.mem_map.mp isNew
        rw [← isReloaded] at member
        exact ⟨name, clean.written _ _ member⟩
    · rintro ⟨name, found⟩
      by_cases changed : name ∈ batch.changed
      · have member := clean.mem_loaded.mpr ⟨changed, found⟩
        rw [isReloaded] at member
        exact .inr (List.mem_map.mpr ⟨_, member, rfl⟩)
      · rw [← isEdited, ruleAt_unchanged changed] at found
        exact .inl ⟨name, changed, found⟩
  · dsimp only
    rw [compileRules_eq]
    exact (perm_applyRuleDiff inStep.live _ _).trans (applyRuleDiff_map _ _ _)
  · intro name id found
    rcases inserted_index found with ⟨rule, member, rfl⟩ | ⟨notReloaded, found⟩
    · rw [← isReloaded] at member
      exact ⟨rule, clean.written _ _ member, rfl⟩
    · obtain ⟨notRemoved, found⟩ := erased_index found
      have unchanged : name ∉ batch.changed := by
        intro changed
        by_cases present : name ∈ edited
        · refine notReloaded ?_
          rw [← isReloaded, loadEach_names]
          exact List.mem_filter.mpr ⟨changed, by simpa using present⟩
        · exact notRemoved (List.mem_filter.mpr
            ⟨changed, by simpa [← Std.ExtTreeMap.contains_iff_mem] using present⟩)
      obtain ⟨rule, atName, sameId⟩ := inStep.index name id found
      refine ⟨rule, ?_, sameId⟩
      dsimp only
      rw [← isEdited, ruleAt_unchanged unchanged]
      exact atName

/-- One batch of edits, however it is reloaded. -/
theorem inStep_reload (inStep : InStep codec dir devices set)
    (keeps : KeepsTrack codec dir set batch) :
    InStep codec dir devices (reload codec dir devices set batch) := by
  unfold reload
  cases read : batch.devicesRead with
  | true => exact inStep_surgicalReload inStep keeps
  | false =>
    have again : batch.devicesReadAgain = true := by simpa [read] using keeps.read
    simp only [surgicalReload, Bool.false_eq_true, if_false, again]
    refine inStep_fullReload ?_
    exact keeps.clean.settled.loadsCleanly batch.draws (order_rulesOnly batch.draws _)

end Step

/-- From any directory that loads cleanly, and over every run of batches that
keep track of their files, the rule set is throughout what a full load of the
directory as it then stands would give. -/
theorem reload_agrees_with_loadAll {draws : Draws} {files : Files}
    (clean : LoadsCleanly codec dir draws (draws.order (ruleNames files.keys)) files)
    (batches : List Batch)
    (track : Runs.EachStep (reload codec dir devices) (KeepsTrack codec dir)
      (startSet codec dir devices draws files) batches) :
    Runs.Always (reload codec dir devices) (Agrees codec dir devices)
      (startSet codec dir devices draws files) batches := by
  have start : InStep codec dir devices (startSet codec dir devices draws files) :=
    inStep_fullReload clean
  have throughout := Runs.invariant (InStep codec dir devices) (fun _ _ => inStep_reload) start track
  exact throughout.mono fun _ => InStep.agrees

end Reload

/-! ## Two directories -/

/-- Two texts that are rules, each with its id. -/
def sampleCodec : RuleCodec where
  parseRon text :=
    if text = "lamp" then some (Rule.minimal ⟨1⟩ .manualTrigger [])
    else if text = "fan" then some (Rule.minimal ⟨2⟩ .manualTrigger [])
    else none
  parseToml _ := none
  printRon _ := none
  printToml _ := none
  uuidV5 _ := ⟨5⟩

def sampleDraws : Draws where
  order := id
  newId _ := ⟨7⟩
  duplicateId _ := ⟨9⟩
  writable _ := true
  perm _ := List.Perm.refl _

def sampleFiles : Files := Std.ExtTreeMap.ofList [("lamp.ron", some "lamp")]

/-- A file written beside the one that is there. -/
def writeBeside (text : String) : Batch where
  edits := [.write "other.ron" (some text)]
  changed := ["other.ron"]
  nodup := by decide
  ruleFiles := by decide
  reported := by simp [Edit.name]
  draws := sampleDraws
  devicesRead := true
  devicesReadAgain := true

/-- A new rule's file: the theorem applies, and the set has both rules. -/
theorem reload_agrees_after_new_file :
    Runs.Always (reload sampleCodec "rules" []) (Agrees sampleCodec "rules" [])
      (startSet sampleCodec "rules" [] sampleDraws sampleFiles) [writeBeside "fan"] := by
  have startSettled : Settled sampleCodec "rules" sampleFiles :=
    ⟨by decide, by decide⟩
  have editedSettled : Settled sampleCodec "rules" ((writeBeside "fan").edits.foldl Edit.apply
      (startSet sampleCodec "rules" [] sampleDraws sampleFiles).files) :=
    ⟨by decide, by decide⟩
  have noOther : (ruleAt sampleCodec "rules"
      (startSet sampleCodec "rules" [] sampleDraws sampleFiles).files "other.ron").isNone = true := by
    decide
  refine reload_agrees_with_loadAll
    (startSettled.loadsCleanly sampleDraws (order_rulesOnly sampleDraws sampleFiles)) _ ⟨?_, trivial⟩
  refine ⟨editedSettled.loadsCleanly sampleDraws (writeBeside "fan").ruleFiles, ?_, .inl rfl⟩
  intro name member _ old found
  obtain rfl : name = "other.ron" := by simpa [writeBeside] using member
  rw [Option.isNone_iff_eq_none.mp noOther] at found
  cases found

/-- A copy of a rule's file: a full load keeps the rule and adds a disabled
twin, the reload has the one rule. -/
theorem reload_loses_the_copy :
    let set := reload sampleCodec "rules" []
      (startSet sampleCodec "rules" [] sampleDraws sampleFiles) (writeBeside "lamp")
    (set.live.map (·.id) = [⟨1⟩] ∧
      (loadAll sampleCodec "rules" sampleDraws set.files).1.map (·.id) = [⟨1⟩, ⟨9⟩]) ∧
    ¬ Runs.Always (reload sampleCodec "rules" []) (Agrees sampleCodec "rules" [])
      (startSet sampleCodec "rules" [] sampleDraws sampleFiles) [writeBeside "lamp"] := by
  intro set
  have evaluated : set.live.map (·.id) = [⟨1⟩] ∧
      (loadAll sampleCodec "rules" sampleDraws set.files).1.map (·.id) = [⟨1⟩, ⟨9⟩] := by
    decide
  refine ⟨evaluated, fun always => ?_⟩
  have lengths := (always.last.live sampleDraws).length_eq
  rw [compileRules_eq, List.length_map] at lengths
  have live := congrArg List.length evaluated.1
  have full := congrArg List.length evaluated.2
  rw [List.length_map] at live full
  exact absurd (live.symm.trans (lengths.trans full)) (by decide)

end HomeCore.Loader
