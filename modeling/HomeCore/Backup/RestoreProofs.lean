import HomeCore.Backup.Restore
import HomeCore.Overwrites

/-! What a restore puts in place is what its plan lists, if nothing fails on the way; what fails
halfway leaves a part of the archive over the house. -/
namespace HomeCore.Backup
open Outcome

section
variable (paths : BackupPaths)

/-! ## What is listed -/

/-- The name that an entry is listed under if it has a place on this host. -/
def placedName (entry : ZipEntry × Nat) : Option String :=
  entry.1.enclosedName.filter fun name => (destination paths name).isSome

def skippedName (entry : ZipEntry × Nat) : Option String :=
  match entry.1.enclosedName with
  | none => some (unsafePath entry.2)
  | some name => if (destination paths name).isSome then none else some name

/-- The write that an entry comes to. -/
def placement (entry : ZipEntry × Nat) : Option (Path × Bytes) :=
  match entry.1.enclosedName.bind (destination paths), entry.1.data with
  | some dest, .ok data => some (dest, data)
  | _, _ => none

variable (zip : ZipCrate)

theorem planEntry_ok {plan later : RestorePlan} {entry : ZipEntry × Nat}
    (planned : planEntry zip paths plan entry = .ok later) :
    entry.1.opened = .ok () ∧ later.restored = plan.restored ++ (placedName paths entry).toList ∧
      later.skipped = plan.skipped ++ (skippedName paths entry).toList := by
  rw [planEntry, bind_ok] at planned
  obtain ⟨⟨⟩, opened, planned⟩ := planned
  refine ⟨opened, ?_⟩
  cases named : entry.1.enclosedName with
  | none =>
    simp only [named, pure_ok] at planned
    subst planned
    simp only [placedName, skippedName, named, Option.filter_none, Option.toList_none,
      List.append_nil, Option.toList_some, and_self]
  | some name =>
    simp only [named] at planned
    cases dest : destination paths name with
    | none =>
      simp only [dest, pure_ok] at planned
      subst planned
      simp only [placedName, skippedName, named, Option.filter_some, dest, Option.isSome_none,
        Bool.false_eq_true, if_false, Option.toList_none, List.append_nil, Option.toList_some]
      constructor <;> split <;> rfl
    | some place =>
      simp only [dest, pure_ok] at planned
      subst planned
      simp only [placedName, skippedName, named, Option.filter_some, dest, Option.isSome_some,
        if_true, Option.toList_none, List.append_nil, Option.toList_some]
      constructor <;> split <;> rfl

theorem planEntries_ok {entries : List (ZipEntry × Nat)} {plan later : RestorePlan}
    (planned : entries.foldlM (planEntry zip paths) plan = .ok later) :
    (∀ entry ∈ entries, entry.1.opened = .ok ()) ∧
      later.restored = plan.restored ++ entries.filterMap (placedName paths) ∧
      later.skipped = plan.skipped ++ entries.filterMap (skippedName paths) := by
  induction entries generalizing plan with
  | nil =>
    simp only [List.foldlM_nil, pure_ok] at planned
    subst planned
    simp only [List.filterMap_nil, List.append_nil, and_self, and_true]
    intro entry member
    cases member
  | cons entry rest ih =>
    rw [List.foldlM_cons, bind_ok] at planned
    obtain ⟨next, first, planned⟩ := planned
    obtain ⟨opened, restored, skipped⟩ := planEntry_ok paths zip first
    obtain ⟨others, laterRestored, laterSkipped⟩ := ih planned
    refine ⟨?_, ?_, ?_⟩
    · intro other member
      rcases List.mem_cons.mp member with rfl | member
      · exact opened
      · exact others other member
    · rw [laterRestored, restored, List.filterMap_cons, List.append_assoc]
      cases placedName paths entry <;> rfl
    · rw [laterSkipped, skipped, List.filterMap_cons, List.append_assoc]
      cases skippedName paths entry <;> rfl

theorem planRestore_ok {bytes : Bytes} {plan : RestorePlan}
    (planned : planRestore zip paths bytes = .ok plan) :
    ∃ entries, zip.unpack bytes = .ok entries ∧
      (∀ entry ∈ entries.zipIdx, entry.1.opened = .ok ()) ∧
      plan.restored = entries.zipIdx.filterMap (placedName paths) ∧
      plan.skipped = entries.zipIdx.filterMap (skippedName paths) := by
  rw [planRestore] at planned
  split at planned
  next => cases planned
  next entries unpacked =>
    rw [bind_ok] at planned
    obtain ⟨made, folded, planned⟩ := planned
    rw [bind_ok] at planned
    obtain ⟨_, _, planned⟩ := planned
    rw [pure_ok] at planned
    subst planned
    obtain ⟨opened, restored, skipped⟩ := planEntries_ok paths zip folded
    exact ⟨entries, unpacked, opened, restored, skipped⟩

/-! ## What is put in place -/

variable {paths} {attempts : Nat → WriteResult} {ex : Extraction} {entry : ZipEntry × Nat}

/-- The extraction, with what the entries come to put in place. -/
def Extraction.with_ (paths : BackupPaths) (ex : Extraction) (entries : List (ZipEntry × Nat)) :
    Extraction where
  files := Overwrites.written ex.files (entries.filterMap (placement paths))
  restored := ex.restored ++ entries.filterMap (placedName paths)
  skipped := ex.skipped ++ entries.filterMap (skippedName paths)
  outcome := ex.outcome

theorem extractEntry_goes (opened : entry.1.opened = .ok ()) (goes : Goes paths attempts entry) :
    extractEntry paths attempts ex entry = ex.with_ paths [entry] := by
  rw [extractEntry, opened]
  cases named : entry.1.enclosedName with
  | none =>
    simp only [Extraction.with_, List.filterMap_cons, List.filterMap_nil, placement, placedName,
      skippedName, named, Option.bind_none, Option.filter_none, List.append_nil]
    rfl
  | some name =>
    cases dest : destination paths name with
    | none =>
      simp only [Extraction.with_, List.filterMap_cons, List.filterMap_nil, placement, placedName,
        skippedName, named, Option.bind_some, dest, Option.filter_some, Option.isSome_none,
        Bool.false_eq_true, if_false, List.append_nil]
      rfl
    | some place =>
      obtain ⟨⟨data, read⟩, written⟩ := goes name place named dest
      simp only [Extraction.with_, List.filterMap_cons, List.filterMap_nil, placement, placedName,
        skippedName, named, Option.bind_some, dest, Option.filter_some, Option.isSome_some, if_true,
        read, written, List.append_nil]
      rfl

theorem extractEntry_fails (opened : entry.1.opened = .ok ()) (fails : ¬Goes paths attempts entry) :
    (∃ e, (extractEntry paths attempts ex entry).outcome = .error e) ∧
      (extractEntry paths attempts ex entry).restored = ex.restored ∧
      (placedName paths entry).isSome := by
  have place : ∃ name dest, entry.1.enclosedName = some name ∧ destination paths name = some dest ∧
      ((∃ data, entry.1.data = .ok data) → attempts entry.2 ≠ .written) := by
    simp only [Goes, not_forall, not_and] at fails
    obtain ⟨name, dest, named, isDest, fails⟩ := fails
    exact ⟨name, dest, named, isDest, fails⟩
  obtain ⟨name, dest, named, isDest, fails⟩ := place
  rw [extractEntry, opened]
  simp only [named, isDest, placedName, Option.filter_some, Option.isSome_some, if_true, and_true]
  cases read : entry.1.data with
  | error e => exact ⟨⟨e, rfl⟩, rfl⟩
  | ok data =>
    cases result : attempts entry.2 with
    | written => exact absurd result (fails ⟨data, read⟩)
    | refused e => exact ⟨⟨_, rfl⟩, rfl⟩
    | torn kept e => exact ⟨⟨_, rfl⟩, rfl⟩

theorem with_cons (rest : List (ZipEntry × Nat)) :
    (ex.with_ paths [entry]).with_ paths rest = ex.with_ paths (entry :: rest) := by
  simp only [Extraction.with_, Overwrites.written, ← List.foldl_append, List.append_assoc,
    ← List.filterMap_append, List.singleton_append]

/-- All goes there: everything that is listed is in place. -/
theorem extractEntries_go {entries : List (ZipEntry × Nat)}
    (opened : ∀ entry ∈ entries, entry.1.opened = .ok ())
    (go : ∀ entry ∈ entries, Goes paths attempts entry) (well : ex.outcome = .ok ()) :
    extractEntries paths attempts entries ex = ex.with_ paths entries := by
  induction entries generalizing ex with
  | nil => simp only [extractEntries, Extraction.with_, List.filterMap_nil, List.append_nil]; rfl
  | cons entry rest ih =>
    have first : extractEntry paths attempts ex entry = ex.with_ paths [entry] :=
      extractEntry_goes (opened entry List.mem_cons_self) (go entry List.mem_cons_self)
    have next : (ex.with_ paths [entry]).outcome = .ok () := well
    rw [extractEntries, first]
    simp only [next]
    rw [ih (fun other member => opened other (List.mem_cons_of_mem entry member))
      (fun other member => go other (List.mem_cons_of_mem entry member)) next, with_cons]

/-- Something fails: the extraction ends in an error, with less in place than is listed. -/
theorem extractEntries_fail {entries : List (ZipEntry × Nat)}
    (opened : ∀ entry ∈ entries, entry.1.opened = .ok ())
    (fails : ¬∀ entry ∈ entries, Goes paths attempts entry) (well : ex.outcome = .ok ()) :
    (∃ e, (extractEntries paths attempts entries ex).outcome = .error e) ∧
      (extractEntries paths attempts entries ex).restored.length <
        ex.restored.length + (entries.filterMap (placedName paths)).length := by
  induction entries generalizing ex with
  | nil =>
    refine absurd (fun entry member => ?_) fails
    cases member
  | cons entry rest ih =>
    have isOpened := opened entry List.mem_cons_self
    by_cases goes : Goes paths attempts entry
    · have later : ¬∀ other ∈ rest, Goes paths attempts other := by
        intro all
        apply fails
        intro other member
        rcases List.mem_cons.mp member with rfl | member
        · exact goes
        · exact all other member
      have next : (ex.with_ paths [entry]).outcome = .ok () := well
      obtain ⟨stops, fewer⟩ :=
        ih (fun other member => opened other (List.mem_cons_of_mem entry member)) later next
      have lengths : (ex.with_ paths [entry]).restored.length +
          (rest.filterMap (placedName paths)).length =
          ex.restored.length + ((entry :: rest).filterMap (placedName paths)).length := by
        rw [← List.length_append, ← List.length_append]
        exact congrArg (fun all : Extraction => all.restored.length) (with_cons rest)
      rw [extractEntries, extractEntry_goes isOpened goes]
      simp only [next]
      exact ⟨stops, by omega⟩
    · obtain ⟨⟨e, stops⟩, same, listed⟩ := @extractEntry_fails _ _ ex _ isOpened goes
      obtain ⟨name, isName⟩ := Option.isSome_iff_exists.mp listed
      rw [extractEntries]
      simp only [stops, same, List.filterMap_cons, isName, List.length_cons]
      exact ⟨⟨e, rfl⟩, by omega⟩

/-! ## All or nothing -/

theorem extractRestore_go {entries : List ZipEntry} {plan : RestorePlan} {files : Files} {bytes : Bytes}
    (planned : planRestore zip paths bytes = .ok plan) (unpacked : zip.unpack bytes = .ok entries)
    (go : ∀ entry ∈ entries.zipIdx, Goes paths attempts entry) :
    extractRestore zip paths attempts files bytes =
      Extraction.with_ paths ⟨files, [], [], .ok ()⟩ entries.zipIdx := by
  obtain ⟨found, isFound, opened, _, _⟩ := planRestore_ok paths zip planned
  rw [unpacked] at isFound
  cases isFound
  rw [extractRestore, unpacked]
  exact extractEntries_go opened go rfl

theorem restored_eq_iff {entries : List ZipEntry} {plan : RestorePlan} {files : Files} {bytes : Bytes}
    (planned : planRestore zip paths bytes = .ok plan) (unpacked : zip.unpack bytes = .ok entries) :
    (extractRestore zip paths attempts files bytes).restored = plan.restored ↔
      ∀ entry ∈ entries.zipIdx, Goes paths attempts entry := by
  obtain ⟨found, isFound, opened, restored, _⟩ := planRestore_ok paths zip planned
  rw [unpacked] at isFound
  cases isFound
  constructor
  · intro same
    by_contra fails
    rw [extractRestore, unpacked] at same
    have begins : (⟨files, [], [], .ok ()⟩ : Extraction).outcome = .ok () := rfl
    obtain ⟨_, fewer⟩ := extractEntries_fail opened fails begins
    simp only [same, restored, List.length_nil, Nat.zero_add, lt_irrefl] at fewer
  · intro go
    rw [restored, extractRestore_go zip planned unpacked go]
    exact List.nil_append _

theorem setAside_live {aside : Aside} {bytes : Bytes} {files : Files} {path : Path}
    (live : IsLive paths path) : setAside paths aside bytes files path = files path := by
  cases aside with
  | renamed =>
    rw [setAside, Function.update_of_ne live.2, Function.update_of_ne live.1]
  | removed => rw [setAside, Function.update_of_ne live.1]
  | stuck => rfl

/-- A restore is all or nothing exactly if the staged archive is refused, or all of it that has a
place on this host can be read and written there. -/
theorem all_or_nothing_iff (zip : ZipCrate) (paths : BackupPaths) (start : Start) :
    AllOrNothing zip paths start ↔ GoesThrough zip paths start := by
  constructor
  · intro all bytes plan entries staged planned unpacked
    exact (restored_eq_iff zip planned unpacked).mp (all.all bytes plan staged planned)
  · intro through
    constructor
    · intro e failed path live
      rw [applyPending] at failed ⊢
      split at failed
      next => rfl
      next =>
        split at failed
        next => cases failed
        next bytes staged =>
          split at failed
          next => exact setAside_live live
          next plan planned =>
            obtain ⟨entries, unpacked, _⟩ := planRestore_ok paths zip planned
            have go := through bytes plan entries staged planned unpacked
            rw [extractRestore_go zip planned unpacked go] at failed
            cases failed
    · intro bytes plan staged planned
      obtain ⟨entries, unpacked, _⟩ := planRestore_ok paths zip planned
      exact (restored_eq_iff zip planned unpacked).mpr
        (through bytes plan entries staged planned unpacked)

end

def plainPaths : BackupPaths where
  stateDbPath := ["data", "state.redb"]
  historyDbPath := ["data", "history.db"]
  configPath := ["config", "homecore.toml"]
  rulesDir := ["rules"]
  pluginConfigs := []
  pluginsStore := some ["config", "plugins"]
  calendarsDir := some ["config", "calendars"]

/-- Reads one archive, whose second entry fails its checksum. -/
def oneArchive : ZipCrate where
  startFile := fun _ _ => .ok ()
  pack := fun _ _ => []
  unpack := fun bytes =>
    if bytes = [80, 75] then
      .ok [⟨.ok (), some "state.redb", none, .ok [9]⟩,
        ⟨.ok (), some "history.db", none, .error "Invalid checksum"⟩]
    else .error "Could not find EOCD"
  enclosedName := some
  timeText := fun _ => none

def stagedStart : Start where
  files := fun path =>
    if path = ["data", "restore-pending.zip"] then some [80, 75]
    else if path = ["data", "state.redb"] then some [1]
    else if path = ["data", "history.db"] then some [2]
    else none
  pendingError := none
  attempts := fun _ => .written
  aside := .renamed

/-- The restore fails at the history, with the state database of the backup in place. -/
theorem half_a_restore : ¬AllOrNothing oneArchive plainPaths stagedStart := by
  intro all
  have failed : (applyPending oneArchive plainPaths stagedStart).1 =
      some (.error "Invalid checksum") := by
    decide
  have unchanged := all.nothing _ failed ["data", "state.redb"] (by
    constructor <;> decide)
  revert unchanged
  decide

end HomeCore.Backup
