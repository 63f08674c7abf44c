import HomeCore.Backup.BuildZip
import HomeCore.Backup.RestoreProofs

/-! A restore on the house the backup was made of: every file that was saved comes back as it was,
and a file that was added since stays. -/
namespace HomeCore.Backup
open Outcome

/-! ## What is saved -/

section
variable {zip : ZipCrate} {disk : Disk} {paths : BackupPaths}

/-- Exactly what could be read of these files is saved. -/
def Holds (disk : Disk) (wanted : List (Path × String)) (saved : List Saved) : Prop :=
  ∀ s, s ∈ saved ↔ (s.source, s.name) ∈ wanted ∧ disk.read s.source = .data s.data

theorem holds_addData {wanted : List (Path × String)} {saved later : List Saved} {path : Path}
    {name : String} {data : Bytes} (holds : Holds disk wanted saved)
    (read : disk.read path = .data data) (added : addData zip saved path name data = .ok later) :
    Holds disk (wanted ++ [(path, name)]) later := by
  rw [addData, bind_ok] at added
  obtain ⟨_, _, added⟩ := added
  rw [pure_ok] at added
  subst added
  intro s
  rw [List.mem_append, List.mem_append, holds s, List.mem_singleton, List.mem_singleton]
  constructor
  · rintro (⟨among, isRead⟩ | rfl)
    · exact ⟨.inl among, isRead⟩
    · exact ⟨.inr rfl, read⟩
  · rintro ⟨among | isFile, isRead⟩
    · exact .inl ⟨among, isRead⟩
    · right
      obtain ⟨rfl, rfl⟩ := Prod.mk.inj isFile
      rw [isRead] at read
      cases read
      rfl

theorem holds_skip {wanted : List (Path × String)} {saved : List Saved} {file : Path × String}
    (holds : Holds disk wanted saved) (unread : ∀ data, disk.read file.1 ≠ .data data) :
    Holds disk (wanted ++ [file]) saved := by
  intro s
  rw [holds s, List.mem_append, List.mem_singleton]
  constructor
  · rintro ⟨among, isRead⟩
    exact ⟨.inl among, isRead⟩
  · rintro ⟨among | rfl, isRead⟩
    · exact ⟨among, isRead⟩
    · exact absurd isRead (unread _)

theorem holds_addFile {wanted : List (Path × String)} {saved later : List Saved} {path : Path}
    {name : String} (holds : Holds disk wanted saved)
    (added : addFile zip disk saved path name = .ok later) :
    Holds disk (wanted ++ [(path, name)]) later := by
  rw [addFile] at added
  split at added
  next data read => exact holds_addData holds read added
  next => cases added
  next => cases added

theorem holds_addFileOpt {wanted : List (Path × String)} {saved later : List Saved} {path : Path}
    {name : String} (holds : Holds disk wanted saved)
    (added : addFileOpt zip disk saved path name = .ok later) :
    Holds disk (wanted ++ [(path, name)]) later := by
  rw [addFileOpt] at added
  split at added
  next data read => exact holds_addData holds read added
  next absent =>
    cases added
    exact holds_skip holds fun data read => by rw [absent] at read; cases read
  next e failed =>
    cases added
    exact holds_skip holds fun data read => by rw [failed] at read; cases read

theorem holds_foldlM {add : List Saved → Path × String → Except String (List Saved)}
    (each : ∀ wanted saved later file, Holds disk wanted saved → add saved file = .ok later →
      Holds disk (wanted ++ [file]) later)
    {files wanted : List (Path × String)} {saved later : List Saved} (holds : Holds disk wanted saved)
    (added : files.foldlM add saved = .ok later) : Holds disk (wanted ++ files) later := by
  induction files generalizing wanted saved with
  | nil =>
    rw [List.foldlM_nil, pure_ok] at added
    rw [List.append_nil, ← added]
    exact holds
  | cons file rest ih =>
    rw [List.foldlM_cons, bind_ok] at added
    obtain ⟨next, first, added⟩ := added
    have all := ih (each wanted saved next file holds first) added
    rwa [List.append_assoc, List.singleton_append] at all

/-- The files a backup asks for, with their names in the archive. -/
def wantedFiles (paths : BackupPaths) (rules calendars : List (Path × String)) :
    List (Path × String) :=
  [(paths.stateDbPath, "state.redb"), (paths.historyDbPath, "history.db"),
    (paths.configPath, "config/homecore.toml")] ++ modeFiles paths ++ rules ++ pluginFiles paths ++
    calendars

theorem archived_holds {saved : List Saved} (made : archived zip disk paths = .ok saved) :
    ∃ rules calendars, ruleFiles disk paths = .ok rules ∧ calendarFiles disk paths = .ok calendars ∧
      Holds disk (wantedFiles paths rules calendars) saved := by
  simp only [archived, bind_ok] at made
  obtain ⟨withState, addedState, withHistory, addedHistory, withConfig, addedConfig, withModes,
    addedModes, rules, isRules, withRules, addedRules, withPlugins, addedPlugins, calendars,
    isCalendars, addedCalendars⟩ := made
  refine ⟨rules, calendars, isRules, isCalendars, ?_⟩
  have empty : Holds disk [] [] := by
    intro s
    simp only [List.not_mem_nil, false_and]
  have config := holds_addFileOpt (holds_addFile (holds_addFile empty addedState) addedHistory)
    addedConfig
  have modes := holds_foldlM (fun _ _ _ _ => holds_addFileOpt) config addedModes
  have rules := holds_foldlM (fun _ _ _ _ => holds_addFile) modes addedRules
  have plugins := holds_foldlM (fun _ _ _ _ => holds_addFileOpt) rules addedPlugins
  exact holds_foldlM (fun _ _ _ _ => holds_addFileOpt) plugins addedCalendars

theorem listDir_ok {dir : Path} {entries : List String} (made : listDir disk dir = .ok entries)
    {name : String} : name ∈ entries ↔ ∃ names, disk.names dir = some names ∧ name ∈ names := by
  rw [listDir] at made
  split at made
  next absent =>
    cases made
    simp only [List.not_mem_nil, absent, reduceCtorEq, false_and, exists_false]
  next names there =>
    split at made
    next => cases made
    next =>
      cases made
      simp only [there, Option.some.injEq, exists_eq_left']

theorem mem_ruleFiles {rules : List (Path × String)} (made : ruleFiles disk paths = .ok rules)
    {file : Path × String} : file ∈ rules ↔ ∃ name names, disk.names paths.rulesDir = some names ∧
      name ∈ names ∧ Loader.isRuleFile name ∧ file = (paths.rulesDir ++ [name], "rules/" ++ name) := by
  rw [ruleFiles, map_ok] at made
  obtain ⟨entries, found, rfl⟩ := made
  simp only [List.mem_map, List.mem_insertionSort, List.mem_filter, listDir_ok found]
  constructor
  · rintro ⟨name, ⟨⟨names, there, member⟩, isRule⟩, rfl⟩
    exact ⟨name, names, there, member, isRule, rfl⟩
  · rintro ⟨name, names, there, member, isRule, rfl⟩
    exact ⟨name, ⟨⟨names, there, member⟩, isRule⟩, rfl⟩

theorem mem_calendarFiles {calendars : List (Path × String)}
    (made : calendarFiles disk paths = .ok calendars) {file : Path × String} :
    file ∈ calendars ↔ ∃ dir name names, paths.calendarsDir = some dir ∧
      disk.names dir = some names ∧ name ∈ names ∧ (disk.files (dir ++ [name])).isSome ∧
      file = (dir ++ [name], "calendars/" ++ name) := by
  rw [calendarFiles] at made
  split at made
  next absent =>
    cases made
    simp only [List.not_mem_nil, absent, reduceCtorEq, false_and, exists_false]
  next dir isDir =>
    rw [map_ok] at made
    obtain ⟨entries, found, rfl⟩ := made
    simp only [List.mem_map, List.mem_insertionSort, List.mem_filter, listDir_ok found]
    constructor
    · rintro ⟨name, ⟨⟨names, there, member⟩, isFile⟩, rfl⟩
      exact ⟨dir, name, names, isDir, there, member, isFile, rfl⟩
    · rintro ⟨other, name, names, isOther, there, member, isFile, rfl⟩
      rw [isDir] at isOther
      cases isOther
      exact ⟨name, ⟨⟨names, there, member⟩, isFile⟩, rfl⟩

theorem read_data {path : Path} {data : Bytes} (read : disk.read path = .data data) :
    disk.files path = some data ∧ disk.refuses path = none := by
  rw [Disk.read] at read
  split at read
  next => split at read <;> cases read
  next bytes there =>
    split at read
    next => cases read
    next readable =>
      cases read
      exact ⟨there, readable⟩

/-- Every file of the kept kinds that is there is asked for. -/
theorem wanted_of_kept {rules calendars : List (Path × String)} {path : Path}
    (isRules : ruleFiles disk paths = .ok rules) (isCalendars : calendarFiles disk paths = .ok calendars)
    (kept : IsKept paths path) (there : (disk.files path).isSome) :
    ∃ name, (path, name) ∈ wantedFiles paths rules calendars := by
  simp only [wantedFiles, List.mem_append]
  rcases kept with rfl | rfl | isMode | ⟨name, isRule, rfl⟩ | ⟨plugin, member, rfl⟩ |
    ⟨dir, name, isDir, rfl⟩
  · exact ⟨"state.redb", .inl (.inl (.inl (.inl List.mem_cons_self)))⟩
  · exact ⟨"history.db", .inl (.inl (.inl (.inl (List.mem_cons_of_mem _ List.mem_cons_self))))⟩
  · obtain ⟨⟨place, name⟩, member, rfl⟩ := List.mem_map.mp isMode
    exact ⟨name, .inl (.inl (.inl (.inr member)))⟩
  · obtain ⟨entries, listed, member⟩ := disk.listed _ _ there
    exact ⟨_, .inl (.inl (.inr ((mem_ruleFiles isRules).mpr
      ⟨name, entries, listed, member, isRule, rfl⟩)))⟩
  · exact ⟨_, .inl (.inr (List.mem_map_of_mem member))⟩
  · obtain ⟨entries, listed, member⟩ := disk.listed _ _ there
    exact ⟨_, .inr ((mem_calendarFiles isCalendars).mpr
      ⟨dir, name, entries, isDir, listed, member, there, rfl⟩)⟩

end
/-! ## Where it goes -/

theorem isPlain_apart {name : String} (plain : isPlain name) : '/' ∉ name.toList := by
  simp only [isPlain, Bool.and_eq_true, Bool.not_eq_true'] at plain
  intro member
  rw [List.contains_iff_mem.mpr member] at plain
  exact absurd plain.1.2 (by decide)

theorem splitText_under {dir name : String} (isDir : '/' ∉ dir.toList) (isName : '/' ∉ name.toList) :
    splitText '/' (dir ++ "/" ++ name) = [dir, name] := by
  have slash : "/".toList = ['/'] := rfl
  rw [splitText, String.toList_append, String.toList_append, slash, List.append_assoc,
    List.singleton_append, List.splitOn_append_cons_self_of_not_mem isDir,
    List.splitOn_eq_singleton isName]
  simp only [List.map_cons, List.map_nil, String.ofList_toList]

theorem fileName_under {dir name : String} (isDir : isPlain dir) (plain : isPlain name) :
    fileName (dir ++ "/" ++ name) = some name := by
  rw [fileName, splitText_under (isPlain_apart isDir) (isPlain_apart plain)]
  simp only [isPlain, Bool.and_eq_true, decide_eq_true_eq, ne_eq] at plain isDir
  simp [plain, isDir]

theorem isPrefixOf_append (before after : String) :
    before.toList.isPrefixOf (before ++ after).toList := by
  rw [String.toList_append]
  exact List.isPrefixOf_iff_prefix.mpr (List.prefix_append _ _)

/-- No name under these two directories is one of the fixed names, which have another third
letter. -/
theorem under_ne {dir name other : String} (third : dir.toList[2]? = some 'l')
    (differs : other.toList[2]? ≠ some 'l') : dir ++ name ≠ other := by
  rintro rfl
  apply differs
  rw [String.toList_append, List.getElem?_append_left]
  · exact third
  · exact (List.getElem?_eq_some_iff.mp third).1

theorem destination_rule {paths : BackupPaths} {name : String} (plain : isPlain name) :
    destination paths ("rules/" ++ name) = some (paths.rulesDir ++ [name]) := by
  have third : "rules/".toList[2]? = some 'l' := rfl
  have isFile : fileName ("rules/" ++ name) = some name := @fileName_under "rules" name rfl plain
  rw [destination, if_neg (under_ne third (by decide)), if_neg (under_ne third (by decide)),
    if_neg (under_ne third (by decide)), if_neg (under_ne third (by decide)),
    if_neg (under_ne third (by decide)), if_pos (isPrefixOf_append "rules/" name), isFile,
    Option.map_some]

theorem destination_calendar {paths : BackupPaths} {dir : Path} {name : String} (plain : isPlain name)
    (isDir : paths.calendarsDir = some dir) :
    destination paths ("calendars/" ++ name) = some (dir ++ [name]) := by
  have third : "calendars/".toList[2]? = some 'l' := rfl
  have isFile : fileName ("calendars/" ++ name) = some name :=
    @fileName_under "calendars" name rfl plain
  have noRule : ¬"rules/".toList.isPrefixOf ("calendars/" ++ name).toList := by
    rw [String.toList_append]
    exact Bool.false_ne_true
  rw [destination, if_neg (under_ne third (by decide)), if_neg (under_ne third (by decide)),
    if_neg (under_ne third (by decide)), if_neg (under_ne third (by decide)),
    if_neg (under_ne third (by decide)), if_neg noRule,
    if_pos (isPrefixOf_append "calendars/" name), isDir, Option.bind_some, isFile, Option.map_some]

section
variable {zip : ZipCrate} {disk : Disk} {paths now : BackupPaths} {taken : ZipTime}

theorem enclosed_under (returns : ReturnsStored zip disk paths taken) {dir name : String}
    (isDir : isPlain dir) (plain : isPlain name) :
    zip.enclosedName (dir ++ "/" ++ name) = some (dir ++ "/" ++ name) := by
  apply returns.enclosedName
  rw [splitText_under (isPlain_apart isDir) (isPlain_apart plain)]
  simp only [List.mem_cons, List.not_mem_nil, or_false, forall_eq_or_imp, forall_eq]
  exact ⟨isDir, plain⟩

/-- The name of each file that was saved leads back to it. -/
theorem leads_back (returns : ReturnsStored zip disk paths taken) (same : SamePlaces paths now)
    (plugins : PluginsLeadBack paths zip disk now) {rules calendars : List (Path × String)}
    (isRules : ruleFiles disk paths = .ok rules) (isCalendars : calendarFiles disk paths = .ok calendars)
    {file : Path × String} (wanted : file ∈ wantedFiles paths rules calendars) {data : Bytes}
    (read : disk.read file.1 = .data data) :
    (zip.enclosedName file.2).bind (destination now) = some file.1 := by
  simp only [wantedFiles, List.mem_append, List.mem_cons, List.not_mem_nil, or_false] at wanted
  rcases wanted with ((((isState | isHistory | isConfig) | isMode) | isRule) | isPlugin) | isCalendar
  · subst isState
    rw [returns.enclosedName "state.redb" (by decide), Option.bind_some, ← same.stateDbPath]
    rfl
  · subst isHistory
    rw [returns.enclosedName "history.db" (by decide), Option.bind_some, ← same.historyDbPath]
    rfl
  · subst isConfig
    rw [returns.enclosedName "config/homecore.toml" (by decide), Option.bind_some, ← same.configPath]
    rfl
  · rw [modeFiles, ← same.configPath] at isMode
    split at isMode
    next => cases isMode
    next dir isDir =>
      simp only [List.mem_cons, List.not_mem_nil, or_false] at isMode
      rcases isMode with isModes | isDefinitions
      · subst isModes
        rw [returns.enclosedName "config/modes.toml" (by decide), Option.bind_some]
        exact congrArg (Option.map (· ++ ["modes.toml"])) isDir
      · subst isDefinitions
        rw [returns.enclosedName "config/mode_definitions.json" (by decide), Option.bind_some]
        exact congrArg (Option.map (· ++ ["mode_definitions.json"])) isDir
  · obtain ⟨name, names, there, member, _, rfl⟩ := (mem_ruleFiles isRules).mp isRule
    have plain := disk.plain _ _ name there member
    have enclosed : zip.enclosedName ("rules/" ++ name) = some ("rules/" ++ name) :=
      @enclosed_under _ _ _ _ returns "rules" name rfl plain
    rw [enclosed, Option.bind_some, destination_rule plain, same.rulesDir]
  · exact plugins file isPlugin data read
  · obtain ⟨dir, name, names, isDir, there, member, _, rfl⟩ :=
      (mem_calendarFiles isCalendars).mp isCalendar
    have plain := disk.plain _ _ name there member
    have enclosed : zip.enclosedName ("calendars/" ++ name) = some ("calendars/" ++ name) :=
      @enclosed_under _ _ _ _ returns "calendars" name rfl plain
    rw [enclosed, Option.bind_some]
    exact destination_calendar plain (same.calendarsDir.trans isDir)

/-! ## Undoing what changed -/

/-- The writes of a restore are those of the saved files, back to where they were read. -/
theorem mem_placements {stored : List ZipEntry} {paths : BackupPaths} {write : Path × Bytes} :
    write ∈ stored.zipIdx.filterMap (placement paths) ↔ ∃ entry ∈ stored,
      entry.enclosedName.bind (destination paths) = some write.1 ∧ entry.data = .ok write.2 := by
  rw [List.mem_filterMap]
  constructor
  · rintro ⟨⟨entry, index⟩, member, placed⟩
    refine ⟨entry, List.fst_mem_of_mem_zipIdx member, ?_⟩
    simp only [placement] at placed
    split at placed
    next dest data isDest isData =>
      cases placed
      exact ⟨isDest, isData⟩
    next => cases placed
  · rintro ⟨entry, member, isDest, isData⟩
    obtain ⟨index, bound, isEntry⟩ := List.mem_iff_getElem.mp member
    refine ⟨(entry, index), ?_, ?_⟩
    · rw [List.mem_zipIdx_iff_getElem?]
      exact List.getElem?_eq_some_iff.mpr ⟨bound, isEntry⟩
    · simp only [placement, isDest, isData]

/-- A restore that succeeded has put every entry in place. -/
theorem applied_files {start : Start} {bytes : Bytes} {stored : List ZipEntry} {report : Report}
    (unpacked : zip.unpack bytes = .ok stored) (staged : start.files now.pending = some bytes)
    (applied : (applyPending zip now start).1 = some (.ok report)) {path : Path}
    (live : IsLive now path) : (applyPending zip now start).2 path =
      Overwrites.written start.files (stored.zipIdx.filterMap (placement now)) path := by
  rw [applyPending] at applied ⊢
  split at applied
  next => cases applied
  next =>
    rw [staged] at applied ⊢
    simp only at applied ⊢
    split at applied
    next => cases applied
    next plan planned =>
      have opened := planRestore_ok now zip planned
      obtain ⟨found, isFound, opened, _, _⟩ := opened
      rw [unpacked] at isFound
      cases isFound
      have begins : (⟨start.files, [], [], .ok ()⟩ : Extraction).outcome = .ok () := rfl
      have go : ∀ entry ∈ stored.zipIdx, Goes now start.attempts entry := by
        by_contra fails
        obtain ⟨⟨e, stops⟩, _⟩ := extractEntries_fail opened fails begins
        simp only [extractRestore, unpacked, stops] at applied
        cases applied
      rw [extractRestore_go zip planned unpacked go]
      exact setAside_live live

theorem mem_writes (returns : ReturnsStored zip disk paths taken) (same : SamePlaces paths now)
    (plugins : PluginsLeadBack paths zip disk now) {rules calendars : List (Path × String)}
    (isRules : ruleFiles disk paths = .ok rules) (isCalendars : calendarFiles disk paths = .ok calendars)
    {saved : List Saved} (holds : Holds disk (wantedFiles paths rules calendars) saved)
    {write : Path × Bytes} :
    write ∈ ((stored saved).map (readBack zip taken)).zipIdx.filterMap (placement now) ↔
      (∃ name, (write.1, name) ∈ wantedFiles paths rules calendars) ∧
        disk.read write.1 = .data write.2 := by
  obtain ⟨dest, data⟩ := write
  rw [mem_placements, stored, List.map_map]
  constructor
  · rintro ⟨entry, member, isDest, isData⟩
    obtain ⟨s, isSaved, rfl⟩ := List.mem_map.mp member
    obtain ⟨wanted, read⟩ := (holds s).mp isSaved
    have back := leads_back returns same plugins isRules isCalendars wanted read
    simp only [Function.comp_apply, readBack] at isDest isData
    rw [back] at isDest
    cases isDest
    cases isData
    exact ⟨⟨s.name, wanted⟩, read⟩
  · rintro ⟨⟨name, wanted⟩, read⟩
    have isSaved := (holds ⟨name, dest, data⟩).mpr ⟨wanted, read⟩
    have back := leads_back returns same plugins isRules isCalendars wanted read
    exact ⟨_, List.mem_map_of_mem isSaved, back, rfl⟩

/-- On the house it was made of, a restore brings every saved file of the kept kinds back as it was
and leaves every other as it finds it. So the files of these kinds are what they were exactly if
none is there that was not there then. -/
theorem restore_brings_back (returns : ReturnsStored zip disk paths taken) (same : SamePlaces paths now)
    (plugins : PluginsLeadBack paths zip disk now) {bytes : Bytes}
    (built : buildZip zip disk paths taken = .ok bytes) {start : Start} {report : Report}
    (staged : start.files now.pending = some bytes)
    (applied : (applyPending zip now start).1 = some (.ok report)) :
    (∀ path, IsKept paths path → IsLive now path →
      (∀ data, disk.read path = .data data → (applyPending zip now start).2 path = some data) ∧
      ((∀ data, disk.read path ≠ .data data) →
        (applyPending zip now start).2 path = start.files path)) ∧
    ((∀ path, IsKept paths path → IsLive now path → disk.refuses path = none →
        (applyPending zip now start).2 path = disk.files path) ↔
      ∀ path, IsKept paths path → IsLive now path → disk.refuses path = none →
        disk.files path = none → start.files path = none) := by
  rw [buildZip, map_ok] at built
  obtain ⟨saved, made, rfl⟩ := built
  obtain ⟨rules, calendars, isRules, isCalendars, holds⟩ := archived_holds made
  have unpacked := returns.unpack saved made
  have each : ∀ path, IsKept paths path → IsLive now path →
      (∀ data, disk.read path = .data data → (applyPending zip now start).2 path = some data) ∧
      ((∀ data, disk.read path ≠ .data data) →
        (applyPending zip now start).2 path = start.files path) := by
    intro path kept live
    have isWrite := @mem_writes _ _ _ _ _ returns same plugins _ _ isRules isCalendars _ holds
    rw [applied_files unpacked staged applied live]
    constructor
    · intro data read
      apply Overwrites.written_of_same
      · intro write member here
        have wrote := (isWrite.mp member).2
        rw [here, read] at wrote
        cases wrote
        rfl
      · right
        have there : (disk.files path).isSome := by rw [(read_data read).1, Option.isSome_some]
        have wanted := wanted_of_kept isRules isCalendars kept there
        exact ⟨(path, data), isWrite.mpr ⟨wanted, read⟩, rfl⟩
    · intro unread
      apply Overwrites.written_of_apart
      intro write member here
      apply unread write.2
      rw [← here]
      exact (isWrite.mp member).2
  refine ⟨each, ?_⟩
  constructor
  · intro all path kept live readable absent
    have unread : ∀ data, disk.read path ≠ .data data := by
      intro data read
      rw [(read_data read).1] at absent
      cases absent
    rw [← (each path kept live).2 unread, all path kept live readable, absent]
  · intro none path kept live readable
    cases there : disk.files path with
    | none =>
      have unread : ∀ data, disk.read path ≠ .data data := by
        intro data read
        rw [(read_data read).1] at there
        cases there
      rw [(each path kept live).2 unread, none path kept live readable there]
    | some data =>
      apply (each path kept live).1
      rw [Disk.read, there]
      simp only [readable]

end

/-! ## Two restores -/

/-- A house of files in directories at the top. -/
def diskOf (files : List ((String × String) × Bytes)) (plain : ∀ file ∈ files, isPlain file.1.2) :
    Disk where
  files
    | [dir, name] => files.lookup (dir, name)
    | _ => none
  names
    | [dir] => some ((files.filter (·.1.1 == dir)).map (·.1.2))
    | _ => none
  refuses := fun _ => none
  listed := by
    intro dir name there
    match dir, there with
    | [], there => cases there
    | [_, _], there => cases there
    | _ :: _ :: _ :: _, there => cases there
    | [top], there =>
      refine ⟨_, rfl, ?_⟩
      obtain ⟨data, found⟩ := Option.isSome_iff_exists.mp there
      obtain ⟨before, after, split, _⟩ := List.lookup_eq_some_iff.mp found
      have member : ((top, name), data) ∈ files := by
        rw [split]
        exact List.mem_append_right _ List.mem_cons_self
      refine List.mem_map.mpr ⟨((top, name), data), List.mem_filter.mpr ⟨member, ?_⟩, rfl⟩
      exact beq_self_eq_true top
  plain := by
    intro dir entries name isDir member
    match dir, isDir with
    | [], isDir => cases isDir
    | _ :: _ :: _, isDir => cases isDir
    | [top], isDir =>
      cases isDir
      obtain ⟨file, isFile, rfl⟩ := List.mem_map.mp member
      exact plain file (List.mem_filter.mp isFile).1

/-- Packs one archive, and gives it back. -/
def packsOnly (files : List (String × Bytes)) : ZipCrate where
  startFile := fun names name => if names.contains name then .error "Duplicate filename" else .ok ()
  pack := fun _ _ => [80, 75]
  unpack := fun bytes =>
    if bytes = [80, 75] then
      .ok (files.map fun file => ⟨.ok (), some file.1, some ⟨2026, 1, 1, 0, 0, 0⟩, .ok file.2⟩)
    else .error "Could not find EOCD"
  enclosedName := some
  timeText := fun _ => none

/-- The claim that nothing of what changed since is left. -/
def BringsBack (zip : ZipCrate) (disk : Disk) (paths : BackupPaths) (taken : ZipTime) (start : Start) :
    Prop :=
  ∀ bytes report, buildZip zip disk paths taken = .ok bytes → start.files paths.pending = some bytes →
    (applyPending zip paths start).1 = some (.ok report) → ∀ path, IsKept paths path →
      IsLive paths path → (applyPending zip paths start).2 path = disk.files path

def newYear : ZipTime := ⟨2026, 1, 1, 0, 0, 0⟩

def twoDatabases : Disk :=
  diskOf [(("data", "state.redb"), [1]), (("data", "history.db"), [2])] (by decide)

def databasesZip : ZipCrate := packsOnly [("state.redb", [1]), ("history.db", [2])]

/-- A rule was added since. -/
def withPorchRule : Start where
  files := (diskOf [(("data", "state.redb"), [7]), (("data", "history.db"), [2]),
    (("data", "restore-pending.zip"), [80, 75]), (("rules", "porch.ron"), [5])] (by decide)).files
  pendingError := none
  attempts := fun _ => .written
  aside := .renamed

/-- Two plugins with one id, of which the first has no config. -/
def twoHues : BackupPaths :=
  { plainPaths with
    pluginConfigs := [⟨"plugin.hue", ["hue", "a.toml"]⟩, ⟨"plugin.hue", ["hue", "b.toml"]⟩] }

def withSecondHue : Disk :=
  diskOf [(("data", "state.redb"), [1]), (("data", "history.db"), [2]), (("hue", "b.toml"), [3])]
    (by decide)

def hueZip : ZipCrate :=
  packsOnly [("state.redb", [1]), ("history.db", [2]), ("plugins/plugin.hue/config.toml", [3])]

/-- The config of the second was edited since. -/
def withEditedHue : Start where
  files := (diskOf [(("data", "state.redb"), [7]), (("data", "history.db"), [2]),
    (("data", "restore-pending.zip"), [80, 75]), (("hue", "b.toml"), [4])] (by decide)).files
  pendingError := none
  attempts := fun _ => .written
  aside := .renamed

theorem databasesZip_returns : ReturnsStored databasesZip twoDatabases plainPaths newYear where
  unpack := by
    intro saved made
    have all : archived databasesZip twoDatabases plainPaths = .ok
        [⟨"state.redb", ["data", "state.redb"], [1]⟩, ⟨"history.db", ["data", "history.db"], [2]⟩] := by
      decide
    rw [all] at made
    cases made
    rfl
  enclosedName := fun _ _ => rfl

theorem hueZip_returns : ReturnsStored hueZip withSecondHue twoHues newYear where
  unpack := by
    intro saved made
    have all : archived hueZip withSecondHue twoHues = .ok
        [⟨"state.redb", ["data", "state.redb"], [1]⟩, ⟨"history.db", ["data", "history.db"], [2]⟩,
          ⟨"plugins/plugin.hue/config.toml", ["hue", "b.toml"], [3]⟩] := by
      decide
    rw [all] at made
    cases made
    rfl
  enclosedName := fun _ _ => rfl

/-- A rule that was added stays; and where two plugins have one id, the config of the second comes
back in the place of the first, where there was none. -/
theorem restore_leaves_and_misplaces :
    (ReturnsStored databasesZip twoDatabases plainPaths newYear ∧
      ¬BringsBack databasesZip twoDatabases plainPaths newYear withPorchRule) ∧
    (ReturnsStored hueZip withSecondHue twoHues newYear ∧
      ¬BringsBack hueZip withSecondHue twoHues newYear withEditedHue) := by
  refine ⟨⟨databasesZip_returns, ?_⟩, hueZip_returns, ?_⟩
  · intro back
    have same := back [80, 75] ⟨["state.redb", "history.db"], []⟩ (by decide)
      (by decide) (by decide) ["rules", "porch.ron"]
      (.inr (.inr (.inr (.inl ⟨"porch.ron", by decide, rfl⟩)))) (by constructor <;> decide)
    revert same
    decide
  · intro back
    have same := back [80, 75] ⟨["state.redb", "history.db", "plugins/plugin.hue/config.toml"], []⟩
      (by decide) (by decide) (by decide) ["hue", "a.toml"]
      (.inr (.inr (.inr (.inr (.inl ⟨_, List.mem_cons_self, rfl⟩)))))
      (by constructor <;> decide)
    revert same
    decide

/-- The state database is what it was, beside the rule that was added. -/
theorem state_comes_back :
    (applyPending databasesZip plainPaths withPorchRule).2 ["data", "state.redb"] = some [1] := by
  have same : SamePlaces plainPaths plainPaths := ⟨rfl, rfl, rfl, rfl, rfl⟩
  have plugins : PluginsLeadBack plainPaths databasesZip twoDatabases plainPaths := by
    intro file member
    cases member
  have built : buildZip databasesZip twoDatabases plainPaths newYear = .ok [80, 75] := by
    decide
  have staged : withPorchRule.files plainPaths.pending = some [80, 75] := by decide
  have applied : (applyPending databasesZip plainPaths withPorchRule).1 =
      some (.ok ⟨["state.redb", "history.db"], []⟩) := by
    decide
  have result := (restore_brings_back databasesZip_returns same plugins built staged applied).1
    ["data", "state.redb"] (.inl rfl)
  exact (result (by constructor <;> decide)).1 [1] (by decide)

end HomeCore.Backup
