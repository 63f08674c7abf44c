import HomeCore.Runtimes.EnrollmentProofs

/-! Which runtimes share a plugin id. An id joins the kind of a runtime and the first eight
ASCII letters and digits of its runtime id, and the last hyphen parts the two again; two
approved runtimes have one plugin id where they agree in both. -/
namespace HomeCore

/-- What a plugin id has of a kind. -/
def kindName (setup : RuntimeSetup) (kind : String) : List Char :=
  setup.lowercase (trim kind.toList)

/-- What a plugin id has of a runtime id. -/
def shortId (runtimeId : String) : List Char := (runtimeId.toList.filter isAsciiAlphanumeric).take 8

namespace RuntimeSystem

def DistinctPlugins (system : RuntimeSystem) : Prop :=
  ∀ (id other : String) (record another : RuntimeRecord), system.runtimes[id]? = some record →
    system.runtimes[other]? = some another → record.status = .approved →
    another.status = .approved → id ≠ other → record.pluginId ≠ another.pluginId

/-- No two approved runtimes agree in the kind, trimmed and in lower case, and in the first
eight letters and digits of their runtime ids. -/
def NoTwins (setup : RuntimeSetup) (system : RuntimeSystem) : Prop :=
  ∀ (id other : String) (record another : RuntimeRecord), system.runtimes[id]? = some record →
    system.runtimes[other]? = some another → record.status = .approved →
    another.status = .approved → id ≠ other →
    ¬ (kindName setup record.kind = kindName setup another.kind ∧ shortId id = shortId other)

variable {setup : RuntimeSetup} {system next : RuntimeSystem}

/-! ## When two ids are one -/

theorem hyphen_notMem_shortId (runtimeId : String) : '-' ∉ shortId runtimeId := by
  intro inside
  have kept := (List.mem_filter.mp (List.mem_of_mem_take inside)).2
  exact absurd kept (by decide)

theorem pluginIdFor_ok {kind runtimeId plugin : String} (made : pluginIdFor setup kind runtimeId = .ok plugin) :
    plugin = "plugin." ++ String.ofList (kindName setup kind) ++ "-" ++ String.ofList (shortId runtimeId) := by
  simp only [pluginIdFor] at made
  split at made
  · cases made
  · split at made
    · cases made
    · cases made
      rfl

theorem toList_of_pluginIdFor {kind runtimeId plugin : String}
    (made : pluginIdFor setup kind runtimeId = .ok plugin) :
    plugin.toList = ("plugin.".toList ++ kindName setup kind) ++ '-' :: shortId runtimeId := by
  rw [pluginIdFor_ok made]
  simp only [String.toList_append, String.toList_ofList, List.append_assoc]
  rfl

theorem pluginIdFor_same_iff {kind otherKind runtimeId otherId plugin other : String}
    (made : pluginIdFor setup kind runtimeId = .ok plugin)
    (otherMade : pluginIdFor setup otherKind otherId = .ok other) :
    plugin = other ↔
      kindName setup kind = kindName setup otherKind ∧ shortId runtimeId = shortId otherId := by
  rw [← String.toList_inj, toList_of_pluginIdFor made, toList_of_pluginIdFor otherMade,
    Splitting.append_last_iff (hyphen_notMem_shortId runtimeId) (hyphen_notMem_shortId otherId),
    List.append_cancel_left_eq]

/-! ## The plugin id of a stored record -/

/-- The record's plugin id is the one made of its kind and its runtime id, and an approved
runtime has one. -/
structure Named (setup : RuntimeSetup) (record : RuntimeRecord) : Prop where
  made : ∀ plugin, record.pluginId = some plugin →
    pluginIdFor setup record.kind record.runtimeId = .ok plugin
  approved : record.status = .approved → record.pluginId.isSome

/-- The record that a request has read or is about to write. -/
def carried : RuntimeTask → Option RuntimeRecord
  | .tokenReads enrolling _ _ => enrolling.existing
  | .redeemReads enrolling _ => enrolling.existing
  | .redeemWrites enrolling _ => enrolling.existing
  | .deciding enrolling _ => enrolling.existing
  | .enrollWrites record _ => some record
  | .pollWrites record => some record
  | .listingWrites record => some record
  | .approveWrites record => some record
  | .denyWrites record => some record
  | _ => none

def CarriesNamed (setup : RuntimeSetup) (task : RuntimeTask) : Prop :=
  ∀ record, carried task = some record → Named setup record

structure Naming (setup : RuntimeSetup) (system : RuntimeSystem) : Prop where
  keyed : ∀ (id : String) (record : RuntimeRecord), system.runtimes[id]? = some record → record.runtimeId = id
  stored : ∀ (id : String) (record : RuntimeRecord), system.runtimes[id]? = some record → Named setup record
  underWay : ∀ task ∈ system.tasks, CarriesNamed setup task

theorem carriesNamed_of_none {task : RuntimeTask} (nothing : carried task = none) :
    CarriesNamed setup task := by
  intro record is
  rw [nothing] at is
  cases is

theorem carriesNamed_of_some {task : RuntimeTask} {record : RuntimeRecord}
    (something : carried task = some record) (named : Named setup record) : CarriesNamed setup task := by
  intro found is
  rw [something] at is
  cases is
  exact named

theorem named_newRecord (request : EnrollRequest) (now : DateTime) :
    Named setup (newRecord request now) := by
  constructor
  · intro plugin is
    cases is
  · intro is
    cases is

theorem named_record {enrolling : Enrolling}
    (named : ∀ record, enrolling.existing = some record → Named setup record) :
    Named setup (Enrolling.record enrolling) := by
  simp only [Enrolling.record]
  cases known : enrolling.existing with
  | none => exact named_newRecord enrolling.request enrolling.now
  | some record => exact named record known

theorem credentialsFor_named {record : RuntimeRecord} {plugin : String} (named : Named setup record)
    (made : credentialsFor setup record = .ok plugin) :
    pluginIdFor setup record.kind record.runtimeId = .ok plugin := by
  cases known : record.pluginId with
  | some pluginId =>
    simp only [credentialsFor, known, pure_bind] at made
    split at made
    · cases made
      exact named.made plugin known
    · cases made
  | none =>
    simp only [credentialsFor, known] at made
    cases fresh : pluginIdFor setup record.kind record.runtimeId with
    | error message =>
      rw [fresh] at made
      cases made
    | ok pluginId =>
      rw [fresh] at made
      change (if setup.installs then _ else _) = _ at made
      split at made
      · cases made
        rfl
      · cases made

/-! ## What each request reads and writes -/

section Reads
variable (naming : Naming setup system)
include naming

theorem enrollRead_named (request : EnrollRequest) (draws : RuntimeDraws) :
    CarriesNamed setup (system.enrollRead request draws) := by
  simp only [enrollRead]
  split
  · exact carriesNamed_of_none rfl
  · split
    · exact fun record is => naming.stored _ record is
    · split
      · exact fun record is => naming.stored _ record is
      · exact carriesNamed_of_none rfl
      · exact fun record is => naming.stored _ record is

omit naming in
theorem tokenRead_named {enrolling : Enrolling} {token key : String}
    (named : CarriesNamed setup (.tokenReads enrolling token key)) :
    CarriesNamed setup (system.tokenRead setup enrolling token key) := by
  simp only [tokenRead]
  split
  · exact named
  · split <;> exact named

omit naming in
theorem redeemRead_named {enrolling : Enrolling} {key : String}
    (named : CarriesNamed setup (.redeemReads enrolling key)) :
    CarriesNamed setup (system.redeemRead enrolling key) := by
  simp only [redeemRead]
  split
  · exact named
  · split <;> exact named

omit naming in
theorem enrollDecided_named {enrolling : Enrolling} {redeemed : Option String} {pendingCount : Nat}
    (named : CarriesNamed setup (.deciding enrolling redeemed)) :
    CarriesNamed setup (enrollDecided setup enrolling redeemed pendingCount) := by
  have record := named_record named
  simp only [enrollDecided]
  split
  · exact carriesNamed_of_none rfl
  · split
    · exact carriesNamed_of_none rfl
    · rename_i pluginId made
      have own := credentialsFor_named record made
      refine carriesNamed_of_some rfl ⟨?_, fun _ => rfl⟩
      intro plugin is
      cases is
      exact own
  · refine carriesNamed_of_some rfl ⟨record.made, ?_⟩
    intro is
    cases is

theorem pollRead_named (id presented : String) (draws : RuntimeDraws) :
    CarriesNamed setup (system.pollRead setup id presented draws) := by
  simp only [pollRead]
  split
  · exact carriesNamed_of_none rfl
  · rename_i record found
    have named := naming.stored id record found
    split
    · exact carriesNamed_of_none rfl
    · split
      · split
        · exact carriesNamed_of_none rfl
        · exact carriesNamed_of_some rfl ⟨named.made, named.approved⟩
      · exact carriesNamed_of_none rfl
      · split <;> exact carriesNamed_of_none rfl

theorem listingRead_named (id presented : String) :
    CarriesNamed setup (system.listingRead setup id presented) := by
  simp only [listingRead]
  split
  · exact carriesNamed_of_none rfl
  · rename_i record found
    split
    · exact carriesNamed_of_some rfl (naming.stored id record found)
    · exact carriesNamed_of_none rfl

omit naming in
theorem approveRead_named (id : String) : CarriesNamed setup (system.approveRead setup id) := by
  simp only [approveRead]
  split
  · exact carriesNamed_of_none rfl
  · rename_i record found
    split
    · exact carriesNamed_of_none rfl
    · split
      · exact carriesNamed_of_none rfl
      · rename_i pluginId made
        refine carriesNamed_of_some rfl ⟨?_, fun _ => rfl⟩
        intro plugin is
        cases is
        exact made

theorem denyRead_named (id : String) : CarriesNamed setup (system.denyRead setup id) := by
  simp only [denyRead]
  split
  · exact carriesNamed_of_none rfl
  · rename_i record found
    refine carriesNamed_of_some rfl ⟨(naming.stored id record found).made, ?_⟩
    intro is
    cases is

end Reads

/-! ## Steps and runs -/

/-- A request goes on, and nothing is stored. -/
theorem Naming.moved (naming : Naming setup system) {index : Nat} {task : RuntimeTask}
    (runtimes : next.runtimes = system.runtimes) (tasks : next.tasks = system.tasks.set index task)
    (named : CarriesNamed setup task) : Naming setup next := by
  refine ⟨?_, ?_, ?_⟩
  · rw [runtimes]
    exact naming.keyed
  · rw [runtimes]
    exact naming.stored
  · intro found member
    rw [tasks] at member
    rcases List.mem_or_eq_of_mem_set member with before | rfl
    · exact naming.underWay found before
    · exact named

/-- A record is stored under its own runtime id. -/
theorem Naming.written (naming : Naming setup system) (record : RuntimeRecord) {index : Nat}
    {answer : RuntimeAnswer} (named : Named setup record)
    (runtimes : next.runtimes = system.runtimes.insert record.runtimeId record)
    (tasks : next.tasks = system.tasks.set index (.done answer)) : Naming setup next := by
  have rows : ∀ (id : String) (found : RuntimeRecord), next.runtimes[id]? = some found →
      (found.runtimeId = id ∧ found = record) ∨ system.runtimes[id]? = some found := by
    intro id found stored
    rw [runtimes, Std.ExtTreeMap.getElem?_insert] at stored
    simp only [Std.compare_eq_iff_eq] at stored
    split at stored
    · cases stored
      exact .inl ⟨‹_›, rfl⟩
    · exact .inr stored
  refine ⟨?_, ?_, ?_⟩
  · intro id found stored
    rcases rows id found stored with ⟨own, _⟩ | before
    · exact own
    · exact naming.keyed id found before
  · intro id found stored
    rcases rows id found stored with ⟨_, rfl⟩ | before
    · exact named
    · exact naming.stored id found before
  · intro found member
    rw [tasks] at member
    rcases List.mem_or_eq_of_mem_set member with before | rfl
    · exact naming.underWay found before
    · exact carriesNamed_of_none rfl

theorem Naming.begun (naming : Naming setup system) {task : RuntimeTask} (nothing : carried task = none) :
    Naming setup (system.begin task) := by
  refine ⟨naming.keyed, naming.stored, ?_⟩
  intro found member
  rcases List.mem_append.mp member with before | last
  · exact naming.underWay found before
  · rw [List.mem_singleton.mp last]
    exact carriesNamed_of_none nothing

theorem advance_naming (naming : Naming setup system) {index : Nat} {task : RuntimeTask}
    (was : system.tasks[index]? = some task) : Naming setup (system.advance setup index task) := by
  have named := naming.underWay task (List.mem_of_getElem? was)
  cases task with
  | enrollReads request draws => exact naming.moved rfl rfl (enrollRead_named naming request draws)
  | tokenReads enrolling token key => exact naming.moved rfl rfl (tokenRead_named named)
  | redeemReads enrolling key => exact naming.moved rfl rfl (redeemRead_named named)
  | redeemWrites enrolling read =>
    have kept : CarriesNamed setup (.deciding enrolling (some read.lookupPrefix)) := named
    exact naming.moved rfl rfl kept
  | deciding enrolling redeemed => exact naming.moved rfl rfl (enrollDecided_named named)
  | enrollWrites record answer => exact naming.written record (named record rfl) rfl rfl
  | pollReads id presented draws => exact naming.moved rfl rfl (pollRead_named naming id presented draws)
  | pollWrites record => exact naming.written record (named record rfl) rfl rfl
  | listingReads id presented => exact naming.moved rfl rfl (listingRead_named naming id presented)
  | listingWrites record =>
    have own := named record rfl
    exact naming.written { record with lastSeenAt := some system.now } ⟨own.made, own.approved⟩ rfl rfl
  | approveReads id => exact naming.moved rfl rfl (approveRead_named id)
  | approveWrites record => exact naming.written record (named record rfl) rfl rfl
  | denyReads id => exact naming.moved rfl rfl (denyRead_named naming id)
  | denyWrites record => exact naming.written record (named record rfl) rfl rfl
  | done answer => exact naming.moved rfl rfl (carriesNamed_of_none rfl)

theorem step_naming (naming : Naming setup system) (input : RuntimeInput) :
    Naming setup (system.step setup input) := by
  cases input with
  | tick nanos => exact ⟨naming.keyed, naming.stored, naming.underWay⟩
  | issues token => exact ⟨naming.keyed, naming.stored, naming.underWay⟩
  | enrolls ip request draws =>
    have attempted : Naming setup (system.attempt ip) := ⟨naming.keyed, naming.stored, naming.underWay⟩
    simp only [step]
    split <;> exact attempted.begun rfl
  | polls id presented draws =>
    simp only [step, ifEnabled]
    split <;> exact naming.begun rfl
  | lists id presented =>
    simp only [step, ifEnabled]
    split <;> exact naming.begun rfl
  | approves id => exact naming.begun rfl
  | denies id => exact naming.begun rfl
  | work index =>
    simp only [step]
    cases was : system.tasks[index]? with
    | none => exact naming
    | some task => exact advance_naming naming was

theorem start_naming (now : DateTime) : Naming setup (start now) := by
  refine ⟨?_, ?_, ?_⟩
  all_goals simp [start]

theorem distinctPlugins_iff (naming : Naming setup system) :
    system.DistinctPlugins ↔ system.NoTwins setup := by
  refine forall₄_congr fun id other record another => ?_
  refine forall_congr' fun found => forall_congr' fun otherFound => forall_congr' fun isApproved =>
    forall_congr' fun otherApproved => forall_congr' fun apart => not_congr ?_
  have named := naming.stored id record found
  have otherNamed := naming.stored other another otherFound
  obtain ⟨plugin, is⟩ := Option.isSome_iff_exists.mp (named.approved isApproved)
  obtain ⟨otherPlugin, otherIs⟩ := Option.isSome_iff_exists.mp (otherNamed.approved otherApproved)
  have same := pluginIdFor_same_iff (named.made plugin is) (otherNamed.made otherPlugin otherIs)
  rw [is, otherIs, Option.some.injEq, same, naming.keyed id record found,
    naming.keyed other another otherFound]

/-- In every interleaving, approved runtimes have plugin ids of their own throughout, where
and only where no two of them agree in kind and in the letters that the ids keep. -/
theorem plugins_distinct_iff (setup : RuntimeSetup) (now : DateTime) (inputs : List RuntimeInput) :
    Runs.Always (step setup) DistinctPlugins (start now) inputs ↔
      Runs.Always (step setup) (NoTwins setup) (start now) inputs := by
  have naming : Runs.Always (step setup) (Naming setup) (start now) inputs :=
    Runs.kept (Naming setup) (fun _ input naming => step_naming naming input) (start_naming now) inputs
  constructor
  · intro distinct
    exact (naming.and distinct).mono fun system both => (distinctPlugins_iff both.1).mp both.2
  · intro noTwins
    exact (naming.and noTwins).mono fun system both => (distinctPlugins_iff both.1).mpr both.2

/-- Two runtimes of one kind, with keys of their own and ids that differ after eight letters. -/
def twoHosts : List RuntimeInput :=
  [.issues porchToken, .enrolls porchAddress (porchRequest "rt-abcdef123456") porchDraws] ++
    List.replicate 6 (.work 0) ++
    [.enrolls porchAddress { porchRequest "rt-abcdef999999" with token := none } porchDraws] ++
    List.replicate 3 (.work 1) ++ [.approves "rt-abcdef999999"] ++ List.replicate 2 (.work 2)

def afterTwoHosts : RuntimeSystem := twoHosts.foldl (step plainSetup) (start 0)

theorem two_hosts_one_plugin : ¬ Runs.Always (step plainSetup) DistinctPlugins (start 0) twoHosts := by
  intro always
  have both : afterTwoHosts.runtimes["rt-abcdef123456"]?.map (fun r => (r.status, r.pluginId)) =
        some (.approved, some "plugin.wasm-rtabcdef") ∧
      afterTwoHosts.runtimes["rt-abcdef999999"]?.map (fun r => (r.status, r.pluginId)) =
        some (.approved, some "plugin.wasm-rtabcdef") := by
    decide
  obtain ⟨record, found, is⟩ := Option.map_eq_some_iff.mp both.1
  obtain ⟨another, otherFound, otherIs⟩ := Option.map_eq_some_iff.mp both.2
  rw [Prod.mk.injEq] at is otherIs
  exact always.last "rt-abcdef123456" "rt-abcdef999999" record another found otherFound is.1 otherIs.1
    (by decide) (is.2.trans otherIs.2.symm)

end RuntimeSystem
end HomeCore
