import HomeCore.Runtimes.Decisions
import HomeCore.Runtimes.PluginIdProofs

/-! Whether the last decision on a runtime holds at its next enrollment. An approval leaves
the count of denials and the cooldown as they are, and an enrollment is refused for either
before its record's status is looked at. -/
namespace HomeCore
namespace RuntimeSystem

variable {setup : RuntimeSetup} {system : RuntimeSystem}

/-! ## A request alone -/

/-- Tasks that no read follows: they store something, or are done. -/
def isLast : RuntimeTask → Bool
  | .enrollWrites _ _ | .pollWrites _ | .listingWrites _ | .approveWrites _ | .denyWrites _ => true
  | .done _ => true
  | _ => false

def written (now : DateTime) : RuntimeTask → Option RuntimeRecord
  | .enrollWrites record _ => some record
  | .pollWrites record => some record
  | .listingWrites record => some { record with lastSeenAt := some now }
  | .approveWrites record => some record
  | .denyWrites record => some record
  | _ => none

def answerOf : RuntimeTask → RuntimeAnswer
  | .enrollWrites _ answer => answer
  | .done answer => answer
  | _ => .answered

/-- What is stored once a last task is worked on, and what is answered. -/
structure Ends (system after : RuntimeSystem) (task : RuntimeTask) : Prop where
  now : after.now = system.now
  runtimes : after.runtimes = match written system.now task with
    | some record => system.runtimes.insert record.runtimeId record
    | none => system.runtimes
  answer : after.tasks[system.tasks.length]? = some (.done (answerOf task))

theorem workAlone_succ (steps : Nat) (task : RuntimeTask) :
    system.workAlone setup (steps + 1) task =
      (List.replicate steps (.work system.tasks.length)).foldl (step setup)
        ((system.begin task).advance setup system.tasks.length task) := by
  have there : (system.begin task).tasks[system.tasks.length]? = some task := by
    simp [begin]
  simp only [workAlone, List.replicate_succ, List.foldl_cons, step, there]

theorem goes_begin (task next : RuntimeTask) :
    (system.begin task).goes system.tasks.length next = system.begin next := by
  simp [begin, goes]

/-- A read goes on as what it leads to. -/
theorem workAlone_read {task next : RuntimeTask} (steps : Nat)
    (reads : (system.begin task).advance setup system.tasks.length task =
      (system.begin task).goes system.tasks.length next) :
    system.workAlone setup (steps + 1) task = system.workAlone setup steps next := by
  rw [workAlone_succ, reads, goes_begin]
  rfl

theorem workAlone_done (steps : Nat) (answer : RuntimeAnswer) :
    system.workAlone setup steps (.done answer) = system.begin (.done answer) := by
  induction steps with
  | zero => rfl
  | succ steps ih => rw [workAlone_read steps rfl, ih]

/-- A write is the last step that does anything. -/
theorem ends_of_write (shelf : RuntimeSystem) {task : RuntimeTask} (steps : Nat)
    (now : shelf.now = system.now) (sameTasks : shelf.tasks = system.tasks)
    (runtimes : shelf.runtimes = match written system.now task with
      | some record => system.runtimes.insert record.runtimeId record
      | none => system.runtimes)
    (writes : (system.begin task).advance setup system.tasks.length task =
      shelf.begin (.done (answerOf task))) :
    Ends system (system.workAlone setup (steps + 1) task) task := by
  have ends : system.workAlone setup (steps + 1) task = shelf.begin (.done (answerOf task)) := by
    rw [workAlone_succ, writes, ← sameTasks]
    exact workAlone_done steps (answerOf task)
  rw [ends]
  refine ⟨now, runtimes, ?_⟩
  simp [begin, sameTasks]

theorem workAlone_last {task : RuntimeTask} (last : isLast task = true) (steps : Nat) :
    Ends system (system.workAlone setup (steps + 1) task) task := by
  cases task with
  | enrollWrites record answer =>
    apply ends_of_write (system.upsert record) steps
    case writes => simp [advance, upsert, begin, goes, answerOf]
    all_goals rfl
  | pollWrites record =>
    apply ends_of_write (system.upsert record) steps
    case writes => simp [advance, upsert, begin, goes, answerOf]
    all_goals rfl
  | listingWrites record =>
    apply ends_of_write (system.upsert { record with lastSeenAt := some system.now }) steps
    case writes => simp [advance, upsert, begin, goes, answerOf]
    all_goals rfl
  | approveWrites record =>
    let pardoned := (system.begin (.approveWrites record)).pardon record.runtimeId
    apply ends_of_write { system.upsert record with
      denied := pardoned.denied, overtaken := pardoned.overtaken } steps
    case writes => simp [pardoned, pardon, advance, upsert, begin, goes, answerOf]
    all_goals rfl
  | denyWrites record =>
    apply ends_of_write { system.upsert record with
      denied := record.runtimeId :: system.denied
      overtaken := (system.begin (.denyWrites record)).enrollmentsOf record.runtimeId ++
        system.overtaken } steps
    case writes => simp [advance, upsert, begin, goes, answerOf]
    all_goals rfl
  | done answer =>
    apply ends_of_write system steps
    case writes => simp [advance, begin, goes, answerOf]
    all_goals rfl
  | enrollReads | tokenReads | redeemReads | redeemWrites | deciding | pollReads | listingReads
  | approveReads | denyReads => cases last

/-! ## An enrollment alone -/

theorem isLast_enrollDecided {enrolling : Enrolling} {redeemed : Option String} {pendingCount : Nat} :
    isLast (enrollDecided setup enrolling redeemed pendingCount) = true := by
  simp only [enrollDecided]
  split
  · rfl
  · split <;> rfl
  · rfl

/-- An enrollment comes to what is decided on it, by a token or without. -/
def EndsDecided (setup : RuntimeSetup) (system after : RuntimeSystem) (enrolling : Enrolling) : Prop :=
  ∃ redeemed, Ends system after
    (enrollDecided setup enrolling redeemed (system.pendingCount enrolling.now))

theorem workAlone_deciding (steps : Nat) (enrolling : Enrolling) (redeemed : Option String) :
    EndsDecided setup system (system.workAlone setup (steps + 2) (.deciding enrolling redeemed))
      enrolling := by
  refine ⟨redeemed, ?_⟩
  rw [workAlone_read (steps + 1) rfl]
  exact workAlone_last isLast_enrollDecided steps

/-- Marking the token as used stores no runtime. -/
theorem workAlone_redeemWrites (steps : Nat) (enrolling : Enrolling) (read : EnrollTokenRecord) :
    EndsDecided setup system (system.workAlone setup (steps + 3) (.redeemWrites enrolling read))
      enrolling := by
  let pardoned := (system.begin (.redeemWrites enrolling read)).pardon enrolling.request.runtimeId
  let shelf : RuntimeSystem := { system with
    tokens := system.tokens.insert read.lookupPrefix
      { read with usedAt := some enrolling.now, usedBy := some enrolling.request.runtimeId }
    spent := (read.lookupPrefix, system.tasks.length) :: system.spent
    denied := pardoned.denied
    overtaken := pardoned.overtaken }
  have goesOn : system.workAlone setup (steps + 3) (.redeemWrites enrolling read) =
      shelf.workAlone setup (steps + 2) (.deciding enrolling (some read.lookupPrefix)) := by
    rw [workAlone_succ]
    simp only [workAlone]
    congr 1
    simp [advance, pardon, begin, goes, shelf, pardoned]
  have decided : EndsDecided setup shelf
      (shelf.workAlone setup (steps + 2) (.deciding enrolling (some read.lookupPrefix))) enrolling :=
    workAlone_deciding steps enrolling (some read.lookupPrefix)
  obtain ⟨redeemed, ends⟩ := decided
  rw [goesOn]
  exact ⟨redeemed, ends.now, ends.runtimes, ends.answer⟩

theorem workAlone_redeemReads (steps : Nat) (enrolling : Enrolling) (key : String) :
    EndsDecided setup system (system.workAlone setup (steps + 4) (.redeemReads enrolling key))
      enrolling := by
  rw [workAlone_read (steps + 3) rfl]
  change EndsDecided setup system
    (system.workAlone setup (steps + 3) (system.redeemRead enrolling key)) enrolling
  simp only [redeemRead]
  split
  · exact workAlone_deciding (steps + 1) enrolling none
  · split
    · exact workAlone_redeemWrites steps enrolling _
    · exact workAlone_deciding (steps + 1) enrolling none

theorem workAlone_tokenReads (steps : Nat) (enrolling : Enrolling) (token key : String) :
    EndsDecided setup system (system.workAlone setup (steps + 5) (.tokenReads enrolling token key))
      enrolling := by
  rw [workAlone_read (steps + 4) rfl]
  change EndsDecided setup system
    (system.workAlone setup (steps + 4) (system.tokenRead setup enrolling token key)) enrolling
  simp only [tokenRead]
  split
  · exact workAlone_deciding (steps + 2) enrolling none
  · split
    · exact workAlone_redeemReads steps enrolling key
    · exact workAlone_deciding (steps + 2) enrolling none

/-- The enrollment as it goes on after its first read. -/
def enrollingOf (system : RuntimeSystem) (request : EnrollRequest) (draws : RuntimeDraws) : Enrolling :=
  ⟨request, draws, system.now, system.runtimes[request.runtimeId]?⟩

theorem Ends.of_attempt {ip : RateLimit.IpAddr} {after : RuntimeSystem} {task : RuntimeTask}
    (ends : Ends (system.attempt ip) after task) : Ends system after task :=
  ⟨ends.now, ends.runtimes, ends.answer⟩

theorem serve_gated {ip : RateLimit.IpAddr} {request : EnrollRequest} {draws : RuntimeDraws}
    {message : String} (refuses : system.gate setup ip request = some message) :
    Ends system (system.serve setup (.enrolls ip request draws)) (.done (.refused message)) := by
  simp only [serve, step, refuses]
  exact Ends.of_attempt (workAlone_last rfl 5)

section Admitted
variable {ip : RateLimit.IpAddr} {request : EnrollRequest} {draws : RuntimeDraws}
  (admits : system.gate setup ip request = none)
include admits

/-- A request that is looked at goes on with its first read. -/
theorem serve_reads : system.serve setup (.enrolls ip request draws) =
    (system.attempt ip).workAlone setup 5 (system.enrollRead request draws) := by
  simp only [serve, step, admits]
  exact workAlone_read 5 rfl

theorem serve_otherKey
    (other : system.runtimes[request.runtimeId]?.any (·.publicKey ≠ request.publicKey) = true) :
    Ends system (system.serve setup (.enrolls ip request draws))
      (.done (.refused "this runtime_id is already registered to a different key")) := by
  rw [serve_reads admits]
  simp only [enrollRead, other, if_true]
  exact Ends.of_attempt (workAlone_last rfl 4)

theorem serve_crashing
    (own : system.runtimes[request.runtimeId]?.any (·.publicKey ≠ request.publicKey) = false)
    (crashes : RuntimeOffice.tokenCrashes request = true) :
    Ends system (system.serve setup (.enrolls ip request draws)) (.done .crashed) := by
  obtain ⟨token, presented, panics⟩ := (Option.any_eq_true _ _).mp crashes
  rw [serve_reads admits]
  simp only [enrollRead, own, presented, of_decide_eq_true panics, Bool.false_eq_true, if_false]
  exact Ends.of_attempt (workAlone_last rfl 4)

theorem serve_deciding
    (own : system.runtimes[request.runtimeId]?.any (·.publicKey ≠ request.publicKey) = false)
    (sound : RuntimeOffice.tokenCrashes request = false) :
    EndsDecided setup system (system.serve setup (.enrolls ip request draws))
      (system.enrollingOf request draws) := by
  have decided : ∀ {after}, EndsDecided setup (system.attempt ip) after (system.enrollingOf request draws) →
      EndsDecided setup system after (system.enrollingOf request draws) := fun ⟨redeemed, ends⟩ =>
    ⟨redeemed, ends.of_attempt⟩
  rw [serve_reads admits]
  refine decided ?_
  simp only [enrollRead, own, Bool.false_eq_true, if_false]
  cases presented : request.token with
  | none => exact workAlone_deciding 3 _ none
  | some token =>
    have goesOn : enrollmentLookup token.toList ≠ .panicked := by
      simpa [RuntimeOffice.tokenCrashes, presented] using sound
    dsimp only
    split
    · exact workAlone_tokenReads 0 _ token _
    · exact (goesOn ‹_›).elim
    · exact workAlone_deciding 3 _ none

end Admitted

/-- What refuses a request before it is looked at is never its runtime's denials. -/
theorem gate_message {ip : RateLimit.IpAddr} {request : EnrollRequest} {message : String}
    (refuses : system.gate setup ip request = some message) : message ≠ tooManyDenials := by
  rintro rfl
  simp only [gate] at refuses
  split at refuses
  · exact absurd (Option.some.inj refuses) (by decide)
  · split at refuses
    · exact absurd (Option.some.inj refuses) (by decide)
    · split at refuses
      · exact absurd (Option.some.inj refuses) (by decide)
      · split at refuses
        · exact absurd (Option.some.inj refuses) (by decide)
        · cases refuses

theorem gate_none_iff {ip : RateLimit.IpAddr} {request : EnrollRequest}
    (signed : setup.verifySignature request = true) : system.gate setup ip request = none ↔
      (RateLimit.counted system.buckets ip system.uptime).length < RateLimit.maxAttempts ∧
        setup.enabled = true ∧ (setup.whitelistOnly = true → setup.whitelisted ip = true) := by
  rw [← RateLimit.recordIn_accepts, gate]
  cases (RateLimit.recordIn system.buckets ip system.uptime).2 with
  | error secs => exact iff_of_false nofun (fun ⟨no, _⟩ => by cases no)
  | ok done =>
    cases setup.enabled <;> cases setup.whitelistOnly <;> cases setup.whitelisted ip <;> simp [signed]

/-! ## What is decided on a known runtime -/

/-- Neither a cooldown nor the limit of denials stands in a known runtime's way. -/
def welcome (setup : RuntimeSetup) (now : DateTime) (record : RuntimeRecord) : Bool :=
  record.mayRetry now && record.denialCount < setup.maxDenials

section Decided
variable {enrolling : Enrolling} {record : RuntimeRecord} {redeemed : Option String} {pendingCount : Nat}
  (known : enrolling.existing = some record)
include known

theorem enrollDecision_unwelcome (unwelcome : welcome setup enrolling.now record = false) :
    enrollDecision setup ⟨enrolling.now, redeemed.isSome, enrolling.existing, pendingCount⟩ =
      .reject tooManyDenials := by
  simp only [enrollDecision, known]
  cases retries : record.mayRetry enrolling.now with
  | false => rfl
  | true =>
    rw [welcome, retries, Bool.true_and, decide_eq_false_iff_not, Nat.not_lt] at unwelcome
    simp [unwelcome]

theorem enrollDecision_welcome (isWelcome : welcome setup enrolling.now record = true) :
    enrollDecision setup ⟨enrolling.now, redeemed.isSome, enrolling.existing, pendingCount⟩ =
      if record.status = .approved then .approve
      else decideNew setup ⟨enrolling.now, redeemed.isSome, enrolling.existing, pendingCount⟩ := by
  simp only [welcome, Bool.and_eq_true, decide_eq_true_eq] at isWelcome
  simp [enrollDecision, known, isWelcome.1, Nat.not_le.mpr isWelcome.2]

omit known in
theorem credentialsFor_error {named : RuntimeRecord} {message : String}
    (failed : credentialsFor setup named = .error message) : message ≠ tooManyDenials := by
  rintro rfl
  cases is : named.pluginId with
  | some pluginId =>
    simp only [credentialsFor, is, pure_bind] at failed
    split at failed
    · cases failed
    · exact absurd (Except.error.inj failed) (by decide)
  | none =>
    simp only [credentialsFor, is] at failed
    cases fresh : pluginIdFor setup named.kind named.runtimeId with
    | error text =>
      rw [fresh] at failed
      cases failed
      simp only [pluginIdFor] at fresh
      split at fresh
      · exact absurd (Except.error.inj fresh) (by decide)
      · split at fresh
        · exact absurd (Except.error.inj fresh) (by decide)
        · cases fresh
    | ok pluginId =>
      rw [fresh] at failed
      change (if setup.installs then _ else _) = _ at failed
      split at failed
      · cases failed
      · exact absurd (Except.error.inj failed) (by decide)

omit known in
theorem decideNew_reject {context : EnrollContext} {reason : String}
    (rejected : decideNew setup context = .reject reason) : reason ≠ tooManyDenials := by
  rintro rfl
  simp only [decideNew] at rejected
  split at rejected
  · split at rejected
    · cases rejected
    · exact absurd (EnrollDecision.reject.inj rejected) (by decide)
  · split at rejected
    · cases rejected
    · split at rejected
      · exact absurd (EnrollDecision.reject.inj rejected) (by decide)
      · cases rejected

/-- It is refused for its denials exactly where it is not welcome. -/
theorem refused_iff :
    answerOf (enrollDecided setup enrolling redeemed pendingCount) = .refused tooManyDenials ↔
      welcome setup enrolling.now record = false := by
  constructor
  · intro refused
    by_contra isWelcome
    have decision : enrollDecision setup
        ⟨enrolling.now, redeemed.isSome, enrolling.existing, pendingCount⟩ = _ :=
      enrollDecision_welcome known (Bool.eq_true_of_not_eq_false isWelcome)
    simp only [enrollDecided] at refused
    split at refused
    · rename_i reason rejected
      rw [decision] at rejected
      split at rejected
      · cases rejected
      · exact decideNew_reject rejected (RuntimeAnswer.refused.inj refused)
    · split at refused
      · rename_i message failed
        exact credentialsFor_error failed (RuntimeAnswer.refused.inj refused)
      · cases refused
    · cases refused
  · intro unwelcome
    simp only [enrollDecided, enrollDecision_unwelcome known unwelcome, answerOf]

/-- An approved runtime is approved again exactly where it is welcome and credentials can be
handed out. -/
theorem approved_iff (isApproved : record.status = .approved) (named : Named setup record) :
    (∃ token, answerOf (enrollDecided setup enrolling redeemed pendingCount) =
        .approved enrolling.request.runtimeId token) ↔
      welcome setup enrolling.now record = true ∧ setup.installs = true := by
  cases isWelcome : welcome setup enrolling.now record with
  | false => simp [enrollDecided, enrollDecision_unwelcome known isWelcome, answerOf]
  | true =>
    have decision : enrollDecision setup
        ⟨enrolling.now, redeemed.isSome, enrolling.existing, pendingCount⟩ = .approve := by
      rw [enrollDecision_welcome known isWelcome, if_pos isApproved]
    obtain ⟨plugin, is⟩ := Option.isSome_iff_exists.mp (named.approved isApproved)
    have existing : Enrolling.record enrolling = record := by
      simp only [Enrolling.record, known, Option.getD_some]
    cases installs : setup.installs with
    | false =>
      have credentials : credentialsFor setup record =
          .error "plugin install is not configured on this server" := by
        simp [credentialsFor, is, installs]
      simp [enrollDecided, decision, existing, credentials, answerOf]
    | true =>
      have credentials : credentialsFor setup record = .ok plugin := by
        simp only [credentialsFor, is, installs, if_true]
        rfl
      simp [enrollDecided, decision, existing, credentials, answerOf]

end Decided

/-! ## Approvals are kept -/

def StoredApproved (system : RuntimeSystem) (id : String) : Prop :=
  ∃ record : RuntimeRecord, system.runtimes[id]? = some record ∧ record.status = .approved

variable {after : RuntimeSystem} {task : RuntimeTask}

theorem Ends.rows (ends : Ends system after task) (id : String) :
    after.runtimes[id]? = match (written system.now task).filter (·.runtimeId = id) with
      | some record => some record
      | none => system.runtimes[id]? := by
  rw [ends.runtimes]
  cases written system.now task with
  | none => rfl
  | some record =>
    simp only [Std.ExtTreeMap.getElem?_insert, Std.compare_eq_iff_eq, Option.filter_some,
      decide_eq_true_eq]
    split <;> rfl

theorem Ends.keeps (ends : Ends system after task) {id : String}
    (approves : ∀ record, written system.now task = some record → record.runtimeId = id →
      record.status = .approved)
    (stored : StoredApproved system id) : StoredApproved after id := by
  obtain ⟨record, found, isApproved⟩ := stored
  simp only [StoredApproved, ends.rows id]
  cases writes : (written system.now task).filter (·.runtimeId = id) with
  | none => exact ⟨record, found, isApproved⟩
  | some new =>
    obtain ⟨is, own⟩ := Option.filter_eq_some_iff.mp writes
    exact ⟨new, rfl, approves new is (of_decide_eq_true own)⟩

theorem Ends.approves (ends : Ends system after task) {id : String} {record : RuntimeRecord}
    (writes : written system.now task = some record) (own : record.runtimeId = id)
    (isApproved : record.status = .approved) : StoredApproved after id := by
  refine ⟨record, ?_, isApproved⟩
  rw [ends.rows id, writes, Option.filter_some, if_pos (decide_eq_true own)]

theorem existing_runtimeId (naming : Naming setup system) (request : EnrollRequest)
    (draws : RuntimeDraws) :
    (Enrolling.record (system.enrollingOf request draws)).runtimeId = request.runtimeId := by
  simp only [Enrolling.record, enrollingOf]
  cases found : system.runtimes[request.runtimeId]? with
  | none => rfl
  | some record => exact naming.keyed request.runtimeId record found

/-- An enrollment stores its own runtime, and leaves an approved one approved. -/
theorem enrollDecided_written {enrolling : Enrolling} {redeemed : Option String} {pendingCount : Nat}
    {now : DateTime} {record : RuntimeRecord}
    (writes : written now (enrollDecided setup enrolling redeemed pendingCount) = some record) :
    record.runtimeId = (Enrolling.record enrolling).runtimeId ∧
      (enrolling.existing.any (·.status = .approved) = true → record.status = .approved) := by
  simp only [enrollDecided] at writes
  split at writes
  · cases writes
  · split at writes
    · cases writes
    · cases writes
      exact ⟨rfl, fun _ => rfl⟩
  · rename_i waits
    cases writes
    refine ⟨rfl, ?_⟩
    intro isApproved
    obtain ⟨existing, known, is⟩ := (Option.any_eq_true _ _).mp isApproved
    cases isWelcome : welcome setup enrolling.now existing with
    | false =>
      rw [enrollDecision_unwelcome known isWelcome] at waits
      cases waits
    | true =>
      rw [enrollDecision_welcome known isWelcome, if_pos (of_decide_eq_true is)] at waits
      cases waits

theorem enrollDecided_approved {enrolling : Enrolling} {redeemed token : Option String}
    {pendingCount : Nat} {id : String} (now : DateTime)
    (approved : answerOf (enrollDecided setup enrolling redeemed pendingCount) = .approved id token) :
    id = enrolling.request.runtimeId ∧ ∃ record,
      written now (enrollDecided setup enrolling redeemed pendingCount) = some record ∧
        record.status = .approved := by
  simp only [enrollDecided] at approved ⊢
  split at approved
  · cases approved
  · split at approved
    · cases approved
    · cases approved
      exact ⟨rfl, _, rfl, rfl⟩
  · cases approved

/-- Requests of runtimes about themselves are not looked at where runtimes are disabled. -/
theorem ifEnabled_ends {task ended : RuntimeTask}
    (ends : Ends system (system.workAlone setup 6 task) ended) :
    Ends system (system.workAlone setup 6 (ifEnabled setup task)) (ifEnabled setup ended) := by
  simp only [ifEnabled]
  split
  · exact ends
  · exact workAlone_last rfl 5

theorem ifEnabled_written {task : RuntimeTask} {now : DateTime} {record : RuntimeRecord}
    (writes : written now (ifEnabled setup task) = some record) : written now task = some record := by
  simp only [ifEnabled] at writes
  split at writes
  · exact writes
  · cases writes

/-- A request that is over with what its read goes on to. -/
theorem workAlone_reads {task next : RuntimeTask}
    (reads : (system.begin task).advance setup system.tasks.length task =
      (system.begin task).goes system.tasks.length next) (last : isLast next = true) :
    Ends system (system.workAlone setup 6 task) next := by
  rw [workAlone_read 5 reads]
  exact workAlone_last last 4

theorem serve_polls (id presented : String) (draws : RuntimeDraws) :
    Ends system (system.serve setup (.polls id presented draws))
      (ifEnabled setup (system.pollRead setup id presented draws)) := by
  refine @ifEnabled_ends _ _ (.pollReads id presented draws) _ (workAlone_reads rfl ?_)
  simp only [pollRead]
  split
  · rfl
  · split
    · rfl
    · split
      · split <;> rfl
      · rfl
      · split <;> rfl

theorem serve_lists (id presented : String) :
    Ends system (system.serve setup (.lists id presented))
      (ifEnabled setup (system.listingRead setup id presented)) := by
  refine @ifEnabled_ends _ _ (.listingReads id presented) _ (workAlone_reads rfl ?_)
  simp only [listingRead]
  split
  · rfl
  · split <;> rfl

theorem serve_approves (id : String) :
    Ends system (system.serve setup (.approves id)) (system.approveRead setup id) := by
  refine @workAlone_reads _ _ (.approveReads id) _ rfl ?_
  simp only [approveRead]
  split
  · rfl
  · split
    · rfl
    · split <;> rfl

theorem serve_denies (id : String) :
    Ends system (system.serve setup (.denies id)) (system.denyRead setup id) := by
  refine @workAlone_reads _ _ (.denyReads id) _ rfl ?_
  simp only [denyRead]
  split <;> rfl

theorem pollRead_written {id presented : String} {draws : RuntimeDraws} {now : DateTime}
    {record : RuntimeRecord}
    (writes : written now (system.pollRead setup id presented draws) = some record) :
    record.status = .approved := by
  simp only [pollRead] at writes
  split at writes
  · cases writes
  · split at writes
    · cases writes
    · split at writes
      · split at writes
        · cases writes
        · cases writes
          assumption
      · cases writes
      · split at writes <;> cases writes

theorem listingRead_written {id presented : String} {now : DateTime} {record : RuntimeRecord}
    (writes : written now (system.listingRead setup id presented) = some record) :
    record.status = .approved := by
  simp only [listingRead] at writes
  split at writes
  · cases writes
  · split at writes
    · rename_i isApproved
      cases writes
      exact of_decide_eq_true (Bool.and_eq_true_iff.mp isApproved).1
    · cases writes

/-- An admin's approval is refused, or is about to store the runtime as approved. -/
theorem approveRead_cases (naming : Naming setup system) (id : String) :
    (∃ message, system.approveRead setup id = .done (.refused message)) ∨
      ∃ record, system.approveRead setup id = .approveWrites record ∧ record.runtimeId = id ∧
        record.status = .approved := by
  simp only [approveRead]
  split
  · exact .inl ⟨_, rfl⟩
  · rename_i record found
    split
    · exact .inl ⟨_, rfl⟩
    · split
      · exact .inl ⟨_, rfl⟩
      · refine .inr ⟨_, rfl, ?_, rfl⟩
        exact naming.keyed id record found

/-- A denial is refused, or is about to be stored. -/
theorem denyRead_cases (naming : Naming setup system) (id : String) :
    (∃ message, system.denyRead setup id = .done (.refused message)) ∨
      ∃ record, system.denyRead setup id = .denyWrites record ∧ record.runtimeId = id := by
  simp only [denyRead]
  split
  · exact .inl ⟨_, rfl⟩
  · rename_i record found
    refine .inr ⟨_, rfl, ?_⟩
    exact naming.keyed id record found

theorem step_work_none {index : Nat} (gone : system.tasks[index]? = none) :
    system.step setup (.work index) = system := by
  simp only [step, gone]

/-- A request that takes up no task is over at once. -/
theorem serve_idle {input : RuntimeInput} (idle : (system.step setup input).tasks = system.tasks) :
    system.serve setup input = match input with
      | .work _ => system
      | input => system.step setup input := by
  have nothing : ∀ steps,
      (List.replicate steps (RuntimeInput.work system.tasks.length)).foldl (step setup)
        (system.step setup input) = system.step setup input := by
    intro steps
    induction steps with
    | zero => rfl
    | succ steps ih =>
      have gone : (system.step setup input).tasks[system.tasks.length]? = none := by
        rw [idle]
        exact List.getElem?_eq_none (Nat.le_refl _)
      rw [List.replicate_succ, List.foldl_cons, step_work_none gone]
      exact ih
  cases input with
  | work index => rfl
  | tick | issues | enrolls | polls | lists | approves | denies => exact nothing requestSteps

theorem serve_naming (naming : Naming setup system) (input : RuntimeInput) :
    Naming setup (system.serve setup input) := by
  have worked : ∀ (inputs : List RuntimeInput) (begun : RuntimeSystem), Naming setup begun →
      Naming setup (inputs.foldl (step setup) begun) := fun inputs _ begun =>
    (Runs.kept (Naming setup) (fun _ input naming => step_naming naming input) begun inputs).last
  cases input with
  | work index => exact naming
  | tick | issues | enrolls | polls | lists | approves | denies =>
    exact worked _ _ (step_naming naming _)

end RuntimeSystem

/-! ## Steps and runs -/

namespace RuntimeOffice
open RuntimeSystem

variable {setup : RuntimeSetup} {office : RuntimeOffice}

/-- A runtime that was approved last is stored as approved. -/
structure Upheld (setup : RuntimeSetup) (office : RuntimeOffice) : Prop where
  naming : Naming setup office.system
  approved : ∀ id, office.decided id = some .approved → StoredApproved office.system id

theorem reply_eq {input : RuntimeInput} {task : RuntimeTask}
    (ends : Ends office.system (office.system.serve setup input) task) :
    office.system.reply setup input = some (.done (answerOf task)) := ends.answer

/-- A request whose answer decides nothing leaves approved runtimes approved. -/
theorem Upheld.undecided (upheld : Upheld setup office) {input : RuntimeInput} {task : RuntimeTask}
    (ends : Ends office.system (office.system.serve setup input) task)
    (decides : verdict input (some (.done (answerOf task))) = none)
    (approves : ∀ record, written office.system.now task = some record →
      StoredApproved office.system record.runtimeId → record.status = .approved) :
    Upheld setup (office.step setup input) := by
  refine ⟨serve_naming upheld.naming input, ?_⟩
  intro id decided
  simp only [step, reply_eq ends, decides] at decided
  have stored := upheld.approved id decided
  refine ends.keeps (fun record writes own => ?_) stored
  subst own
  exact approves record writes stored

theorem Upheld.decides (upheld : Upheld setup office) {input : RuntimeInput} {task : RuntimeTask}
    {decidedId : String} {decision : RuntimeVerdict}
    (ends : Ends office.system (office.system.serve setup input) task)
    (decides : verdict input (some (.done (answerOf task))) = some (decidedId, decision))
    (own : ∀ record, written office.system.now task = some record → record.runtimeId = decidedId)
    (approves : decision = .approved → ∃ record, written office.system.now task = some record ∧
      record.status = .approved) :
    Upheld setup (office.step setup input) := by
  refine ⟨serve_naming upheld.naming input, ?_⟩
  intro id decided
  simp only [step, reply_eq ends, decides] at decided
  by_cases here : id = decidedId
  · subst here
    rw [Function.update_self] at decided
    obtain ⟨record, writes, isApproved⟩ := approves (Option.some.inj decided)
    exact ends.approves writes (own record writes) isApproved
  · rw [Function.update_of_ne here] at decided
    refine ends.keeps (fun record writes same => ?_) (upheld.approved id decided)
    exact (here (same.symm.trans (own record writes))).elim

/-- Time passes, or a token is issued. -/
theorem Upheld.unchanged (upheld : Upheld setup office) (input : RuntimeInput)
    (runtimes : (office.step setup input).system.runtimes = office.system.runtimes)
    (decided : (office.step setup input).decided = office.decided) :
    Upheld setup (office.step setup input) := by
  refine ⟨serve_naming upheld.naming input, ?_⟩
  intro id is
  rw [decided] at is
  simp only [StoredApproved, runtimes]
  exact upheld.approved id is

theorem verdict_enrolls_none {ip : RateLimit.IpAddr} {request : EnrollRequest} {draws : RuntimeDraws}
    {answer : RuntimeAnswer} (unapproved : ¬ ∃ id token, answer = .approved id token) :
    verdict (.enrolls ip request draws) (some (.done answer)) = none := by
  cases answer with
  | approved id token => exact (unapproved ⟨id, token, rfl⟩).elim
  | refused | crashed | pending | answered => rfl

theorem Upheld.enrolled (upheld : Upheld setup office) {ip : RateLimit.IpAddr} {request : EnrollRequest}
    (admits : office.system.gate setup ip request = none) (draws : RuntimeDraws) :
    Upheld setup (office.step setup (.enrolls ip request draws)) := by
  have naming := upheld.naming
  cases own : office.system.runtimes[request.runtimeId]?.any (·.publicKey ≠ request.publicKey) with
  | true =>
    refine upheld.undecided (serve_otherKey admits own) rfl ?_
    intro record writes
    cases writes
  | false =>
    cases crashes : tokenCrashes request with
    | true =>
      refine upheld.undecided (serve_crashing admits own crashes) rfl ?_
      intro record writes
      cases writes
    | false =>
      obtain ⟨redeemed, ends⟩ : EndsDecided setup office.system
          (office.system.serve setup (.enrolls ip request draws))
          (office.system.enrollingOf request draws) :=
        serve_deciding admits own crashes
      have runtimeId := existing_runtimeId naming request draws
      by_cases isApproved : ∃ id token, answerOf (enrollDecided setup
          (office.system.enrollingOf request draws) redeemed
          (office.system.pendingCount (office.system.enrollingOf request draws).now)) = .approved id token
      · obtain ⟨id, token, answer⟩ := isApproved
        obtain ⟨rfl, record, writes, isApproved⟩ := enrollDecided_approved office.system.now answer
        refine upheld.decides ends (by rw [answer]; rfl) ?_ (fun _ => ⟨record, writes, isApproved⟩)
        exact fun record writes => (enrollDecided_written writes).1.trans runtimeId
      · refine upheld.undecided ends (verdict_enrolls_none isApproved) ?_
        intro record writes stored
        have new := enrollDecided_written writes
        rw [runtimeId] at new
        obtain ⟨existing, found, is⟩ := stored
        rw [new.1] at found
        exact new.2 ((Option.any_eq_true _ _).mpr ⟨existing, found, decide_eq_true is⟩)

theorem step_upheld (upheld : Upheld setup office) (input : RuntimeInput) :
    Upheld setup (office.step setup input) := by
  have naming := upheld.naming
  cases input with
  | work index => exact ⟨naming, upheld.approved⟩
  | tick nanos =>
    have still : office.system.serve setup (.tick nanos) = _ := serve_idle rfl
    have kept : (office.step setup (.tick nanos)).system.runtimes = office.system.runtimes := by
      simp only [step, still]
      rfl
    exact upheld.unchanged _ kept rfl
  | issues token =>
    have still : office.system.serve setup (.issues token) = _ := serve_idle rfl
    have kept : (office.step setup (.issues token)).system.runtimes = office.system.runtimes := by
      simp only [step, still]
      rfl
    exact upheld.unchanged _ kept rfl
  | enrolls ip request draws =>
    cases gated : office.system.gate setup ip request with
    | some message =>
      refine upheld.undecided (serve_gated gated) rfl ?_
      intro record writes
      cases writes
    | none => exact upheld.enrolled gated draws
  | polls id presented draws =>
    refine upheld.undecided (serve_polls id presented draws) rfl ?_
    exact fun record writes _ => pollRead_written (ifEnabled_written writes)
  | lists id presented =>
    refine upheld.undecided (serve_lists id presented) rfl ?_
    exact fun record writes _ => listingRead_written (ifEnabled_written writes)
  | approves id =>
    have ends : Ends office.system (office.system.serve setup (.approves id)) _ := serve_approves id
    rcases approveRead_cases naming id with ⟨message, refused⟩ | ⟨record, writes, own, isApproved⟩
    · rw [refused] at ends
      exact upheld.undecided ends rfl (fun record writes => by cases writes)
    · rw [writes] at ends
      refine upheld.decides ends rfl ?_ (fun _ => ⟨record, rfl, isApproved⟩)
      rintro _ ⟨⟩
      exact own
  | denies id =>
    have ends : Ends office.system (office.system.serve setup (.denies id)) _ := serve_denies id
    rcases denyRead_cases naming id with ⟨message, refused⟩ | ⟨record, writes, own⟩
    · rw [refused] at ends
      exact upheld.undecided ends rfl (fun record writes => by cases writes)
    · rw [writes] at ends
      refine upheld.decides ends rfl ?_ (fun is => by cases is)
      rintro _ ⟨⟩
      exact own

/-! ## The decision at an enrollment -/

theorem heeds_iff (upheld : Upheld setup office) (input : RuntimeInput) :
    HeedsDecision setup office input ↔ ForgetsDenials setup office input := by
  cases input with
  | enrolls ip request draws =>
    refine forall_congr' fun record => forall_congr' fun ownEnrollment => ?_
    obtain ⟨found, sameKey, signed⟩ := ownEnrollment
    have own : office.system.runtimes[request.runtimeId]?.any (·.publicKey ≠ request.publicKey) =
        false := by
      simp [found, sameKey]
    have looked : isLookedAt setup office ip request ↔
        office.system.gate setup ip request = none ∧ tokenCrashes request = false := by
      rw [gate_none_iff signed, isLookedAt]
      tauto
    rw [looked]
    cases gated : office.system.gate setup ip request with
    | some message =>
      have ends : Ends office.system (office.system.serve setup (.enrolls ip request draws)) _ :=
        serve_gated gated
      rw [reply_eq ends]
      simp [answerOf, gate_message gated]
    | none =>
      cases crashes : tokenCrashes request with
      | true =>
        have ends : Ends office.system (office.system.serve setup (.enrolls ip request draws)) _ :=
          serve_crashing gated own crashes
        rw [reply_eq ends]
        simp [answerOf]
      | false =>
        obtain ⟨redeemed, ends⟩ : EndsDecided setup office.system
            (office.system.serve setup (.enrolls ip request draws))
            (office.system.enrollingOf request draws) :=
          serve_deciding gated own crashes
        have known : (office.system.enrollingOf request draws).existing = some record := found
        rw [reply_eq ends]
        refine and_congr (forall_congr' fun isApproved => ?_) (forall_congr' fun _ => ?_)
        · obtain ⟨stored, also, is⟩ := upheld.approved request.runtimeId isApproved
          rw [found] at also
          cases also
          have named := upheld.naming.stored request.runtimeId record found
          simp only [Option.some.injEq, RuntimeTask.done.injEq]
          refine (approved_iff known is named).trans ?_
          simp [welcome, enrollingOf, and_assoc]
        · simp only [ne_eq, Option.some.injEq, RuntimeTask.done.injEq]
          refine forall_congr' fun retries => ?_
          refine (not_congr (refused_iff known)).trans ?_
          change ¬ welcome setup office.system.now record = false ↔ _
          simp [welcome, retries]
  | tick | issues | polls | lists | approves | denies | work => exact Iff.rfl

/-- In every sequence of requests, each enrollment gets what was decided last on its runtime,
where and only where the denials before it stand in the way of no enrollment that follows an
approval, and of none that follows an elapsed cooldown. -/
theorem decisions_heeded_iff (setup : RuntimeSetup) (now : DateTime) (inputs : List RuntimeInput) :
    Runs.EachStep (step setup) (HeedsDecision setup) (opened now) inputs ↔
      Runs.EachStep (step setup) (ForgetsDenials setup) (opened now) inputs := by
  have upheld : Upheld setup (opened now) := by
    refine ⟨start_naming now, ?_⟩
    intro id decided
    cases decided
  exact Runs.eachStep_iff (Upheld setup) (fun _ input upheld => step_upheld upheld input)
    (fun _ input upheld => heeds_iff upheld input) upheld inputs

def tokenless : EnrollRequest := { porchRequest "porch" with token := none }

/-- A runtime is denied three times, which is the limit, and its cooldown goes by. -/
def afterCooldown : List RuntimeInput :=
  [.enrolls porchAddress tokenless porchDraws, .denies "porch", .denies "porch", .denies "porch", .tick 3660000000000]

def approvedAfterCooldown : List RuntimeInput := afterCooldown ++ [.approves "porch"]

def officeAfter (inputs : List RuntimeInput) : RuntimeOffice := inputs.foldl (step plainSetup) (opened 0)

/-- It is then refused for the denials, and also where an admin approves it first. -/
theorem refused_after_cooldown :
    ¬ Runs.EachStep (step plainSetup) (HeedsDecision plainSetup) (opened 0)
        (afterCooldown ++ [.enrolls porchAddress tokenless porchDraws]) ∧
      ¬ Runs.EachStep (step plainSetup) (HeedsDecision plainSetup) (opened 0)
        (approvedAfterCooldown ++ [.enrolls porchAddress tokenless porchDraws]) := by
  constructor
  · intro steps
    have heeds : HeedsDecision plainSetup (officeAfter afterCooldown) _ := steps.last
    have stored : ((officeAfter afterCooldown).system.runtimes["porch"]?.map fun record =>
        (record.publicKey, record.mayRetry (officeAfter afterCooldown).system.now)) =
          some ("key of porch", true) := by
      decide
    have refused : (officeAfter afterCooldown).decided "porch" = some .denied ∧
        (officeAfter afterCooldown).system.reply plainSetup (.enrolls porchAddress tokenless porchDraws) =
          some (.done (.refused tooManyDenials)) := by
      decide
    obtain ⟨record, found, is⟩ := Option.map_eq_some_iff.mp stored
    rw [Prod.mk.injEq] at is
    exact (heeds record ⟨found, is.1, rfl⟩).2 refused.1 is.2 refused.2
  · intro steps
    have heeds : HeedsDecision plainSetup (officeAfter approvedAfterCooldown) _ := steps.last
    have stored : ((officeAfter approvedAfterCooldown).system.runtimes["porch"]?.map (·.publicKey)) =
        some "key of porch" := by
      decide
    have refused : (officeAfter approvedAfterCooldown).decided "porch" = some .approved ∧
        (officeAfter approvedAfterCooldown).system.reply plainSetup (.enrolls porchAddress tokenless porchDraws) =
          some (.done (.refused tooManyDenials)) := by
      decide
    obtain ⟨record, found, is⟩ := Option.map_eq_some_iff.mp stored
    obtain ⟨token, again⟩ := (heeds record ⟨found, is, rfl⟩).1 refused.1
    rw [refused.2] at again
    cases again

end RuntimeOffice
end HomeCore
