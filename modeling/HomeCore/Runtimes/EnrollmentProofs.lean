import HomeCore.Runtimes.Enrollment
import HomeCore.TaskList

/-! What becomes of enrollment tokens. A token is marked as used before the request is
decided on, and by a write of what was read; each is used for one approval where every such
write finds the token unused and the request is one that the token approves. -/
namespace HomeCore
namespace RuntimeSystem

variable {setup : RuntimeSetup} {system : RuntimeSystem}

/-! ## What a redeemed token decides -/

theorem decideNew_of_valid {context : EnrollContext} (valid : context.tokenValid = true) :
    decideNew setup context = .approve := by
  simp [decideNew, valid]

theorem enrollDecision_of_valid {context : EnrollContext} (valid : context.tokenValid = true)
    (welcome : context.existing.all (fun existing => existing.mayRetry context.now &&
      existing.denialCount < setup.maxDenials && existing.status ≠ .approved) = true) :
    enrollDecision setup context = .approve := by
  cases known : context.existing with
  | none => simp only [enrollDecision, known, decideNew_of_valid valid]
  | some existing =>
    simp only [known, Option.all_some, Bool.and_eq_true, decide_eq_true_eq] at welcome
    obtain ⟨⟨retries, few⟩, unapproved⟩ := welcome
    simp [enrollDecision, known, retries, Nat.not_le.mpr few, unapproved, decideNew_of_valid valid]

/-- A request that the token approves goes on to be approved by it. -/
theorem holdsToken_enrollDecided {enrolling : Enrolling} {token : String} {pendingCount : Nat}
    (approves : tokenApproves setup enrolling = true) :
    holdsToken (enrollDecided setup enrolling (some token) pendingCount) = some token := by
  simp only [tokenApproves, Bool.and_eq_true] at approves
  obtain ⟨welcome, credentials⟩ := approves
  have decided : enrollDecision setup ⟨enrolling.now, true, enrolling.existing, pendingCount⟩ = .approve :=
    enrollDecision_of_valid rfl welcome
  have unapproved : enrolling.existing.any (fun existing => existing.status = .approved) = false := by
    cases known : enrolling.existing with
    | none => rfl
    | some existing =>
      rw [known, Option.all_some, Bool.and_eq_true] at welcome
      simpa using welcome.2
  cases made : credentialsFor setup (Enrolling.record enrolling) with
  | error message =>
    rw [made] at credentials
    cases credentials
  | ok pluginId => simp [enrollDecided, decided, made, unapproved, holdsToken]

theorem holdsToken_enrollDecided_none {enrolling : Enrolling} {pendingCount : Nat} :
    holdsToken (enrollDecided setup enrolling none pendingCount) = none := by
  simp only [enrollDecided]
  split
  · rfl
  · split
    · rfl
    · simp [holdsToken]
  · rfl

/-! ## What reads lead to -/

/-- An enrollment that redeemed a token is one that the token approves. -/
def sure (setup : RuntimeSetup) : RuntimeTask → Bool
  | .deciding enrolling (some _) => tokenApproves setup enrolling
  | _ => true

def writesDenied : RuntimeTask → Bool
  | .denyWrites record => record.status = .denied
  | _ => true

section Reads
variable (setup : RuntimeSetup) (system : RuntimeSystem)

/-- What a read leads to holds no token yet, and writes a denial if it is an admin's. -/
structure Unheld (task : RuntimeTask) : Prop where
  holdsNone : holdsToken task = none
  isSure : sure setup task = true
  writesDenial : writesDenied task = true

/-- What a request that is no enrollment reads leads to. -/
structure Aside (task : RuntimeTask) : Prop extends Unheld setup task where
  enrollsNone : enrollsFor task = none

theorem enrollRead_unheld (request : EnrollRequest) (draws : RuntimeDraws) :
    Unheld setup (system.enrollRead request draws) := by
  simp only [enrollRead]
  split
  · exact ⟨rfl, rfl, rfl⟩
  · split
    · exact ⟨rfl, rfl, rfl⟩
    · split <;> exact ⟨rfl, rfl, rfl⟩

theorem tokenRead_unheld (enrolling : Enrolling) (token key : String) :
    Unheld setup (system.tokenRead setup enrolling token key) := by
  simp only [tokenRead]
  split
  · exact ⟨rfl, rfl, rfl⟩
  · split <;> exact ⟨rfl, rfl, rfl⟩

theorem redeemRead_unheld (enrolling : Enrolling) (key : String) :
    Unheld setup (system.redeemRead enrolling key) := by
  simp only [redeemRead]
  split
  · exact ⟨rfl, rfl, rfl⟩
  · split <;> exact ⟨rfl, rfl, rfl⟩

theorem pollRead_aside (id presented : String) (draws : RuntimeDraws) :
    Aside setup (system.pollRead setup id presented draws) := by
  simp only [pollRead]
  split
  · exact ⟨⟨rfl, rfl, rfl⟩, rfl⟩
  · split
    · exact ⟨⟨rfl, rfl, rfl⟩, rfl⟩
    · split
      · split <;> exact ⟨⟨rfl, rfl, rfl⟩, rfl⟩
      · exact ⟨⟨rfl, rfl, rfl⟩, rfl⟩
      · split <;> exact ⟨⟨rfl, rfl, rfl⟩, rfl⟩

theorem listingRead_aside (id presented : String) :
    Aside setup (system.listingRead setup id presented) := by
  simp only [listingRead]
  split
  · exact ⟨⟨rfl, rfl, rfl⟩, rfl⟩
  · split <;> exact ⟨⟨rfl, rfl, rfl⟩, rfl⟩

theorem approveRead_aside (id : String) : Aside setup (system.approveRead setup id) := by
  simp only [approveRead]
  split
  · exact ⟨⟨rfl, rfl, rfl⟩, rfl⟩
  · split
    · exact ⟨⟨rfl, rfl, rfl⟩, rfl⟩
    · split <;> exact ⟨⟨rfl, rfl, rfl⟩, rfl⟩

theorem denyRead_aside (id : String) : Aside setup (system.denyRead setup id) := by
  simp only [denyRead]
  split <;> exact ⟨⟨rfl, rfl, rfl⟩, rfl⟩

end Reads

theorem sure_enrollDecided {enrolling : Enrolling} {redeemed : Option String} {pendingCount : Nat} :
    sure setup (enrollDecided setup enrolling redeemed pendingCount) = true ∧
      writesDenied (enrollDecided setup enrolling redeemed pendingCount) = true := by
  simp only [enrollDecided]
  split
  · exact ⟨rfl, rfl⟩
  · split <;> exact ⟨rfl, rfl⟩
  · exact ⟨rfl, rfl⟩

/-! ## The invariant -/

structure Spending (setup : RuntimeSetup) (system : RuntimeSystem) : Prop where
  used : ∀ token index, (token, index) ∈ system.spent →
    ∃ record, system.tokens[token]? = some record ∧ record.usedAt.isNone = false
  once : ∀ token i j, (token, i) ∈ system.spent → (token, j) ∈ system.spent → i = j
  held : ∀ token index, (token, index) ∈ system.spent →
    ∃ task, system.tasks[index]? = some task ∧ holdsToken task = some token
  holders : ∀ (index : Nat) task token, system.tasks[index]? = some task →
    holdsToken task = some token → (token, index) ∈ system.spent
  sures : ∀ task ∈ system.tasks, sure setup task = true

theorem Spending.singleUse (spending : Spending setup system) : system.TokensSingleUse := by
  refine ⟨?_, spending.held⟩
  intro i j runtime other token first second
  have same := spending.once token i j (spending.holders i _ token first rfl)
    (spending.holders j _ token second rfl)
  subst same
  rw [first] at second
  cases second
  rfl

/-- A request goes on with the token it has. -/
theorem Spending.moved (spending : Spending setup system) {next : RuntimeSystem} {index : Nat}
    {old task : RuntimeTask} (was : system.tasks[index]? = some old)
    (tasks : next.tasks = system.tasks.set index task) (tokens : next.tokens = system.tokens)
    (spent : next.spent = system.spent) (sameToken : holdsToken task = holdsToken old)
    (isSure : sure setup task = true) : Spending setup next := by
  refine ⟨?_, ?_, ?_, ?_, ?_⟩
  · rw [spent, tokens]
    exact spending.used
  · rw [spent]
    exact spending.once
  · intro token other member
    rw [spent] at member
    obtain ⟨found, there, holds⟩ := spending.held token other member
    rw [tasks]
    by_cases here : index = other
    · subst here
      rw [was] at there
      cases there
      refine ⟨task, ?_, sameToken.trans holds⟩
      rw [List.getElem?_set_self', was]
      rfl
    · exact ⟨found, by rw [List.getElem?_set_ne here, there], holds⟩
  · intro other found token there holds
    rw [tasks] at there
    rw [spent]
    rcases TaskList.getElem?_set_cases there with ⟨rfl, rfl⟩ | ⟨_, before⟩
    · exact spending.holders other old token was (sameToken.symm.trans holds)
    · exact spending.holders other found token before holds
  · intro found member
    rw [tasks] at member
    rcases List.mem_or_eq_of_mem_set member with before | rfl
    · exact spending.sures found before
    · exact isSure

theorem Spending.begun (spending : Spending setup system) {task : RuntimeTask}
    (holdsNone : holdsToken task = none) (isSure : sure setup task = true) :
    Spending setup (system.begin task) := by
  refine ⟨spending.used, spending.once, ?_, ?_, ?_⟩
  · intro token index member
    obtain ⟨found, there, holds⟩ := spending.held token index member
    refine ⟨found, ?_, holds⟩
    change (system.tasks ++ [task])[index]? = some found
    obtain ⟨inRange, _⟩ := List.getElem?_eq_some_iff.mp there
    rw [List.getElem?_append_left inRange, there]
  · intro index found token there holds
    rcases TaskList.getElem?_append_cases there with rfl | before
    · rw [holdsNone] at holds
      cases holds
    · exact spending.holders index found token before holds
  · intro found member
    rcases List.mem_append.mp member with before | last
    · exact spending.sures found before
    · rw [List.mem_singleton.mp last]
      exact isSure

theorem Spending.attempted (spending : Spending setup system) {ip : RateLimit.IpAddr} :
    Spending setup (system.attempt ip) :=
  ⟨spending.used, spending.once, spending.held, spending.holders, spending.sures⟩

/-- A token is issued under a prefix that no token has. -/
theorem Spending.issued (spending : Spending setup system) {token : NewApiKey}
    (fresh : system.tokens[token.lookupPrefix]? = none) : Spending setup (system.issueToken token) := by
  refine ⟨?_, spending.once, spending.held, spending.holders, spending.sures⟩
  intro spent index member
  obtain ⟨record, stored, isUsed⟩ := spending.used spent index member
  refine ⟨record, ?_, isUsed⟩
  simp only [issueToken, Std.ExtTreeMap.getElem?_insert, Std.compare_eq_iff_eq]
  rw [if_neg, stored]
  intro same
  rw [same, stored] at fresh
  cases fresh

/-- A token is marked as used that was unused until then. -/
theorem Spending.redeemed (spending : Spending setup system) {index : Nat} {enrolling : Enrolling}
    {read : EnrollTokenRecord} (was : system.tasks[index]? = some (.redeemWrites enrolling read))
    (unused : system.tokens[read.lookupPrefix]?.all (·.usedAt.isNone) = true)
    (approves : tokenApproves setup enrolling = true) :
    Spending setup (system.advance setup index (.redeemWrites enrolling read)) := by
  have unspent : ∀ other, (read.lookupPrefix, other) ∉ system.spent := by
    intro other member
    obtain ⟨record, stored, isUsed⟩ := spending.used _ other member
    rw [stored, Option.all_some, isUsed] at unused
    cases unused
  refine ⟨?_, ?_, ?_, ?_, ?_⟩
  · intro token other member
    simp only [advance, Std.ExtTreeMap.getElem?_insert, Std.compare_eq_iff_eq]
    rcases List.mem_cons.mp member with isNew | before
    · cases isNew
      exact ⟨_, if_pos rfl, rfl⟩
    · obtain ⟨record, stored, isUsed⟩ := spending.used token other before
      refine ⟨record, ?_, isUsed⟩
      rw [if_neg, stored]
      rintro rfl
      exact unspent other before
  · intro token i j first second
    rcases List.mem_cons.mp first with isNew | before
    · cases isNew
      rcases List.mem_cons.mp second with isNew | before
      · cases isNew
        rfl
      · exact (unspent j before).elim
    · rcases List.mem_cons.mp second with isNew | also
      · cases isNew
        exact (unspent i before).elim
      · exact spending.once token i j before also
  · intro token other member
    change ∃ task, (system.tasks.set index (.deciding enrolling (some read.lookupPrefix)))[other]? =
      some task ∧ holdsToken task = some token
    rcases List.mem_cons.mp member with isNew | before
    · cases isNew
      refine ⟨.deciding enrolling (some read.lookupPrefix), ?_, rfl⟩
      rw [List.getElem?_set_self', was]
      rfl
    · obtain ⟨found, there, holds⟩ := spending.held token other before
      by_cases here : index = other
      · subst here
        rw [was] at there
        cases there
        cases holds
      · exact ⟨found, by rw [List.getElem?_set_ne here, there], holds⟩
  · intro other found token there holds
    rcases TaskList.getElem?_set_cases there with ⟨rfl, rfl⟩ | ⟨_, before⟩
    · cases holds
      exact List.mem_cons_self
    · exact List.mem_cons_of_mem _ (spending.holders other found token before holds)
  · intro found member
    rcases List.mem_or_eq_of_mem_set member with before | rfl
    · exact spending.sures found before
    · exact approves

/-! ## Steps and runs -/

theorem advance_spending (spending : Spending setup system) {index : Nat} {task : RuntimeTask}
    (was : system.tasks[index]? = some task) (rightly : system.redeemsRightly setup (.work index) = true) :
    Spending setup (system.advance setup index task) := by
  cases task with
  | enrollReads request draws =>
    have read := enrollRead_unheld setup system request draws
    exact spending.moved was rfl rfl rfl read.holdsNone read.isSure
  | tokenReads enrolling token key =>
    have read := tokenRead_unheld setup system enrolling token key
    exact spending.moved was rfl rfl rfl read.holdsNone read.isSure
  | redeemReads enrolling key =>
    have read := redeemRead_unheld setup system enrolling key
    exact spending.moved was rfl rfl rfl read.holdsNone read.isSure
  | redeemWrites enrolling read =>
    simp only [redeemsRightly, was, Bool.and_eq_true] at rightly
    exact spending.redeemed was rightly.1 rightly.2
  | deciding enrolling redeemed =>
    refine spending.moved was rfl rfl rfl ?_ sure_enrollDecided.1
    cases redeemed with
    | none => exact holdsToken_enrollDecided_none
    | some token =>
      exact holdsToken_enrollDecided (spending.sures _ (List.mem_of_getElem? was))
  | enrollWrites record answer =>
    refine spending.moved was rfl rfl rfl ?_ rfl
    cases answer <;> rfl
  | pollReads id presented draws =>
    have read := pollRead_aside setup system id presented draws
    exact spending.moved was rfl rfl rfl read.holdsNone read.isSure
  | pollWrites record => exact spending.moved was rfl rfl rfl rfl rfl
  | listingReads id presented =>
    have read := listingRead_aside setup system id presented
    exact spending.moved was rfl rfl rfl read.holdsNone read.isSure
  | listingWrites record => exact spending.moved was rfl rfl rfl rfl rfl
  | approveReads id =>
    have read := approveRead_aside setup system id
    exact spending.moved was rfl rfl rfl read.holdsNone read.isSure
  | approveWrites record => exact spending.moved was rfl rfl rfl rfl rfl
  | denyReads id =>
    have read := denyRead_aside setup system id
    exact spending.moved was rfl rfl rfl read.holdsNone read.isSure
  | denyWrites record => exact spending.moved was rfl rfl rfl rfl rfl
  | done answer => exact spending.moved was rfl rfl rfl rfl rfl

theorem step_spending (spending : Spending setup system) (input : RuntimeInput)
    (fresh : system.freshToken input = true) (rightly : system.redeemsRightly setup input = true) :
    Spending setup (system.step setup input) := by
  cases input with
  | tick nanos =>
    exact ⟨spending.used, spending.once, spending.held, spending.holders, spending.sures⟩
  | issues token => exact spending.issued (Option.isNone_iff_eq_none.mp fresh)
  | enrolls ip request draws =>
    simp only [step]
    split <;> exact spending.attempted.begun rfl rfl
  | polls id presented draws =>
    simp only [step, ifEnabled]
    split <;> exact spending.begun rfl rfl
  | lists id presented =>
    simp only [step, ifEnabled]
    split <;> exact spending.begun rfl rfl
  | approves id => exact spending.begun rfl rfl
  | denies id => exact spending.begun rfl rfl
  | work index =>
    simp only [step]
    cases was : system.tasks[index]? with
    | none => exact spending
    | some task => exact advance_spending spending was rightly

/-- In every interleaving whose tokens are marked as used only while they are unused and for
requests that they approve, each token approves one runtime at most, and is spent by a
request that it approves. -/
theorem tokens_used_once (setup : RuntimeSetup) (now : DateTime) (inputs : List RuntimeInput)
    (fresh : Runs.EachStep (step setup) (fun system input => system.freshToken input = true)
      (start now) inputs)
    (rightly : Runs.EachStep (step setup) (fun system input => system.redeemsRightly setup input = true)
      (start now) inputs) :
    Runs.Always (step setup) TokensSingleUse (start now) inputs := by
  have begun : Spending setup (start now) := by
    refine ⟨?_, ?_, ?_, ?_, ?_⟩
    all_goals simp [start]
  have always : Runs.Always (step setup) (Spending setup) (start now) inputs :=
    Runs.invariant (Spending setup)
      (fun system input spending safe => step_spending spending input safe.1 safe.2) begun
      (fresh.and rightly)
  exact always.mono fun system spending => spending.singleUse

def porchAddress : RateLimit.IpAddr := .v4 3232235783#32

/-- A text is its own hash, and every signature is right. -/
def plainSetup : RuntimeSetup where
  enabled := true
  whitelistOnly := true
  tokenOnly := false
  maxPending := 10
  maxDenials := 3
  pendingTtlMins := 15
  denialCooldownMins := 60
  installs := true
  whitelisted ip := ip = porchAddress
  verifyToken presented hash := presented = hash
  verifySignature _ := true
  lowercase text := text

def porchToken : NewApiKey :=
  ⟨"hc_sk_ABCDEFGHIJKLsecret", "ABCDEFGHIJKL", "hc_sk_ABCDEFGHIJKLsecret"⟩

def porchRequest (runtimeId : String) : EnrollRequest where
  runtimeId := runtimeId
  publicKey := "key of " ++ runtimeId
  signature := "signed"
  kind := "wasm"
  token := some porchToken.fullToken

def porchDraws : RuntimeDraws := ⟨"key", "secret", "1234"⟩

/-- A runtime enrolls with the token, from its first read to its write. -/
def enrollsAlone : List RuntimeInput :=
  [.issues porchToken, .enrolls porchAddress (porchRequest "porch") porchDraws] ++ List.replicate 6 (.work 0)

theorem porch_enrolls_alone :
    Runs.Always (step plainSetup) TokensSingleUse (start 0) enrollsAlone ∧
      (enrollsAlone.foldl (step plainSetup) (start 0)).tasks =
        [.done (.approved "porch" (some "ABCDEFGHIJKL"))] := by
  refine ⟨tokens_used_once plainSetup 0 enrollsAlone ?_ ?_, ?_⟩
  all_goals decide

/-- Two runtimes enroll with one token, and both have read it before one marks it as used. -/
def enrollTogether : List RuntimeInput :=
  [.issues porchToken, .enrolls porchAddress (porchRequest "porch") porchDraws,
      .enrolls porchAddress (porchRequest "attic") porchDraws, .work 0, .work 0, .work 0] ++
    List.replicate 6 (.work 1) ++ List.replicate 3 (.work 0)

theorem two_runtimes_by_one_token :
    ¬ Runs.Always (step plainSetup) TokensSingleUse (start 0) enrollTogether := by
  intro always
  have both : (enrollTogether.foldl (step plainSetup) (start 0)).tasks =
      [.done (.approved "porch" (some "ABCDEFGHIJKL")),
        .done (.approved "attic" (some "ABCDEFGHIJKL"))] := by
    decide
  have same := always.last.oneRuntime 0 1 "porch" "attic" "ABCDEFGHIJKL" (by rw [both]; rfl)
    (by rw [both]; rfl)
  exact absurd same (by decide)

end RuntimeSystem
end HomeCore
