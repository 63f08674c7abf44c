import HomeCore.Runtimes.PluginIdProofs

/-! How long a denial stands. Polls, listings and enrollments write back the record they
read, status included; a denied runtime stays unapproved where those writes find that no
denial came in between. -/
namespace HomeCore
namespace RuntimeSystem

variable {setup : RuntimeSetup} {system next : RuntimeSystem}

/-- The record that an enrollment has read is its own runtime's. -/
def readsOwn : RuntimeTask → Prop
  | .tokenReads enrolling _ _ | .redeemReads enrolling _ | .redeemWrites enrolling _
  | .deciding enrolling _ => (Enrolling.record enrolling).runtimeId = enrolling.request.runtimeId
  | _ => True

/-- The runtime of an enrollment was approved when its record was read, or enrolls by a token. -/
def goesToApprove : RuntimeTask → Prop
  | .tokenReads enrolling _ _ | .redeemReads enrolling _ | .redeemWrites enrolling _ =>
    enrolling.existing.any (·.status = .approved) = true
  | .deciding enrolling redeemed =>
    enrolling.existing.any (·.status = .approved) = true ∨ redeemed.isSome = true
  | .enrollWrites record _ => record.status = .approved
  | _ => False

/-- No denial stands against the runtime that is to be approved. -/
def Unhindered (denied : List String) (task : RuntimeTask) : Prop :=
  goesToApprove task → ∀ id, enrollsFor task = some id → id ∉ denied

/-- Besides what is stored, what an admin's denial is about to store, and what becomes of the
enrollments that no denial has overtaken. -/
structure Standing (system : RuntimeSystem) : Prop where
  stand : system.DeniedNotApproved
  denials : ∀ task ∈ system.tasks, writesDenied task = true
  own : ∀ task ∈ system.tasks, readsOwn task
  unhindered : ∀ (index : Nat) task, system.tasks[index]? = some task → index ∉ system.overtaken →
    Unhindered system.denied task

theorem readsOwn_of_none {task : RuntimeTask} (aside : enrollsFor task = none) : readsOwn task := by
  cases task <;> trivial

theorem rests_of_none {task : RuntimeTask} (aside : enrollsFor task = none) : ¬ goesToApprove task := by
  cases task <;> first | exact id | cases aside

theorem mem_enrollmentsOf {index : Nat} {id : String} :
    index ∈ system.enrollmentsOf id ↔ ∃ task, system.tasks[index]? = some task ∧
      enrollsFor task = some id := by
  simp only [enrollmentsOf, List.mem_filter, List.mem_range, decide_eq_true_eq, Option.bind_eq_some_iff]
  refine and_iff_right_of_imp ?_
  rintro ⟨task, there, _⟩
  exact (List.getElem?_eq_some_iff.mp there).1

/-- A task goes on, and nothing is denied. -/
theorem Standing.settled (standing : Standing system) {index : Nat} {task : RuntimeTask}
    (runtimes : next.runtimes = system.runtimes) (denied : next.denied = system.denied)
    (overtaken : next.overtaken = system.overtaken) (tasks : next.tasks = system.tasks.set index task)
    (writes : writesDenied task = true) (own : readsOwn task)
    (unhindered : index ∉ system.overtaken → Unhindered system.denied task) : Standing next := by
  refine ⟨?_, ?_, ?_, ?_⟩
  · intro id member record stored
    rw [runtimes] at stored
    rw [denied] at member
    exact standing.stand id member record stored
  · intro found member
    rw [tasks] at member
    rcases List.mem_or_eq_of_mem_set member with before | rfl
    · exact standing.denials found before
    · exact writes
  · intro found member
    rw [tasks] at member
    rcases List.mem_or_eq_of_mem_set member with before | rfl
    · exact standing.own found before
    · exact own
  · intro other found there free
    rw [tasks] at there
    rw [overtaken] at free
    rw [denied]
    rcases TaskList.getElem?_set_cases there with ⟨rfl, rfl⟩ | ⟨_, before⟩
    · exact unhindered free
    · exact standing.unhindered other found before free

/-- A runtime that is let in again. -/
theorem Standing.pardoned (standing : Standing system) (id : String) : Standing (system.pardon id) := by
  refine ⟨fun other member => standing.stand other (List.mem_filter.mp member).1, standing.denials,
    standing.own, ?_⟩
  intro index task there free goes runtime its member
  obtain ⟨isDenied, other⟩ := List.mem_filter.mp member
  by_cases overtaken : index ∈ system.overtaken
  · have kept : ¬ index ∉ system.enrollmentsOf id := fun apart =>
      free (List.mem_filter.mpr ⟨overtaken, decide_eq_true apart⟩)
    obtain ⟨found, thereToo, own⟩ := mem_enrollmentsOf.mp (not_not.mp kept)
    obtain rfl : task = found := Option.some.inj (Eq.trans there.symm thereToo)
    rw [its] at own
    exact of_decide_eq_true other (Option.some.inj own)
  · exact standing.unhindered index task there overtaken goes runtime its isDenied

theorem Standing.begun (standing : Standing system) {task : RuntimeTask}
    (writes : writesDenied task = true) (aside : enrollsFor task = none) :
    Standing (system.begin task) := by
  refine ⟨standing.stand, ?_, ?_, ?_⟩
  · intro found member
    rcases List.mem_append.mp member with before | last
    · exact standing.denials found before
    · rw [List.mem_singleton.mp last]
      exact writes
  · intro found member
    rcases List.mem_append.mp member with before | last
    · exact standing.own found before
    · rw [List.mem_singleton.mp last]
      exact readsOwn_of_none aside
  · intro index found there free
    rcases TaskList.getElem?_append_cases there with rfl | before
    · exact fun goes => absurd goes (rests_of_none aside)
    · exact standing.unhindered index found before free

/-- A record is stored, unapproved or of a runtime that no denial stands against. -/
theorem Standing.stored (standing : Standing system) (record : RuntimeRecord) {index : Nat}
    {answer : RuntimeAnswer} (undenied : record.status = .approved → record.runtimeId ∉ system.denied) :
    Standing ((system.upsert record).goes index (.done answer)) := by
  have settled : Standing (system.goes index (.done answer)) :=
    standing.settled rfl rfl rfl rfl rfl trivial fun _ goes => goes.elim
  refine ⟨?_, settled.denials, settled.own, settled.unhindered⟩
  intro id member found stored isApproved
  change (system.runtimes.insert record.runtimeId record)[id]? = some found at stored
  rw [Std.ExtTreeMap.getElem?_insert] at stored
  simp only [Std.compare_eq_iff_eq] at stored
  by_cases same : record.runtimeId = id
  · subst same
    rw [if_pos rfl] at stored
    cases stored
    exact undenied isApproved member
  · rw [if_neg same] at stored
    exact standing.stand id member found stored isApproved

/-- A denial overtakes the enrollments of its runtime. -/
theorem Standing.denies (standing : Standing system) {record : RuntimeRecord} {index : Nat}
    (isDenied : record.status = .denied) :
    Standing (system.advance setup index (.denyWrites record)) := by
  have stored : Standing ((system.upsert record).goes index (.done .answered)) :=
    standing.stored record (by rw [isDenied]; rintro ⟨⟩)
  refine ⟨?_, stored.denials, stored.own, ?_⟩
  · intro id member found there
    rcases List.mem_cons.mp member with rfl | before
    · have here : found = record := by
        have there : (system.runtimes.insert record.runtimeId record)[record.runtimeId]? = some found :=
          there
        rw [Std.ExtTreeMap.getElem?_insert_self] at there
        exact (Option.some.inj there).symm
      rw [here, isDenied]
      rintro ⟨⟩
    · exact stored.stand id before found there
  · intro other found there free goes id its member
    have free : other ∉ system.enrollmentsOf record.runtimeId ∧ other ∉ system.overtaken := by
      rw [← not_or, ← List.mem_append]
      exact free
    rcases List.mem_cons.mp member with rfl | before
    · rcases TaskList.getElem?_set_cases there with ⟨rfl, rfl⟩ | ⟨_, earlier⟩
      · cases its
      · exact free.1 (mem_enrollmentsOf.mpr ⟨found, earlier, its⟩)
    · exact stored.unhindered other found there free.2 goes id its before

/-- No denial stands against a runtime that is stored as approved. -/
theorem Standing.undenied (standing : Standing system) {id : String}
    (still : system.runtimes[id]?.any (·.status = .approved) = true) : id ∉ system.denied := by
  intro member
  obtain ⟨record, stored, isApproved⟩ := (Option.any_eq_true _ _).mp still
  exact standing.stand id member record stored (of_decide_eq_true isApproved)

/-! ## What an enrollment goes on to -/

/-- An enrollment that has read its record, and no token yet. -/
theorem enrollRead_standing (naming : Naming setup system) (standing : Standing system)
    (request : EnrollRequest) (draws : RuntimeDraws) :
    readsOwn (system.enrollRead request draws) ∧
      Unhindered system.denied (system.enrollRead request draws) := by
  have own : (system.runtimes[request.runtimeId]?.getD (newRecord request system.now)).runtimeId =
      request.runtimeId := by
    cases found : system.runtimes[request.runtimeId]? with
    | none => rfl
    | some record => exact naming.keyed request.runtimeId record found
  have free : system.runtimes[request.runtimeId]?.any (·.status = .approved) = true →
      request.runtimeId ∉ system.denied := standing.undenied
  simp only [enrollRead]
  split
  · exact ⟨trivial, fun goes => goes.elim⟩
  · split
    · refine ⟨own, fun goes id its => ?_⟩
      cases its
      exact free (goes.resolve_right Bool.false_ne_true)
    · split
      · refine ⟨own, fun goes id its => ?_⟩
        cases its
        exact free goes
      · exact ⟨trivial, fun goes => goes.elim⟩
      · refine ⟨own, fun goes id its => ?_⟩
        cases its
        exact free (goes.resolve_right Bool.false_ne_true)

theorem enrollDecision_unapproved {enrolling : Enrolling} {pendingCount : Nat}
    (unapproved : enrolling.existing.any (·.status = .approved) = false) :
    enrollDecision setup ⟨enrolling.now, false, enrolling.existing, pendingCount⟩ ≠ .approve := by
  have new : decideNew setup ⟨enrolling.now, false, enrolling.existing, pendingCount⟩ ≠ .approve := by
    simp only [decideNew, Bool.false_eq_true, if_false]
    split
    · rintro ⟨⟩
    · split <;> rintro ⟨⟩
  simp only [enrollDecision]
  cases known : enrolling.existing with
  | none =>
    rw [known] at new
    exact new
  | some existing =>
    rw [known, Option.any_some, decide_eq_false_iff_not] at unapproved
    rw [known] at new
    simp only [unapproved, if_false]
    split
    · rintro ⟨⟩
    · split
      · rintro ⟨⟩
      · exact new

section Reads
variable {denied : List String} {enrolling : Enrolling}

/-- It still works on the record of its own request, as free of a denial as it was. -/
structure GoesOn (denied : List String) (task next : RuntimeTask) : Prop where
  own : readsOwn next
  free : Unhindered denied task → Unhindered denied next

theorem tokenRead_standing {token key : String} (own : readsOwn (.tokenReads enrolling token key)) :
    GoesOn denied (.tokenReads enrolling token key) (system.tokenRead setup enrolling token key) := by
  simp only [tokenRead]
  split
  · exact ⟨own, fun free goes id its => free (goes.resolve_right Bool.false_ne_true) id its⟩
  · split
    · exact ⟨own, fun free => free⟩
    · exact ⟨own, fun free goes id its => free (goes.resolve_right Bool.false_ne_true) id its⟩

theorem redeemRead_standing {key : String} (own : readsOwn (.redeemReads enrolling key)) :
    GoesOn denied (.redeemReads enrolling key) (system.redeemRead enrolling key) := by
  simp only [redeemRead]
  split
  · exact ⟨own, fun free goes id its => free (goes.resolve_right Bool.false_ne_true) id its⟩
  · split
    · exact ⟨own, fun free => free⟩
    · exact ⟨own, fun free goes id its => free (goes.resolve_right Bool.false_ne_true) id its⟩

/-- Without a token, only a runtime that was approved when its record was read is approved. -/
theorem enrollDecided_standing {redeemed : Option String} {pendingCount : Nat}
    (own : readsOwn (.deciding enrolling redeemed)) :
    GoesOn denied (.deciding enrolling redeemed) (enrollDecided setup enrolling redeemed pendingCount) := by
  simp only [enrollDecided]
  split
  · exact ⟨trivial, fun _ goes => goes.elim⟩
  · rename_i approves
    split
    · exact ⟨trivial, fun _ goes => goes.elim⟩
    · refine ⟨trivial, fun free _ id its => free ?_ id (own.symm.trans (Option.some.inj its) ▸ rfl)⟩
      cases redeemed with
      | some token => exact .inr rfl
      | none =>
        left
        by_contra unapproved
        rw [Bool.not_eq_true] at unapproved
        exact enrollDecision_unapproved unapproved approves
  · exact ⟨trivial, fun _ goes => by cases goes⟩

end Reads

theorem advance_standing (naming : Naming setup system) (standing : Standing system) {index : Nat}
    {task : RuntimeTask} (was : system.tasks[index]? = some task)
    (stands : system.denialStands (.work index) = true) :
    Standing (system.advance setup index task) := by
  have own := standing.own task (List.mem_of_getElem? was)
  have free := standing.unhindered index task was
  have aside : ∀ {next}, Aside setup next → Standing (system.goes index next) := fun is =>
    standing.settled rfl rfl rfl rfl is.writesDenial (readsOwn_of_none is.enrollsNone)
      fun _ goes => absurd goes (rests_of_none is.enrollsNone)
  cases task with
  | enrollReads request draws =>
    obtain ⟨own, free⟩ := enrollRead_standing naming standing request draws
    exact standing.settled rfl rfl rfl rfl (enrollRead_unheld setup system request draws).writesDenial own
      fun _ => free
  | tokenReads enrolling token key =>
    obtain ⟨own, goesOn⟩ : GoesOn system.denied _ _ := tokenRead_standing own
    exact standing.settled rfl rfl rfl rfl
      (tokenRead_unheld setup system enrolling token key).writesDenial own fun apart => goesOn (free apart)
  | redeemReads enrolling key =>
    obtain ⟨own, goesOn⟩ : GoesOn system.denied _ _ := redeemRead_standing own
    exact standing.settled rfl rfl rfl rfl (redeemRead_unheld setup system enrolling key).writesDenial own
      fun apart => goesOn (free apart)
  | redeemWrites enrolling read =>
    refine (standing.pardoned enrolling.request.runtimeId).settled rfl rfl rfl rfl rfl own ?_
    intro _ _ id its member
    exact of_decide_eq_true (List.mem_filter.mp member).2 (Option.some.inj its).symm
  | deciding enrolling redeemed =>
    obtain ⟨own, goesOn⟩ : GoesOn system.denied _ _ := enrollDecided_standing own
    exact standing.settled rfl rfl rfl rfl sure_enrollDecided.2 own fun apart => goesOn (free apart)
  | enrollWrites record answer =>
    simp only [denialStands, was, Bool.or_eq_true, decide_eq_true_eq, Bool.not_eq_true',
      List.contains_eq_mem, decide_eq_false_iff_not] at stands
    refine standing.stored record fun isApproved => ?_
    exact free (stands.resolve_left fun isNot => isNot isApproved) isApproved record.runtimeId rfl
  | pollReads id presented draws => exact aside (pollRead_aside setup system id presented draws)
  | pollWrites record =>
    simp only [denialStands, was] at stands
    exact standing.stored record fun _ => standing.undenied stands
  | listingReads id presented => exact aside (listingRead_aside setup system id presented)
  | listingWrites record =>
    simp only [denialStands, was] at stands
    exact standing.stored { record with lastSeenAt := some system.now } fun _ => standing.undenied stands
  | approveReads id => exact aside (approveRead_aside setup system id)
  | approveWrites record =>
    refine (standing.pardoned record.runtimeId).stored record fun _ member => ?_
    exact of_decide_eq_true (List.mem_filter.mp member).2 rfl
  | denyReads id => exact aside (denyRead_aside setup system id)
  | denyWrites record =>
    have isDenied := standing.denials _ (List.mem_of_getElem? was)
    exact standing.denies (of_decide_eq_true isDenied)
  | done answer => exact standing.settled rfl rfl rfl rfl rfl trivial fun _ goes => goes.elim

theorem step_standing (naming : Naming setup system) (standing : Standing system) (input : RuntimeInput)
    (stands : system.denialStands input = true) : Standing (system.step setup input) := by
  cases input with
  | tick nanos => exact ⟨standing.stand, standing.denials, standing.own, standing.unhindered⟩
  | issues token => exact ⟨standing.stand, standing.denials, standing.own, standing.unhindered⟩
  | enrolls ip request draws =>
    have attempted : Standing (system.attempt ip) :=
      ⟨standing.stand, standing.denials, standing.own, standing.unhindered⟩
    simp only [step]
    split <;> exact attempted.begun rfl rfl
  | polls id presented draws =>
    simp only [step, ifEnabled]
    split <;> exact standing.begun rfl rfl
  | lists id presented =>
    simp only [step, ifEnabled]
    split <;> exact standing.begun rfl rfl
  | approves id => exact standing.begun rfl rfl
  | denies id => exact standing.begun rfl rfl
  | work index =>
    simp only [step]
    cases was : system.tasks[index]? with
    | none => exact standing
    | some task => exact advance_standing naming standing was stands

/-- In every interleaving in which no record is written back as approved over a denial, a
denied runtime is not approved until an admin approves it or it redeems a token. -/
theorem denied_not_approved (setup : RuntimeSetup) (now : DateTime) (inputs : List RuntimeInput)
    (stands : Runs.EachStep (step setup) (fun system input => system.denialStands input = true)
      (start now) inputs) :
    Runs.Always (step setup) DeniedNotApproved (start now) inputs := by
  have begun : Standing (start now) := by
    refine ⟨?_, ?_, ?_, ?_⟩
    all_goals simp [start, DeniedNotApproved]
  have always : Runs.Always (step setup) (fun system => Naming setup system ∧ Standing system) (start now)
      inputs := by
    refine Runs.invariant (fun system => Naming setup system ∧ Standing system)
      (fun system input kept safe => ?_) ⟨start_naming now, begun⟩ stands
    exact ⟨step_naming kept.1 input, step_standing kept.1 kept.2 input safe⟩
  exact always.mono fun system kept => kept.2.stand

/-- A runtime waits, an admin approves it, and it polls; then another admin denies it. -/
def deniesAfterPoll : List RuntimeInput :=
  [.enrolls porchAddress { porchRequest "porch" with token := none } porchDraws, .work 0, .work 0, .work 0,
    .approves "porch", .work 1, .work 1, .polls "porch" "secret" porchDraws, .work 2, .work 2,
    .denies "porch", .work 3, .work 3]

theorem porch_stays_denied :
    Runs.Always (step plainSetup) DeniedNotApproved (start 0) deniesAfterPoll ∧
      (deniesAfterPoll.foldl (step plainSetup) (start 0)).denied = ["porch"] := by
  refine ⟨denied_not_approved plainSetup 0 deniesAfterPoll ?_, ?_⟩
  all_goals decide

/-- The poll has read the record before the denial is stored, and stores its own after it. -/
def pollOverDenial : List RuntimeInput :=
  [.enrolls porchAddress { porchRequest "porch" with token := none } porchDraws, .work 0, .work 0, .work 0,
    .approves "porch", .work 1, .work 1, .polls "porch" "secret" porchDraws, .work 2,
    .denies "porch", .work 3, .work 3, .work 2]

def afterPollOverDenial : RuntimeSystem := pollOverDenial.foldl (step plainSetup) (start 0)

theorem poll_undoes_denial :
    ¬ Runs.Always (step plainSetup) DeniedNotApproved (start 0) pollOverDenial := by
  intro always
  have isDenied : "porch" ∈ afterPollOverDenial.denied := by decide
  have stored : afterPollOverDenial.runtimes["porch"]?.map (·.status) = some .approved := by
    decide
  obtain ⟨record, found, isApproved⟩ := Option.map_eq_some_iff.mp stored
  exact always.last "porch" isDenied record found isApproved

end RuntimeSystem
end HomeCore
