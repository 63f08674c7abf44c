import HomeCore.Accounts.AccountRequests
import HomeCore.Types.UuidText

/-! Accounts stay in order where every write finds what its request checked and read still
so. Nothing in the store makes it so: two admins may each be found to have the other. -/
namespace HomeCore

namespace AccountStore

variable {store : AccountStore} {account : Account} {id : Uuid}

theorem getUserById_updateUser (store : AccountStore) (account : Account) (id : Uuid) :
    (store.updateUser account).getUserById id =
      if account.id = id then some account else store.getUserById id := by
  simp only [getUserById, updateUser, Std.ExtTreeMap.getElem?_insert, Std.compare_eq_iff_eq,
    Uuid.text_inj]

theorem getUserById_deleteUser (store : AccountStore) (gone id : Uuid) (username : String) :
    (store.deleteUser gone username).getUserById id =
      if gone = id then none else store.getUserById id := by
  simp only [getUserById, deleteUser, Std.ExtTreeMap.getElem?_erase, Std.compare_eq_iff_eq,
    Uuid.text_inj]

theorem getUserById_id (found : store.getUserById id = some account) : account.id = id :=
  Uuid.text_injective (store.keyed id.text account found)

theorem mem_listUsers : account ∈ store.listUsers ↔ store.getUserById account.id = some account := by
  simp only [listUsers, List.mem_map, Prod.exists, Std.ExtTreeMap.mem_toList_iff_getElem?_eq_some,
    exists_eq_right, getUserById]
  constructor
  · rintro ⟨key, found⟩
    rw [store.keyed key account found]
    exact found
  · intro found
    exact ⟨_, found⟩

/-- Who is listed after a write: the account written, and the others as they were. -/
theorem mem_updateUser {other : Account} :
    other ∈ (store.updateUser account).listUsers ↔
      other = account ∨ other ∈ store.listUsers ∧ other.id ≠ account.id := by
  rw [mem_listUsers, mem_listUsers, getUserById_updateUser]
  by_cases same : account.id = other.id
  · rw [if_pos same]
    constructor
    · intro found
      exact .inl (Option.some.inj found).symm
    · rintro (rfl | ⟨_, apart⟩)
      · rfl
      · exact (apart same.symm).elim
  · rw [if_neg same]
    constructor
    · intro found
      exact .inr ⟨found, Ne.symm same⟩
    · rintro (rfl | ⟨found, _⟩)
      · exact (same rfl).elim
      · exact found

theorem mem_deleteUser {other : Account} {username : String} :
    other ∈ (store.deleteUser id username).listUsers ↔ other ∈ store.listUsers ∧ other.id ≠ id := by
  rw [mem_listUsers, mem_listUsers, getUserById_deleteUser]
  by_cases same : id = other.id
  · simp [same]
  · simp [same, Ne.symm same]

theorem keepsAnAdmin_spec {role : Option Role} (keeps : store.keepsAnAdmin id role = true) :
    ∃ user ∈ store.listUsers, user.id = id ∧ role = some .admin ∨ user.id ≠ id ∧ user.role = .admin := by
  obtain ⟨user, member, isAdmin⟩ := List.any_eq_true.mp keeps
  rw [decide_eq_true_eq] at isAdmin
  by_cases same : user.id = id
  · rw [if_pos same] at isAdmin
    exact ⟨user, member, .inl ⟨same, isAdmin⟩⟩
  · rw [if_neg same] at isAdmin
    exact ⟨user, member, .inr ⟨same, Option.some.inj isAdmin⟩⟩

theorem whosePin_none {hashing : PasswordHashing} {pin : String}
    (nobody : (whosePin hashing store.listUsers pin (some id)).isNone = true) {other : Account}
    (member : other ∈ store.listUsers) (apart : other.id ≠ id) : other.hasPin hashing pin = false := by
  rw [Option.isNone_iff_eq_none] at nobody
  have unfound := List.find?_eq_none.mp nobody other member
  simpa [apart] using unfound

end AccountStore

namespace AccountEdit

variable {edit other : AccountEdit} {read stored : Account}

theorem apply_id (edit : AccountEdit) (account : Account) : (edit.apply account).id = account.id := by
  cases edit <;> rfl

theorem apply_username (edit : AccountEdit) (account : Account) :
    (edit.apply account).username = account.username := by
  cases edit <;> rfl

theorem heldBy_apply (edit : AccountEdit) (account : Account) : edit.heldBy (edit.apply account) = true := by
  cases edit <;> simp [heldBy, apply]

theorem heldBy_apply_other (apart : other.field ≠ edit.field) (account : Account) :
    other.heldBy (edit.apply account) = other.heldBy account := by
  cases edit <;> cases other <;> first | rfl | exact (apart rfl).elim

theorem apply_pinHash (notPin : edit.field ≠ .pin) (account : Account) :
    (edit.apply account).pinHash = account.pinHash := by
  cases edit with
  | role newRole => rfl
  | password hash => rfl
  | pin hash => exact (notPin rfl).elim

theorem heldBy_unversioned (edit : AccountEdit) (account : Account) :
    edit.heldBy account.unversioned = edit.heldBy account := by
  cases edit <;> rfl

section Current
variable (isCurrent : edit.current read stored = true)
include isCurrent

theorem current_spec : (edit.apply read).unversioned = (edit.apply stored).unversioned :=
  of_decide_eq_true isCurrent

theorem current_username : (edit.apply read).username = stored.username := by
  have same := congrArg (fun account : Account => account.username) (current_spec isCurrent)
  change (edit.apply read).username = (edit.apply stored).username at same
  rwa [apply_username edit stored] at same

theorem current_pinHash : (edit.apply read).pinHash = (edit.apply stored).pinHash := by
  have same := congrArg Account.pinHash (current_spec isCurrent)
  exact same

theorem current_role : (edit.apply read).role = (edit.apply stored).role := by
  have same := congrArg (fun account : Account => account.role) (current_spec isCurrent)
  exact same

theorem current_heldBy (other : AccountEdit) :
    other.heldBy (edit.apply read) = other.heldBy (edit.apply stored) := by
  rw [← heldBy_unversioned other (edit.apply read), current_spec isCurrent, heldBy_unversioned]

end Current

end AccountEdit

namespace AccountSystem

variable {hashing : PasswordHashing} {system : AccountSystem} {store : AccountStore}
  {written : List (Uuid × AccountEdit)}

/-! ## What was written last -/

theorem latest_cons_same (id : Uuid) (edit : AccountEdit) :
    latest ((id, edit) :: written) id edit.field = some edit := by
  simp [latest]

theorem latest_cons_other {id other : Uuid} {edit : AccountEdit} {field : AccountField}
    (apart : other = id → edit.field ≠ field) :
    latest ((id, edit) :: written) other field = latest written other field := by
  rw [latest, List.find?_cons_of_neg, latest]
  intro here
  rw [Bool.and_eq_true, decide_eq_true_eq, decide_eq_true_eq] at here
  exact apart here.1.symm here.2

/-! ## What each write leaves behind -/

/-- The account is written over the one stored under its id. -/
theorem PeopleInOrder.update (people : PeopleInOrder hashing store) {stored account : Account}
    (found : store.getUserById account.id = some stored) (sameName : account.username = stored.username)
    (keeps : store.keepsAnAdmin account.id (some account.role) = true)
    (pinFree : ∀ pin, account.hasPin hashing pin = true → ∀ other ∈ store.listUsers,
      other.id ≠ account.id → other.hasPin hashing pin = false) :
    PeopleInOrder hashing (store.updateUser account) := by
  have isStored : stored ∈ store.listUsers := by
    rw [AccountStore.mem_listUsers, AccountStore.getUserById_id found]
    exact found
  have sameId : stored.id = account.id := AccountStore.getUserById_id found
  refine ⟨?_, ?_, ?_⟩
  · obtain ⟨admin, member, ⟨same, isAdmin⟩ | ⟨apart, isAdmin⟩⟩ := AccountStore.keepsAnAdmin_spec keeps
    · exact ⟨account, AccountStore.mem_updateUser.mpr (.inl rfl), Option.some.inj isAdmin⟩
    · exact ⟨admin, AccountStore.mem_updateUser.mpr (.inr ⟨member, apart⟩), isAdmin⟩
  · -- the account keeps its name, which no other has
    have unique : ∀ other ∈ store.listUsers, other.username = account.username → other.id = account.id := by
      intro other member same
      rw [people.namesApart other member stored isStored (same.trans sameName), sameId]
    intro first isFirst second isSecond same
    rcases AccountStore.mem_updateUser.mp isFirst with rfl | ⟨member, apart⟩
    · rcases AccountStore.mem_updateUser.mp isSecond with rfl | ⟨member, apart⟩
      · rfl
      · exact (apart (unique second member same.symm)).elim
    · rcases AccountStore.mem_updateUser.mp isSecond with rfl | ⟨also, _⟩
      · exact (apart (unique first member same)).elim
      · exact people.namesApart first member second also same
  · intro first isFirst second isSecond pin holds alsoHolds
    rcases AccountStore.mem_updateUser.mp isFirst with rfl | ⟨member, apart⟩
    · rcases AccountStore.mem_updateUser.mp isSecond with rfl | ⟨member, apart⟩
      · rfl
      · rw [pinFree pin holds second member apart] at alsoHolds
        cases alsoHolds
    · rcases AccountStore.mem_updateUser.mp isSecond with rfl | ⟨also, _⟩
      · rw [pinFree pin alsoHolds first member apart] at holds
        cases holds
      · exact people.pinsApart first member second also pin holds alsoHolds

/-- A new account, with a name that no one has and no PIN. -/
theorem PeopleInOrder.create (people : PeopleInOrder hashing store) {account : Account}
    (fresh : store.getUserById account.id = none) (noPin : account.pinHash = none)
    (nameFree : ∀ other ∈ store.listUsers, other.username ≠ account.username) :
    PeopleInOrder hashing (store.createUser account) := by
  have members : ∀ other, other ∈ (store.createUser account).listUsers ↔
      other = account ∨ other ∈ store.listUsers ∧ other.id ≠ account.id :=
    fun other => AccountStore.mem_updateUser
  have pinless : ∀ pin, account.hasPin hashing pin = false := by
    intro pin
    rw [Account.hasPin, noPin, Option.any_none]
  refine ⟨?_, ?_, ?_⟩
  · obtain ⟨admin, member, isAdmin⟩ := people.anAdmin
    refine ⟨admin, (members admin).mpr (.inr ⟨member, ?_⟩), isAdmin⟩
    intro same
    rw [AccountStore.mem_listUsers, same, fresh] at member
    cases member
  · intro first isFirst second isSecond same
    rcases (members first).mp isFirst with rfl | ⟨member, _⟩
    · rcases (members second).mp isSecond with rfl | ⟨member, _⟩
      · rfl
      · exact (nameFree second member same.symm).elim
    · rcases (members second).mp isSecond with rfl | ⟨also, _⟩
      · exact (nameFree first member same).elim
      · exact people.namesApart first member second also same
  · intro first isFirst second isSecond pin holds alsoHolds
    rcases (members first).mp isFirst with rfl | ⟨member, _⟩
    · rw [pinless] at holds
      cases holds
    · rcases (members second).mp isSecond with rfl | ⟨also, _⟩
      · rw [pinless] at alsoHolds
        cases alsoHolds
      · exact people.pinsApart first member second also pin holds alsoHolds

theorem PeopleInOrder.delete (people : PeopleInOrder hashing store) {id : Uuid} {username : String}
    (keeps : store.keepsAnAdmin id none = true) :
    PeopleInOrder hashing (store.deleteUser id username) := by
  refine ⟨?_, ?_, ?_⟩
  · obtain ⟨admin, member, ⟨_, isAdmin⟩ | ⟨apart, isAdmin⟩⟩ := AccountStore.keepsAnAdmin_spec keeps
    · cases isAdmin
    · exact ⟨admin, AccountStore.mem_deleteUser.mpr ⟨member, apart⟩, isAdmin⟩
  · intro first isFirst second isSecond same
    exact people.namesApart first (AccountStore.mem_deleteUser.mp isFirst).1 second
      (AccountStore.mem_deleteUser.mp isSecond).1 same
  · intro first isFirst second isSecond pin holds alsoHolds
    exact people.pinsApart first (AccountStore.mem_deleteUser.mp isFirst).1 second
      (AccountStore.mem_deleteUser.mp isSecond).1 pin holds alsoHolds

theorem NoneLost.update (noneLost : NoneLost store written) {read stored : Account} {edit : AccountEdit}
    (found : store.getUserById read.id = some stored) (isCurrent : edit.current read stored = true) :
    NoneLost (store.updateUser (edit.apply read)) ((read.id, edit) :: written) := by
  intro account member other isLatest
  rcases AccountStore.mem_updateUser.mp member with rfl | ⟨member, apart⟩
  · rw [AccountEdit.apply_id] at isLatest
    by_cases same : other.field = edit.field
    · rw [same, latest_cons_same] at isLatest
      cases isLatest
      exact AccountEdit.heldBy_apply edit read
    · rw [latest_cons_other fun _ => Ne.symm same] at isLatest
      rw [AccountEdit.current_heldBy isCurrent, AccountEdit.heldBy_apply_other same]
      have sameId := AccountStore.getUserById_id found
      refine noneLost stored ?_ other ?_
      · rw [AccountStore.mem_listUsers, sameId]
        exact found
      · rw [sameId]
        exact isLatest
  · rw [AccountEdit.apply_id] at apart
    rw [latest_cons_other fun same => (apart same).elim] at isLatest
    exact noneLost account member other isLatest

theorem NoneLost.create (noneLost : NoneLost store written) (account : Account) :
    NoneLost (store.createUser account)
      ([(account.id, .role account.role), (account.id, .password account.passwordHash),
        (account.id, .pin account.pinHash)] ++ written) := by
  intro other member edit isLatest
  rcases (AccountStore.mem_updateUser : other ∈ (store.createUser account).listUsers ↔ _).mp member with
    rfl | ⟨member, apart⟩
  · cases edit with
    | role role =>
      simp only [latest, List.cons_append, List.find?_cons, AccountEdit.field] at isLatest
      simpa [AccountEdit.heldBy] using isLatest
    | password hash =>
      simp only [latest, List.cons_append, List.find?_cons, AccountEdit.field] at isLatest
      simpa [AccountEdit.heldBy] using isLatest
    | pin hash =>
      simp only [latest, List.cons_append, List.find?_cons, AccountEdit.field] at isLatest
      simpa [AccountEdit.heldBy] using isLatest
  · simp only [List.cons_append, List.nil_append] at isLatest
    rw [latest_cons_other fun same => (apart same).elim, latest_cons_other fun same => (apart same).elim,
      latest_cons_other fun same => (apart same).elim] at isLatest
    exact noneLost other member edit isLatest

theorem NoneLost.delete (noneLost : NoneLost store written) (id : Uuid) (username : String) :
    NoneLost (store.deleteUser id username) written := by
  intro account member edit isLatest
  exact noneLost account (AccountStore.mem_deleteUser.mp member).1 edit isLatest

/-! ## Every step -/

/-- What a request carries from one step to the next. -/
def WellMade (hashing : PasswordHashing) : AccountTask → Prop
  | .checkName account | .createWrites account => account.pinHash = none
  | .readForPin _ pin _ hash | .checkPin _ pin hash | .pinWrites _ pin hash =>
    ∃ salt, hash = hashing.hashPin salt pin
  | .writes _ edit => edit.field ≠ .pin
  | _ => True

theorem admitted_wellMade (claims : Claims) (id : Uuid) (salt : String) (request : AccountRequest) :
    WellMade hashing (admitted hashing claims id salt request) := by
  cases request with
  | createUser username password role =>
    simp only [admitted]
    split
    · trivial
    · split
      · trivial
      · rfl
  | setUserRole id role =>
    simp only [admitted]
    split <;> trivial
  | deleteUser id =>
    simp only [admitted]
    split
    · trivial
    · split <;> trivial
  | changePassword currentPassword newPassword =>
    simp only [admitted]
    split
    · trivial
    · cases claims.actor.effectiveUid <;> trivial
  | setUserPassword id newPassword =>
    simp only [admitted]
    split
    · trivial
    · split <;> trivial
  | setPin pin password =>
    simp only [admitted]
    cases claims.actor with
    | user uid username => exact ⟨salt, rfl⟩
    | apiKey id ownerUid label => trivial
    | localAdmin peerUid => trivial

theorem reads_wellMade {id : Uuid} {next : Account → AccountTask}
    (made : ∀ account, WellMade hashing (next account)) : WellMade hashing (reads store id next) := by
  unfold reads
  cases store.getUserById id with
  | none => trivial
  | some account => exact made account

theorem advance_wellMade {task : AccountTask} (made : WellMade hashing task) :
    WellMade hashing (advance hashing store task).2.2 := by
  cases task with
  | checkName account =>
    simp only [advance]
    cases store.getUserByUsername account.username with
    | none => exact made
    | some other => trivial
  | readForRole id role =>
    refine reads_wellMade fun account => ?_
    split
    · trivial
    · split
      · trivial
      · exact fun isPin => by cases isPin
  | checkAdmins read role =>
    simp only [advance]
    split
    · exact fun isPin => by cases isPin
    · trivial
  | checkRemaining id =>
    simp only [advance]
    split <;> trivial
  | readForDelete id => exact reads_wellMade fun account => trivial
  | readForPassword id shown hash =>
    refine reads_wellMade fun account => ?_
    split
    · exact fun isPin => by cases isPin
    · trivial
  | readForPin id pin password hash =>
    refine reads_wellMade fun account => ?_
    split
    · trivial
    · split
      · trivial
      · exact made
  | checkPin read pin hash =>
    simp only [advance]
    cases whosePin hashing store.listUsers pin (some read.id) with
    | none => exact made
    | some other => trivial
  | createWrites account => trivial
  | deleteWrites id username => trivial
  | writes read edit => trivial
  | pinWrites read pin hash => trivial
  | done answer => trivial

structure Kept (hashing : PasswordHashing) (system : AccountSystem) : Prop where
  inOrder : AccountsInOrder hashing system
  made : ∀ task ∈ system.tasks, WellMade hashing task

theorem current_found {id : Uuid} {read : Account} {edit : AccountEdit}
    (still : (store.getUserById id).any (edit.current read) = true) :
    ∃ stored, store.getUserById id = some stored ∧ edit.current read stored = true :=
  (Option.any_eq_true _ _).mp still

/-- An edit that leaves the PIN leaves it no one else's. -/
theorem PeopleInOrder.pinFree (people : PeopleInOrder hashing store) {read stored : Account}
    {edit : AccountEdit} (found : store.getUserById read.id = some stored)
    (isCurrent : edit.current read stored = true) (notPin : edit.field ≠ .pin) (pin : String)
    (holds : (edit.apply read).hasPin hashing pin = true) {other : Account}
    (member : other ∈ store.listUsers) (apart : other.id ≠ read.id) : other.hasPin hashing pin = false := by
  have sameId := AccountStore.getUserById_id found
  have isStored : stored ∈ store.listUsers := by
    rw [AccountStore.mem_listUsers, sameId]
    exact found
  rw [Account.hasPin, AccountEdit.current_pinHash isCurrent, AccountEdit.apply_pinHash notPin] at holds
  by_contra alsoHolds
  rw [Bool.not_eq_false] at alsoHolds
  have same := people.pinsApart other member stored isStored pin alsoHolds holds
  rw [same] at apart
  exact apart sameId

/-- An edit that takes no admin's role leaves an admin. -/
theorem PeopleInOrder.keepsAnAdmin (people : PeopleInOrder hashing store) {id : Uuid} {stored : Account}
    (found : store.getUserById id = some stored) {role : Role}
    (stays : stored.role = .admin → role = .admin) : store.keepsAnAdmin id (some role) = true := by
  obtain ⟨admin, member, isAdmin⟩ := people.anAdmin
  refine List.any_eq_true.mpr ⟨admin, member, ?_⟩
  rw [decide_eq_true_eq]
  split
  next same =>
    rw [AccountStore.mem_listUsers, same, found] at member
    rw [stays (Option.some.inj member ▸ isAdmin)]
  next => rw [isAdmin]

theorem advance_inOrder (injective : ∀ salt pin other, hashing.verify other (hashing.hashPin salt pin) = true →
      other = pin) (kept : Kept hashing system) {index : Nat} {task : AccountTask}
    (was : system.tasks[index]? = some task) (fresh : system.freshId (.work index) = true)
    (still : system.stillHolds hashing (.work index) = true) :
    PeopleInOrder hashing (advance hashing system.store task).1 ∧
      NoneLost (advance hashing system.store task).1
        ((advance hashing system.store task).2.1 ++ system.written) := by
  have made := kept.made task (List.mem_of_getElem? was)
  have people := kept.inOrder.people
  have noneLost := kept.inOrder.noneLost
  simp only [freshId, was] at fresh
  simp only [stillHolds, was] at still
  cases task with
  | checkName account =>
    simp only [advance]
    cases system.store.getUserByUsername account.username <;> exact ⟨people, noneLost⟩
  | createWrites account =>
    rw [Option.isNone_iff_eq_none] at fresh
    refine ⟨people.create fresh made fun other member => ?_, noneLost.create account⟩
    exact of_decide_eq_true (List.all_eq_true.mp still other member)
  | readForRole id role => exact ⟨people, noneLost⟩
  | checkAdmins read role =>
    simp only [advance]
    split <;> exact ⟨people, noneLost⟩
  | checkRemaining id =>
    simp only [advance]
    split <;> exact ⟨people, noneLost⟩
  | readForDelete id => exact ⟨people, noneLost⟩
  | deleteWrites id username => exact ⟨people.delete still, noneLost.delete id username⟩
  | readForPassword id shown hash => exact ⟨people, noneLost⟩
  | readForPin id pin password hash => exact ⟨people, noneLost⟩
  | checkPin read pin hash =>
    simp only [advance]
    cases whosePin hashing system.store.listUsers pin (some read.id) <;> exact ⟨people, noneLost⟩
  | writes read edit =>
    simp only [Bool.and_eq_true] at still
    obtain ⟨stored, found, isCurrent⟩ := current_found still.1
    have sameId := AccountEdit.apply_id edit read
    refine ⟨people.update (by rw [sameId]; exact found) (AccountEdit.current_username isCurrent)
      (by rw [sameId]; exact still.2) fun pin holds other member apart => ?_, noneLost.update found isCurrent⟩
    rw [sameId] at apart
    exact people.pinFree found isCurrent made pin holds member apart
  | pinWrites read pin hash =>
    simp only [Bool.and_eq_true] at still
    obtain ⟨stored, found, isCurrent⟩ := current_found still.1
    obtain ⟨salt, rfl⟩ := made
    have sameRole : read.role = stored.role := AccountEdit.current_role isCurrent
    refine ⟨people.update found (AccountEdit.current_username isCurrent) ?_ ?_,
      noneLost.update found isCurrent⟩
    · exact people.keepsAnAdmin found fun isAdmin => sameRole.trans isAdmin
    · intro other holds account member apart
      -- only the PIN that was hashed is the account's
      rw [injective salt pin other holds]
      exact AccountStore.whosePin_none still.2 member apart
  | done answer => exact ⟨people, noneLost⟩

theorem step_kept (injective : ∀ salt pin other, hashing.verify other (hashing.hashPin salt pin) = true →
      other = pin) (kept : Kept hashing system) (input : AccountInput)
    (fresh : system.freshId input = true) (still : system.stillHolds hashing input = true) :
    Kept hashing (system.step hashing input) := by
  cases input with
  | begins claims request id salt =>
    refine ⟨⟨kept.inOrder.people, kept.inOrder.noneLost⟩, ?_⟩
    intro task member
    rcases List.mem_append.mp member with earlier | isNew
    · exact kept.made task earlier
    · rw [List.mem_singleton.mp isNew]
      exact admitted_wellMade claims id salt request
  | work index =>
    simp only [step]
    cases was : system.tasks[index]? with
    | none => exact kept
    | some task =>
      obtain ⟨people, noneLost⟩ := advance_inOrder injective kept was fresh still
      refine ⟨⟨people, noneLost⟩, ?_⟩
      intro other member
      rcases List.mem_or_eq_of_mem_set member with earlier | rfl
      · exact kept.made other earlier
      · exact advance_wellMade (kept.made task (List.mem_of_getElem? was))

/-! ## A request that no other write comes between -/

/-- What a request has read is what is stored, and what it has found holds. -/
def Checked (hashing : PasswordHashing) (store : AccountStore) : AccountTask → Prop
  | .createWrites account => store.getUserByUsername account.username = none
  | .checkAdmins read _ | .checkPin read _ _ => store.getUserById read.id = some read
  | .readForDelete id | .deleteWrites id _ => store.keepsAnAdmin id none = true
  | .writes read edit =>
    store.getUserById read.id = some read ∧ store.keepsAnAdmin read.id (some (edit.apply read).role) = true
  | .pinWrites read pin _ =>
    store.getUserById read.id = some read ∧ whosePin hashing store.listUsers pin (some read.id) = none
  | _ => True

/-- Everyone is found by name. -/
def NamesFound (store : AccountStore) : Prop :=
  ∀ account ∈ store.listUsers, store.getUserByUsername account.username ≠ none

theorem admitted_checked (claims : Claims) (id : Uuid) (salt : String) (request : AccountRequest) :
    Checked hashing store (admitted hashing claims id salt request) := by
  cases request with
  | setPin pin password =>
    simp only [admitted]
    split <;> trivial
  | createUser | setUserRole | deleteUser | changePassword | setUserPassword =>
    simp only [admitted]
    repeat' split
    all_goals trivial

theorem reads_checked {id : Uuid} {next : Account → AccountTask}
    (checked : ∀ account, store.getUserById account.id = some account →
      Checked hashing store (next account)) : Checked hashing store (reads store id next) := by
  unfold reads
  cases found : store.getUserById id with
  | none => trivial
  | some account =>
    refine checked account ?_
    rw [AccountStore.getUserById_id found, found]

/-- A step checks what the next one needs. -/
theorem advance_checked (people : PeopleInOrder hashing store) {task : AccountTask}
    (checked : Checked hashing store task) : Checked hashing store (advance hashing store task).2.2 := by
  cases task with
  | checkName account =>
    simp only [advance]
    cases found : store.getUserByUsername account.username with
    | none => exact found
    | some other => trivial
  | readForRole id role =>
    refine reads_checked fun account found => ?_
    split
    · trivial
    · split
      · exact found
      · next isUser => exact ⟨found, people.keepsAnAdmin found fun isAdmin => absurd isAdmin isUser⟩
  | checkAdmins read role =>
    simp only [advance]
    split
    · next keeps => exact ⟨checked, keeps⟩
    · trivial
  | checkRemaining id =>
    simp only [advance]
    split
    · next keeps => exact keeps
    · trivial
  | readForDelete id => exact reads_checked fun _ _ => checked
  | readForPassword id shown hash =>
    refine reads_checked fun account found => ?_
    split
    · exact ⟨found, people.keepsAnAdmin found fun isAdmin => isAdmin⟩
    · trivial
  | readForPin id pin password hash =>
    refine reads_checked fun account found => ?_
    split
    · trivial
    · split
      · trivial
      · exact found
  | checkPin read pin hash =>
    simp only [advance]
    cases nobody : whosePin hashing store.listUsers pin (some read.id) with
    | none => exact ⟨checked, nobody⟩
    | some other => trivial
  | createWrites | deleteWrites | writes | pinWrites | done => trivial

theorem Checked.stillHolds {index : Nat} {task : AccountTask} (was : system.tasks[index]? = some task)
    (found : NamesFound system.store) (checked : Checked hashing system.store task) :
    system.stillHolds hashing (.work index) = true := by
  simp only [AccountSystem.stillHolds, was]
  cases task with
  | createWrites account =>
    refine List.all_eq_true.mpr fun other member => decide_eq_true fun same => ?_
    exact found other member (same ▸ checked)
  | deleteWrites id username => exact checked
  | writes read edit =>
    simp only [checked.1, Option.any_some, checked.2, Bool.and_true]
    exact decide_eq_true rfl
  | pinWrites read pin hash =>
    simp only [checked.1, Option.any_some, checked.2, Option.isNone_none, Bool.and_true]
    exact decide_eq_true rfl
  | _ => rfl

/-- Where a request is after some steps, each of which found these accounts. -/
def undisturbed (hashing : PasswordHashing) (store : AccountStore) (task : AccountTask) (steps : Nat) :
    AccountTask :=
  (fun task => (advance hashing store task).2.2)^[steps] task

theorem undisturbed_checked (people : PeopleInOrder hashing store) {task : AccountTask}
    (checked : Checked hashing store task) (steps : Nat) :
    Checked hashing store (undisturbed hashing store task steps) := by
  induction steps with
  | zero => exact checked
  | succ steps ih =>
    rw [undisturbed, Function.iterate_succ_apply']
    exact advance_checked people ih

/-- A request that no other write comes between meets the condition: the accounts that its write finds
are those that it read and checked. -/
theorem undisturbed_still (people : PeopleInOrder hashing system.store) (found : NamesFound system.store)
    (claims : Claims) (request : AccountRequest) (id : Uuid) (salt : String) (steps index : Nat)
    (reached : system.tasks[index]? =
      some (undisturbed hashing system.store (admitted hashing claims id salt request) steps)) :
    system.stillHolds hashing (.work index) = true := by
  have checked := undisturbed_checked people (admitted_checked claims id salt request) steps
  exact checked.stillHolds reached found

/-- In every interleaving whose writes find what was checked and read still so, the accounts
stay in order. -/
theorem accounts_stay_in_order (hashing : PasswordHashing)
    (injective : ∀ salt pin other, hashing.verify other (hashing.hashPin salt pin) = true → other = pin)
    (store : AccountStore) (people : PeopleInOrder hashing store) (inputs : List AccountInput)
    (fresh : Runs.EachStep (step hashing) (fun system input => system.freshId input = true)
      (start store) inputs)
    (still : Runs.EachStep (step hashing) (fun system input => system.stillHolds hashing input = true)
      (start store) inputs) :
    Runs.Always (step hashing) (AccountsInOrder hashing) (start store) inputs := by
  have begun : Kept hashing (start store) :=
    ⟨⟨people, fun account _ edit isLatest => by cases isLatest⟩,
      fun task member => (List.not_mem_nil member).elim⟩
  have always : Runs.Always (step hashing) (Kept hashing) (start store) inputs :=
    Runs.invariant (Kept hashing)
      (fun system input kept safe => step_kept injective kept input safe.1 safe.2) begun (fresh.and still)
  exact always.mono fun system kept => kept.inOrder

/-- What is kept of a text is the text itself behind a word. -/
def plainHashing : PasswordHashing where
  hashPassword _ text := "kept " ++ text
  hashPin _ text := "kept " ++ text
  verify text hash := hash = "kept " ++ text

theorem plainHashing_injective (salt pin other : String)
    (verified : plainHashing.verify other (plainHashing.hashPin salt pin) = true) : other = pin :=
  ((String.append_right_inj "kept ").mp (of_decide_eq_true verified)).symm

def ada : Account := ⟨⟨⟨1⟩, "ada", "kept adas password", .admin, 0⟩, none⟩

def bob : Account := ⟨⟨⟨2⟩, "bob", "kept bobs password", .admin, 0⟩, none⟩

def twoAdmins : AccountStore := (AccountStore.empty.createUser ada).createUser bob

theorem twoAdmins_inOrder : PeopleInOrder plainHashing twoAdmins := by
  have members : twoAdmins.listUsers = [ada, bob] := by decide
  refine ⟨?_, ?_, ?_⟩
  · exact ⟨ada, by rw [members]; exact List.mem_cons_self, rfl⟩
  · rw [members]
    decide
  · rw [members]
    intro account member other _ pin holds
    rcases List.mem_cons.mp member with rfl | later
    · cases holds
    · rw [List.mem_singleton.mp later] at holds
      cases holds

/-- Bob loses his role and then gets a new password, each request running to its end. -/
def oneAfterAnother : List AccountInput :=
  [.begins (.localAdmin none) (.setUserRole ⟨2⟩ .user) ⟨8⟩ "salt", .work 0, .work 0, .work 0,
    .begins (.localAdmin none) (.setUserPassword ⟨2⟩ "a new password") ⟨9⟩ "salt", .work 1, .work 1]

theorem bobs_changes_both_stored :
    Runs.Always (step plainHashing) (AccountsInOrder plainHashing) (start twoAdmins) oneAfterAnother ∧
      (oneAfterAnother.foldl (step plainHashing) (start twoAdmins)).store.getUserById ⟨2⟩ =
        some ⟨⟨⟨2⟩, "bob", "kept a new password", .user, 2⟩, none⟩ := by
  refine ⟨accounts_stay_in_order plainHashing plainHashing_injective twoAdmins twoAdmins_inOrder
    oneAfterAnother ?_ ?_, ?_⟩
  all_goals decide

/-- Each of the two admins loses the role while the other is found to have it. -/
def bothDemoted : List AccountInput :=
  [.begins (.localAdmin none) (.setUserRole ⟨1⟩ .user) ⟨8⟩ "salt",
    .begins (.localAdmin none) (.setUserRole ⟨2⟩ .user) ⟨9⟩ "salt",
    .work 0, .work 0, .work 1, .work 1, .work 0, .work 1]

theorem no_admin_left :
    ¬ Runs.Always (step plainHashing) (AccountsInOrder plainHashing) (start twoAdmins) bothDemoted := by
  intro always
  obtain ⟨admin, member, isAdmin⟩ := always.last.people.anAdmin
  have noAdmin : (bothDemoted.foldl (step plainHashing) (start twoAdmins)).store.listUsers.all
      (·.role ≠ .admin) = true := by
    decide
  exact of_decide_eq_true (List.all_eq_true.mp noAdmin admin member) isAdmin

end AccountSystem
end HomeCore
