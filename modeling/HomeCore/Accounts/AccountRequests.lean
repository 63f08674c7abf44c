import HomeCore.Accounts.Users
import HomeCore.Runs

/-! Requests on accounts side by side. Each access of the database is a step of its own:
a request reads what it checks, works on passwords and PINs, and writes a whole record. -/
namespace HomeCore

structure Account extends User where
  pinHash : Option String
  deriving DecidableEq

structure AccountStore where
  byId : Std.ExtTreeMap String Account
  byName : Std.ExtTreeMap String String
  keyed : ∀ (key : String) (account : Account), byId[key]? = some account → account.id.text = key

/-- Another package's part: what is kept of a password or a PIN, with the salt drawn for
it, and the check of a text against what is kept. -/
structure PasswordHashing where
  hashPassword : String → String → String
  hashPin : String → String → String
  verify : String → String → Bool

/-- The account, whatever the version of its tokens. -/
def Account.unversioned (account : Account) : Account := { account with tokenVersion := 0 }

def Account.hasPin (hashing : PasswordHashing) (account : Account) (pin : String) : Bool :=
  account.pinHash.any (hashing.verify pin)

/-- The person whose PIN this is, if anyone's. -/
def whosePin (hashing : PasswordHashing) (users : List Account) (pin : String) (except : Option Uuid) :
    Option Account :=
  users.find? fun user => some user.id ≠ except && user.hasPin hashing pin

namespace AccountStore

def empty : AccountStore where
  byId := ∅
  byName := ∅
  keyed := by
    intro key account found
    simp at found

def getUserById (store : AccountStore) (id : Uuid) : Option Account := store.byId[id.text]?

def getUserByUsername (store : AccountStore) (username : String) : Option Account :=
  store.byName[username]?.bind fun key => store.byId[key]?

def listUsers (store : AccountStore) : List Account := store.byId.toList.map (·.2)

/-- The names are left alone: a name never changes. -/
def updateUser (store : AccountStore) (account : Account) : AccountStore where
  byId := store.byId.insert account.id.text account
  byName := store.byName
  keyed := by
    intro key found lookup
    rw [Std.ExtTreeMap.getElem?_insert] at lookup
    split at lookup
    next same =>
      cases lookup
      exact Std.compare_eq_iff_eq.mp same
    next => exact store.keyed key found lookup

def createUser (store : AccountStore) (account : Account) : AccountStore :=
  { store.updateUser account with byName := store.byName.insert account.username account.id.text }

/-- The write of `delete_user`, which goes by the name that was read. -/
def deleteUser (store : AccountStore) (id : Uuid) (username : String) : AccountStore where
  byId := store.byId.erase id.text
  byName := store.byName.erase username
  keyed := by
    intro key found lookup
    rw [Std.ExtTreeMap.getElem?_erase] at lookup
    split at lookup
    next => cases lookup
    next => exact store.keyed key found lookup

def keepsAnAdmin (store : AccountStore) (id : Uuid) (role : Option Role) : Bool :=
  store.listUsers.any fun user => (if user.id = id then role else some user.role) = some .admin

end AccountStore

/-- A PIN is 4 to 8 digits. -/
def validPin (pin : String) : Bool :=
  4 ≤ pin.utf8ByteSize && pin.utf8ByteSize ≤ 8 && pin.toList.all Char.isDigit

/-! ## Requests -/

inductive AccountField where
  | role
  | password
  | pin
  deriving DecidableEq

/-- What a request changes of an account. -/
inductive AccountEdit where
  | role (role : Role)
  | password (hash : String)
  | pin (hash : Option String)
  deriving DecidableEq

namespace AccountEdit

def field : AccountEdit → AccountField
  | role _ => .role
  | password _ => .password
  | pin _ => .pin

/-- A new role or password makes the account's tokens void. -/
def apply (account : Account) : AccountEdit → Account
  | role newRole => { account with role := newRole, tokenVersion := account.tokenVersion + 1 }
  | password hash => { account with passwordHash := hash, tokenVersion := account.tokenVersion + 1 }
  | pin hash => { account with pinHash := hash }

def heldBy (account : Account) : AccountEdit → Bool
  | role newRole => account.role = newRole
  | password hash => account.passwordHash = hash
  | pin hash => account.pinHash = hash

/-- Whether the edit of the record that was read is the edit of the one that is stored,
versions of tokens apart. -/
def current (edit : AccountEdit) (read stored : Account) : Bool :=
  (edit.apply read).unversioned = (edit.apply stored).unversioned

end AccountEdit

inductive AccountRequest where
  | createUser (username password : String) (role : Role)
  | setUserRole (id : Uuid) (role : Role)
  | deleteUser (id : Uuid)
  | changePassword (currentPassword newPassword : String)
  | setUserPassword (id : Uuid) (newPassword : String)
  | setPin (pin password : String)
  deriving DecidableEq

/-- Where a request is, with what it has read. -/
inductive AccountTask where
  | checkName (account : Account)
  | createWrites (account : Account)
  | readForRole (id : Uuid) (role : Role)
  | checkAdmins (read : Account) (role : Role)
  | checkRemaining (id : Uuid)
  | readForDelete (id : Uuid)
  | deleteWrites (id : Uuid) (username : String)
  /-- With a current password where it must be shown. -/
  | readForPassword (id : Uuid) (shown : Option String) (hash : String)
  | readForPin (id : Uuid) (pin password hash : String)
  | checkPin (read : Account) (pin hash : String)
  | writes (read : Account) (edit : AccountEdit)
  | pinWrites (read : Account) (pin hash : String)
  | done (answer : Except String Unit)
  deriving DecidableEq

structure AccountSystem where
  store : AccountStore
  tasks : List AccountTask
  /-- What requests have written to which account, the latest first. -/
  written : List (Uuid × AccountEdit)

inductive AccountInput where
  /-- A request, with the id and the salt that it will draw. -/
  | begins (claims : Claims) (request : AccountRequest) (id : Uuid) (salt : String)
  | work (task : Nat)
  deriving DecidableEq

def minPasswordLength : Nat := 8

def passwordTooShort : String := "password must be at least 8 characters"

namespace AccountSystem

/-- What a request does before it first reads the accounts. -/
def admitted (hashing : PasswordHashing) (claims : Claims) (id : Uuid) (salt : String) :
    AccountRequest → AccountTask
  | .createUser username password role =>
    if !claims.isAdmin then .done (.error "admin role required")
    else if password.utf8ByteSize < minPasswordLength then .done (.error passwordTooShort)
    else .checkName ⟨⟨id, username, hashing.hashPassword salt password, role, 0⟩, none⟩
  | .setUserRole id role =>
    if !claims.isAdmin then .done (.error "admin role required") else .readForRole id role
  | .deleteUser id =>
    if !claims.isAdmin then .done (.error "admin role required")
    else if claims.actor.effectiveUid = some id then .done (.error "cannot delete your own account")
    else .checkRemaining id
  | .changePassword currentPassword newPassword =>
    if newPassword.utf8ByteSize < minPasswordLength then .done (.error passwordTooShort)
    else match claims.actor.effectiveUid with
      | none => .done (.error "invalid user id in token")
      | some id => .readForPassword id (some currentPassword) (hashing.hashPassword salt newPassword)
  | .setUserPassword id newPassword =>
    if !claims.isAdmin then .done (.error "admin role required")
    else if newPassword.utf8ByteSize < minPasswordLength then .done (.error passwordTooShort)
    else .readForPassword id none (hashing.hashPassword salt newPassword)
  | .setPin pin password => match claims.actor with
    | .user id _ => .readForPin id pin password (hashing.hashPin salt pin)
    | _ => .done (.error "only a person has a PIN")

/-- A step that reads the account with this id. -/
def reads (store : AccountStore) (id : Uuid) (next : Account → AccountTask) : AccountTask :=
  match store.getUserById id with
  | none => .done (.error "user not found")
  | some account => next account

/-- The next step of a request: the accounts, what was written, and what is left to do. -/
def advance (hashing : PasswordHashing) (store : AccountStore) :
    AccountTask → AccountStore × List (Uuid × AccountEdit) × AccountTask
  | .checkName account => match store.getUserByUsername account.username with
    | some _ => (store, [], .done (.error "username already exists"))
    | none => (store, [], .createWrites account)
  | .createWrites account =>
    (store.createUser account,
      [(account.id, .role account.role), (account.id, .password account.passwordHash),
        (account.id, .pin account.pinHash)], .done (.ok ()))
  | .readForRole id role => (store, [], reads store id fun account =>
      if account.role = role then .done (.ok ())
      else if account.role = .admin then .checkAdmins account role
      else .writes account (.role role))
  | .checkAdmins read role =>
    if store.keepsAnAdmin read.id (some role) then (store, [], .writes read (.role role))
    else (store, [], .done (.error "the house's only admin must stay an admin"))
  | .checkRemaining id =>
    if store.keepsAnAdmin id none then (store, [], .readForDelete id)
    else (store, [], .done (.error "cannot remove the house's only admin"))
  | .readForDelete id => (store, [], reads store id fun account => .deleteWrites id account.username)
  | .deleteWrites id username => (store.deleteUser id username, [], .done (.ok ()))
  | .readForPassword id shown hash => (store, [], reads store id fun account =>
      if shown.all (hashing.verify · account.passwordHash) then .writes account (.password hash)
      else .done (.error "current password is incorrect"))
  | .readForPin id pin password hash => (store, [], reads store id fun account =>
      if !hashing.verify password account.passwordHash then .done (.error "that password isn't right")
      else if !validPin pin then .done (.error "a PIN is 4 to 8 digits")
      else .checkPin account pin hash)
  | .checkPin read pin hash => match whosePin hashing store.listUsers pin (some read.id) with
    | some _ => (store, [], .done (.error "someone else uses that PIN — choose another"))
    | none => (store, [], .pinWrites read pin hash)
  | .writes read edit => (store.updateUser (edit.apply read), [(read.id, edit)], .done (.ok ()))
  | .pinWrites read _ hash =>
    (store.updateUser ((AccountEdit.pin (some hash)).apply read), [(read.id, .pin (some hash))],
      .done (.ok ()))
  | .done answer => (store, [], .done answer)

def step (hashing : PasswordHashing) (system : AccountSystem) : AccountInput → AccountSystem
  | .begins claims request id salt =>
    { system with tasks := system.tasks ++ [admitted hashing claims id salt request] }
  | .work index => match system.tasks[index]? with
    | none => system
    | some task =>
      let next := advance hashing system.store task
      { store := next.1
        written := next.2.1 ++ system.written
        tasks := system.tasks.set index next.2.2 }

def start (store : AccountStore) : AccountSystem := ⟨store, [], []⟩

/-! ## The property -/

/-- What was last written to a field of an account. -/
def latest (written : List (Uuid × AccountEdit)) (id : Uuid) (field : AccountField) : Option AccountEdit :=
  (written.find? fun entry => entry.1 = id && entry.2.field = field).map (·.2)

/-- Someone is an admin, and no name and no PIN is two people's. -/
structure PeopleInOrder (hashing : PasswordHashing) (store : AccountStore) : Prop where
  anAdmin : ∃ account ∈ store.listUsers, account.role = .admin
  namesApart : ∀ account ∈ store.listUsers, ∀ other ∈ store.listUsers,
    account.username = other.username → account = other
  pinsApart : ∀ account ∈ store.listUsers, ∀ other ∈ store.listUsers, ∀ pin,
    account.hasPin hashing pin = true → other.hasPin hashing pin = true → account = other

/-- Every account holds what was last written to each of its fields. -/
def NoneLost (store : AccountStore) (written : List (Uuid × AccountEdit)) : Prop :=
  ∀ account ∈ store.listUsers, ∀ edit,
    latest written account.id edit.field = some edit → edit.heldBy account = true

structure AccountsInOrder (hashing : PasswordHashing) (system : AccountSystem) : Prop where
  people : PeopleInOrder hashing system.store
  noneLost : NoneLost system.store system.written

/-- What the request has checked and read still holds when it writes. -/
def stillHolds (hashing : PasswordHashing) (system : AccountSystem) : AccountInput → Bool
  | .work index => match system.tasks[index]? with
    | some (.createWrites account) => system.store.listUsers.all (·.username ≠ account.username)
    | some (.deleteWrites id _) => system.store.keepsAnAdmin id none
    | some (.writes read edit) =>
      (system.store.getUserById read.id).any (edit.current read) &&
        system.store.keepsAnAdmin read.id (some (edit.apply read).role)
    | some (.pinWrites read pin hash) =>
      (system.store.getUserById read.id).any ((AccountEdit.pin (some hash)).current read) &&
        (whosePin hashing system.store.listUsers pin (some read.id)).isNone
    | _ => true
  | _ => true

/-- A random id is no stored account's. -/
def freshId (system : AccountSystem) : AccountInput → Bool
  | .work index => match system.tasks[index]? with
    | some (.createWrites account) => (system.store.getUserById account.id).isNone
    | _ => true
  | _ => true

end AccountSystem
end HomeCore
