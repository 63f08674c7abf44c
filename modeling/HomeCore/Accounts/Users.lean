import HomeCore.Types.Device
import Std.Data.ExtTreeMap

/-! The people of a house: what each role may do, the table of accounts, and the
claims that a request is judged by. -/
namespace HomeCore

inductive Role where
  | admin
  | user
  | readOnly
  | observer
  | deviceOperator
  | ruleEditor
  | serviceOperator
  | householdMember
  deriving DecidableEq

namespace Role

def readAll : List String :=
  ["devices:read", "automations:read", "scenes:read", "areas:read", "content:read"]

def writeAuthoring : List String :=
  ["automations:write", "scenes:write", "areas:write", "content:write"]

/-- Using the house without changing it. -/
def operate : List String := ["devices:command", "scenes:run"]

def scopes : Role → List String
  | admin => readAll ++ ["devices:write"] ++ operate ++ writeAuthoring ++
      ["users:read", "users:write", "plugins:read", "plugins:write", "audit:read", "api_keys:admin"]
  | user => readAll ++ ["devices:write"] ++ operate ++ writeAuthoring
  | householdMember => readAll ++ operate
  | readOnly => readAll
  | observer => readAll ++ ["plugins:read", "audit:read"]
  | deviceOperator => readAll ++ ["devices:write", "devices:command"] ++ ["plugins:read", "audit:read"]
  | ruleEditor => readAll ++ ["scenes:run"] ++ writeAuthoring ++ ["plugins:read", "audit:read"]
  | serviceOperator => readAll ++ ["devices:write"] ++ operate ++ writeAuthoring ++ ["audit:read"]

end Role

/-- What a display key may do. -/
def displayScopes : List String := Role.readOnly.scopes ++ ["devices:command", "scenes:run"]

/-- Scopes a past release granted that nothing checks any more. -/
def retiredScopes : List String :=
  ["dashboards:read", "dashboards:write", "skins:read", "skins:write"]

def isRetiredScope (scope : String) : Bool := retiredScopes.contains scope

structure User where
  id : Uuid
  username : String
  passwordHash : String
  role : Role
  /-- How often the account's tokens were made void; a 64-bit count, taken not to
  run out. -/
  tokenVersion : Nat
  deriving DecidableEq

structure UserStore where
  users : Std.ExtTreeMap String User
  keyed : ∀ (key : String) (user : User), users[key]? = some user → user.id.text = key

namespace UserStore

def getUserById (store : UserStore) (id : Uuid) : Option User := store.users[id.text]?

def listUsers (store : UserStore) : List User := store.users.toList.map (·.2)

def empty : UserStore where
  users := ∅
  keyed := by
    intro key user found
    simp at found

/-- The effect of `create_user` and of `update_user` on the accounts. -/
def updateUser (store : UserStore) (user : User) : UserStore where
  users := store.users.insert user.id.text user
  keyed := by
    intro key found lookup
    rw [Std.ExtTreeMap.getElem?_insert] at lookup
    split at lookup
    next same =>
      cases lookup
      exact Std.compare_eq_iff_eq.mp same
    next => exact store.keyed key found lookup

def deleteUser (store : UserStore) (id : Uuid) : UserStore where
  users := store.users.erase id.text
  keyed := by
    intro key found lookup
    rw [Std.ExtTreeMap.getElem?_erase] at lookup
    split at lookup
    next => cases lookup
    next => exact store.keyed key found lookup

/-- Whether the house would still have an admin if `id` became `role`, or with none
were removed. -/
def keepsAnAdmin (store : UserStore) (id : Uuid) (role : Option Role) : Bool :=
  store.listUsers.any fun user => (if user.id = id then role else some user.role) = some .admin

end UserStore

/-! ## Claims -/

inductive Actor where
  | user (uid : Uuid) (username : String)
  | apiKey (id ownerUid : Uuid) (label : String)
  | localAdmin (peerUid : Option Nat)
  deriving DecidableEq

namespace Actor

def effectiveUid : Actor → Option Uuid
  | user uid _ => some uid
  | apiKey _ ownerUid _ => some ownerUid
  | localAdmin _ => none

def isUser : Actor → Bool
  | user _ _ => true
  | _ => false

def isApiKey : Actor → Bool
  | apiKey _ _ _ => true
  | _ => false

def isLocalAdmin : Actor → Bool
  | localAdmin _ => true
  | _ => false

end Actor

/-- What a request is judged by. The account's id is the actor's; expiry is in whole
seconds, none where nothing checks it. -/
structure Claims where
  exp : Option Int
  role : Role
  scopes : List String
  actor : Actor
  tv : Nat
  sid : Option Uuid
  deriving DecidableEq

/-- Whole seconds since the epoch. -/
def seconds (time : DateTime) : Int := time / second

/-- How long past its expiry `Validation::new` still takes a token, in seconds. -/
def jwtLeeway : Int := 60

namespace Claims

def isAdmin (claims : Claims) : Bool :=
  if claims.actor.isApiKey then claims.scopes.contains "users:write" else claims.role = .admin

def hasScope (claims : Claims) (scope : String) : Bool :=
  if claims.actor.isApiKey then claims.scopes.contains scope
  else claims.role.scopes.contains scope

/-- The claims that `issue_session` signs. -/
def issueSession (now : DateTime) (expiryHours : Nat) (user : User) (sid : Option Uuid) : Claims where
  exp := some (seconds now + expiryHours * 3600)
  role := user.role
  scopes := user.role.scopes
  actor := .user user.id user.username
  tv := user.tokenVersion
  sid := sid

/-- Whether the signature's expiry lets the token through. -/
def validate (claims : Claims) (now : DateTime) : Bool :=
  claims.exp.all fun exp => seconds now - jwtLeeway ≤ exp

def localAdmin (peerUid : Option Nat) : Claims where
  exp := none
  role := .admin
  scopes := Role.admin.scopes
  actor := .localAdmin peerUid
  tv := 0
  sid := none

end Claims

/-! ## The texts of tokens -/

/-- The characters that make up the first `count` bytes; none where there are fewer
bytes, or the last of them is inside a character. -/
def takeBytes (count : Nat) : List Char → Option (List Char)
  | [] => if count = 0 then some [] else none
  | c :: rest =>
    if count = 0 then some []
    else if c.utf8Size ≤ count then (takeBytes (count - c.utf8Size) rest).map (c :: ·)
    else none

def lookupPrefixLen : Nat := 12

/-- What a token is looked up by: the text that begins its body, which follows the
word for its kind. -/
def lookupPrefix (kind token : String) : Option String :=
  (token.toList.dropPrefix? kind.toList).bind fun body =>
    (takeBytes lookupPrefixLen body).map String.ofList

end HomeCore
