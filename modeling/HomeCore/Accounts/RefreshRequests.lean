import HomeCore.Accounts.Sessions

/-! Requests on refresh tokens side by side: refreshes, account changes that end every
session of a person, and endings of single sessions. Each access of the database is a
step of its own, and the steps of different requests come in any order. -/
namespace HomeCore

/-- Tokens that are revoked one after another, each by a read and then a write. -/
inductive Revoking where
  | next (left : List Uuid)
  | writes (read : RefreshTokenRecord) (now : DateTime) (left : List Uuid)
  deriving DecidableEq

namespace Revoking

/-- The tokens whose revocation is not done. -/
def pending : Revoking → List Uuid
  | next left => left
  | writes read _ left => read.id :: left

def read : Revoking → Option RefreshTokenRecord
  | next _ => none
  | writes read _ _ => some read

/-- A token that is gone, or revoked by now, is passed over. -/
def step (store : RefreshTokenStore) (now : DateTime) : Revoking → RefreshTokenStore × Revoking
  | next [] => (store, next [])
  | next (id :: left) => match store.getById id with
    | none => (store, next left)
    | some record =>
      if record.revokedAt.isSome then (store, next left) else (store, writes record now left)
  | writes read started left => (store.update (read.revoked started), next left)

end Revoking

/-- Where a refresh is. -/
inductive RefreshPhase where
  | presented
  /-- Found usable; the hash is being checked. -/
  | checking (record : RefreshTokenRecord)
  /-- `mark_used` is to read the record. -/
  | marking (record : RefreshTokenRecord)
  /-- `mark_used` has read the record and is to write it. -/
  | markWrites (record read : RefreshTokenRecord) (now : DateTime)
  | marked (record : RefreshTokenRecord)
  | drawing (record : RefreshTokenRecord) (user : User)
  | storing (record : RefreshTokenRecord) (user : User) (token : NewRefreshToken)
      (child : RefreshTokenRecord)
  /-- The token was used before: `revoke_chain` is to find its chain. -/
  | tracing (record : RefreshTokenRecord)
  | gathering (record : RefreshTokenRecord) (found : List Uuid)
  | retiring (revoking : Revoking)
  | granted (claims : Claims) (token : NewRefreshToken)
  | refused (message : String)
  deriving DecidableEq

inductive AccountChange where
  | changePassword (passwordHash : String)
  | setUserPassword (passwordHash : String)
  | endAllSessions
  | setUserRole (role : Role)
  | deleteUser
  deriving DecidableEq

namespace AccountChange

/-- The record that is written back, none where the account is deleted. -/
def apply (user : User) : AccountChange → Option User
  | changePassword passwordHash | setUserPassword passwordHash =>
    some { user with passwordHash := passwordHash, tokenVersion := user.tokenVersion + 1 }
  | endAllSessions => some { user with tokenVersion := user.tokenVersion + 1 }
  | setUserRole role => some { user with role := role, tokenVersion := user.tokenVersion + 1 }
  | deleteUser => none

/-- A new role that is the old one ends nothing, and the last admin stays one. -/
def allowed (users : UserStore) (user : User) : AccountChange → Bool
  | setUserRole role => user.role ≠ role &&
      (user.role ≠ .admin || users.keepsAnAdmin user.id (some role))
  | deleteUser => users.keepsAnAdmin user.id none
  | _ => true

end AccountChange

/-- Where an account change is, with the account's sessions as it began. -/
inductive AccountPhase where
  | reading (change : AccountChange)
  | writing (change : AccountChange) (user : User)
  /-- The account is written; its tokens are to be listed. -/
  | listing
  | sweeping (revoking : Revoking)
  | returned
  | refused
  deriving DecidableEq

inductive AuthTask where
  | refresh (presented : String) (phase : RefreshPhase)
  | account (userId : Uuid) (sessions : List Uuid) (phase : AccountPhase)
  /-- `end_session` or `logout`, once it knows the token. -/
  | ending (revoking : Revoking)
  deriving DecidableEq

/-- The store, the accounts and the requests in hand. -/
structure AuthSystem where
  now : DateTime
  store : RefreshTokenStore
  users : UserStore
  tasks : List AuthTask

inductive AuthInput where
  | tick (nanos : Nat)
  /-- A sign-in stores its token: what it reads before decides only whether it does. -/
  | signIn (userId : Uuid) (userAgent : String) (id : Uuid) (token : NewRefreshToken)
  | presents (token : String)
  | changes (userId : Uuid) (change : AccountChange)
  | ends (id : Uuid)
  /-- A refresh draws its new token and finds the prefix free. -/
  | draws (task : Nat) (id : Uuid) (drawn : List NewRefreshToken)
  /-- The next step of a request. -/
  | work (task : Nat)
  deriving DecidableEq

namespace AuthSystem

/-- The lookup, and the checks on what it finds. -/
def lookUp (system : AuthSystem) (presented : String) : RefreshPhase :=
  match lookupPrefix refreshTokenPrefix presented with
  | none => .refused "malformed refresh token"
  | some text => match system.store.getByPrefix text with
    | none => .refused "invalid refresh token"
    | some record =>
      if record.usedAt.isSome then .tracing record
      else if record.revokedAt.isSome || record.expiresAt ≤ system.now then
        .refused "refresh token revoked or expired"
      else .checking record

/-- The next step of a refresh: what becomes of the store, and of the request. -/
def advanceRefresh (auth : AuthSetup) (system : AuthSystem) (presented : String) :
    RefreshPhase → RefreshTokenStore × RefreshPhase
  | .presented => (system.store, system.lookUp presented)
  | .checking record =>
    (system.store, if auth.verifyToken presented record.hash then .marking record
      else .refused "invalid refresh token")
  | .marking record => match system.store.getById record.id with
    | none => (system.store, .marked record)
    | some read => (system.store, .markWrites record read system.now)
  | .markWrites record read now => (system.store.update (read.used now), .marked record)
  | .marked record => match system.users.getUserById record.userId with
    | none => (system.store, .refused "user no longer exists")
    | some user => (system.store, .drawing record user)
  | .storing _ user token child =>
    (system.store.create child,
      .granted (Claims.issueSession system.now auth.tokenExpiryHours user (some child.session)) token)
  | .tracing record =>
    (system.store,
      .gathering record (system.store.ancestors system.store.list.length (some record.id)))
  | .gathering record found =>
    (system.store, .retiring
      (.next (RefreshTokenStore.withDescendants (system.store.listByUser record.userId) found)))
  | .retiring revoking =>
    if revoking.pending = [] then
      (system.store, .refused "refresh token reuse detected — chain revoked")
    else ((revoking.step system.store system.now).1, .retiring (revoking.step system.store system.now).2)
  | .drawing record user => (system.store, .drawing record user)
  | .granted claims token => (system.store, .granted claims token)
  | .refused message => (system.store, .refused message)

/-- The next step of an account change: what becomes of the tokens, of the accounts and
of the request. -/
def advanceAccount (system : AuthSystem) (userId : Uuid) :
    AccountPhase → RefreshTokenStore × UserStore × AccountPhase
  | .reading change => match system.users.getUserById userId with
    | none => (system.store, system.users, .refused)
    | some user => (system.store, system.users,
        if change.allowed system.users user then .writing change user else .refused)
  | .writing change user => match change.apply user with
    | some changed => (system.store, system.users.updateUser changed, .listing)
    | none => match system.users.getUserById userId with
      | none => (system.store, system.users, .refused)
      | some _ => (system.store, system.users.deleteUser userId, .listing)
  | .listing =>
    -- `revoke_all_sessions`: those already dead are left out
    let live := (system.store.listByUser userId).filter fun record =>
      record.revokedAt.isNone && system.now < record.expiresAt
    (system.store, system.users, .sweeping (.next (live.map (·.id))))
  | .sweeping revoking =>
    if revoking.pending = [] then (system.store, system.users, .returned)
    else ((revoking.step system.store system.now).1, system.users,
      .sweeping (revoking.step system.store system.now).2)
  | .returned => (system.store, system.users, .returned)
  | .refused => (system.store, system.users, .refused)

def advance (auth : AuthSetup) (system : AuthSystem) :
    AuthTask → RefreshTokenStore × UserStore × AuthTask
  | .refresh presented phase =>
    let next := system.advanceRefresh auth presented phase
    (next.1, system.users, .refresh presented next.2)
  | .account userId sessions phase =>
    let next := system.advanceAccount userId phase
    (next.1, next.2.1, .account userId sessions next.2.2)
  | .ending revoking =>
    let next := revoking.step system.store system.now
    (next.1, system.users, .ending next.2)

def work (auth : AuthSetup) (system : AuthSystem) (index : Nat) : AuthSystem :=
  match system.tasks[index]? with
  | none => system
  | some task =>
    let next := system.advance auth task
    { system with
      store := next.1
      users := next.2.1
      tasks := system.tasks.set index next.2.2 }

def draw (auth : AuthSetup) (system : AuthSystem) (id : Uuid) (drawn : List NewRefreshToken) :
    AuthTask → AuthTask
  | .refresh presented (.drawing record user) => match system.store.generate drawn with
    | none => .refresh presented (.refused "could not rotate refresh token")
    | some token => .refresh presented (.storing record user token
        (token.record id system.now auth.refreshTokenExpiryDays record.userId (some record) ""))
  | task => task

def begin (system : AuthSystem) (task : AuthTask) : AuthSystem :=
  { system with tasks := system.tasks ++ [task] }

def step (auth : AuthSetup) (system : AuthSystem) : AuthInput → AuthSystem
  | .tick nanos => { system with now := system.now + nanos }
  | .signIn userId userAgent id token =>
    { system with
      store := system.store.create
        (token.record id system.now auth.refreshTokenExpiryDays userId none userAgent) }
  | .presents token => system.begin (.refresh token .presented)
  | .changes userId change => system.begin (.account userId
      ((system.store.listByUser userId).map (·.session)) (.reading change))
  | .ends id => system.begin (.ending (.next [id]))
  | .draws index id drawn => match system.tasks[index]? with
    | none => system
    | some task => { system with tasks := system.tasks.set index (system.draw auth id drawn task) }
  | .work index => system.work auth index

def start (now : DateTime) (users : UserStore) : AuthSystem := ⟨now, .empty, users, []⟩

/-- The token that a step stores, if it stores one. -/
def stores (auth : AuthSetup) (system : AuthSystem) : AuthInput → Option RefreshTokenRecord
  | .signIn userId userAgent id token =>
    some (token.record id system.now auth.refreshTokenExpiryDays userId none userAgent)
  | .work index => match system.tasks[index]? with
    | some (.refresh _ (.storing _ _ _ child)) => some child
    | _ => none
  | _ => none

/-- Random ids and prefixes do not repeat: a token is stored under an id and a prefix
that no stored token has, and one that begins a session begins a new one. -/
def freshToken (auth : AuthSetup) (system : AuthSystem) (input : AuthInput) : Bool :=
  (system.stores auth input).all fun child =>
    !system.store.prefixExists child.lookupPrefix &&
      system.store.list.all fun record => record.id ≠ child.id && record.session ≠ child.id

/-! ## One exchange for each token -/

/-- Of the requests that present one token, one at most is given a new pair. -/
def ExchangedOnce (system : AuthSystem) : Prop :=
  ∀ (i j : Nat) presented claims token claims' token',
    system.tasks[i]? = some (.refresh presented (.granted claims token)) →
    system.tasks[j]? = some (.refresh presented (.granted claims' token')) → i = j

/-- The record a request found usable and has yet to mark as used. -/
def unmarked : AuthTask → Option RefreshTokenRecord
  | .refresh _ (.checking record) => some record
  | .refresh _ (.marking record) => some record
  | .refresh _ (.markWrites record _ _) => some record
  | _ => none

/-- The usable record that a step looks up, if it does. -/
def looksUp (system : AuthSystem) : AuthInput → Option RefreshTokenRecord
  | .work index => match system.tasks[index]? with
    | some (.refresh presented .presented) => match system.lookUp presented with
      | .checking record => some record
      | _ => none
    | _ => none
  | _ => none

/-- A token is looked up only when every request that found it usable has marked it. -/
def alone (system : AuthSystem) (input : AuthInput) : Bool :=
  (system.looksUp input).all fun record =>
    system.tasks.all fun task => (unmarked task).all (·.id ≠ record.id)

/-! ## The end of every session -/

/-- Once an account change has returned, no token of a session that there was before
is usable. -/
def SweptAway (system : AuthSystem) : Prop :=
  ∀ (index : Nat) userId sessions, system.tasks[index]? = some (.account userId sessions .returned) →
    ∀ id record, system.store.getById id = some record → record.session ∈ sessions →
      record.isUsable system.now = false

/-- A step leaves revoked tokens revoked. -/
def StaysRevoked (auth : AuthSetup) (system : AuthSystem) (input : AuthInput) : Prop :=
  ∀ id record, system.store.getById id = some record → record.revokedAt.isSome = true →
    ∃ later, (system.step auth input).store.getById id = some later ∧ later.revokedAt.isSome = true

/-- The record that a refresh goes by until its child is stored. -/
def inFlight : AuthTask → Option RefreshTokenRecord
  | .refresh _ (.checking record) => some record
  | .refresh _ (.marking record) => some record
  | .refresh _ (.markWrites record _ _) => some record
  | .refresh _ (.marked record) => some record
  | .refresh _ (.drawing record _) => some record
  | .refresh _ (.storing record _ _ _) => some record
  | _ => none

/-- The account whose tokens are being revoked. -/
def sweeps : AuthTask → Option Uuid
  | .account userId _ (.sweeping _) => some userId
  | _ => none

/-- Refreshes and sweeps of one account keep apart: tokens are listed when no refresh of
the account's is in flight, none is found usable until the sweep has returned, and
`mark_used` writes no record that was revoked since it was read. -/
def apart (system : AuthSystem) (input : AuthInput) : Bool :=
  ((system.looksUp input).all fun record =>
    system.tasks.all fun task => (sweeps task).all (· ≠ record.userId)) &&
  match input with
  | .work index => match system.tasks[index]? with
    | some (.account userId _ .listing) =>
      system.tasks.all fun task => (inFlight task).all (·.userId ≠ userId)
    | some (.refresh _ (.markWrites _ read _)) =>
      (system.store.getById read.id).all fun stored => stored.revokedAt.isNone || read.revokedAt.isSome
    | _ => true
  | _ => true

end AuthSystem
end HomeCore
