import HomeCore.Accounts.RefreshTokens
import HomeCore.Runs

/-! Sessions over time, each request made whole: signing in, refreshing, ending a
session, and what becomes of its tokens when old ones are pruned and the server starts
again. That a session was ended is kept in memory for as long as an access token lives. -/
namespace HomeCore

/-- The configuration, and the check of a token against the hash that is kept of it. -/
structure AuthSetup where
  tokenExpiryHours : Nat
  refreshTokenExpiryDays : Nat
  verifyToken : String → String → Bool

structure SessionSystem where
  now : DateTime
  store : RefreshTokenStore
  users : UserStore
  /-- The sessions noted as ended, and when; kept in memory. -/
  endedSessions : Std.ExtTreeMap String DateTime
  /-- Every access token that was minted. -/
  minted : List Claims
  /-- The sessions that `end_session` has succeeded on. -/
  closed : List Uuid

inductive SessionInput where
  | tick (nanos : Nat)
  /-- The name and password were those of this account. The new token's id and the
  tokens drawn for it are random. -/
  | login (userId : Uuid) (userAgent : String) (id : Uuid) (drawn : List NewRefreshToken)
  | refresh (presented : String) (id : Uuid) (drawn : List NewRefreshToken)
  | endSession (caller : Option Uuid) (id : Uuid)
  | prune
  | restart
  deriving DecidableEq

namespace SessionSystem

/-- How long the end of a session is remembered. -/
def keep (auth : AuthSetup) : Int := auth.tokenExpiryHours * hour

/-- `AppState::end_session`. -/
def noteEnded (auth : AuthSetup) (system : SessionSystem) (sid : Uuid) : SessionSystem :=
  { system with
    endedSessions :=
      (system.endedSessions.filter fun _ ended => system.now < ended + keep auth).insert sid.text
        system.now }

def sessionEnded (system : SessionSystem) (sid : Uuid) : Bool :=
  system.endedSessions[sid.text]?.isSome

/-- `load_ended_sessions`, on the map of a server that has just started. -/
def loadEndedSessions (auth : AuthSetup) (system : SessionSystem) : SessionSystem :=
  { system with
    endedSessions := (system.store.endedSince (system.now - keep auth)).foldl
      (fun ended entry => ended.insert entry.1.text entry.2) ∅ }

/-- A password's token must be of the account's current version and of no session that
was ended. -/
def tokenVersionCurrent (system : SessionSystem) (claims : Claims) : Bool :=
  match claims.actor with
  | .user uid _ => !claims.sid.any system.sessionEnded &&
      (system.users.getUserById uid).any (·.tokenVersion = claims.tv)
  | _ => true

def accepts (system : SessionSystem) (claims : Claims) : Bool :=
  claims.validate system.now && system.tokenVersionCurrent claims

/-- A token is made, kept and handed out with an access token of its session. -/
def grant (auth : AuthSetup) (system : SessionSystem) (user : User) (child : RefreshTokenRecord) :
    SessionSystem × Claims :=
  let claims := Claims.issueSession system.now auth.tokenExpiryHours user (some child.session)
  ({ system with store := system.store.create child, minted := claims :: system.minted }, claims)

/-- If no token can be made, the sign-in still gives an access token, of no session. -/
def login (auth : AuthSetup) (system : SessionSystem) (userId : Uuid) (userAgent : String) (id : Uuid)
    (drawn : List NewRefreshToken) : SessionSystem × Except String (Claims × Option NewRefreshToken) :=
  match system.users.getUserById userId with
  | none => (system, .error "invalid credentials")
  | some user => match system.store.generate drawn with
    | none =>
      let claims := Claims.issueSession system.now auth.tokenExpiryHours user none
      ({ system with minted := claims :: system.minted }, .ok (claims, none))
    | some token =>
      let record := token.record id system.now auth.refreshTokenExpiryDays userId none userAgent
      let granted := system.grant auth user record
      (granted.1, .ok (granted.2, some token))

def refresh (auth : AuthSetup) (system : SessionSystem) (presented : String) (id : Uuid)
    (drawn : List NewRefreshToken) : SessionSystem × Except String (Claims × NewRefreshToken) :=
  match lookupPrefix refreshTokenPrefix presented with
  | none => (system, .error "malformed refresh token")
  | some text => match system.store.getByPrefix text with
    | none => (system, .error "invalid refresh token")
    | some record =>
      if record.usedAt.isSome then
        let revoked := { system with store := system.store.revokeChain record.id system.now }
        (revoked.noteEnded auth record.session,
          .error "refresh token reuse detected — chain revoked")
      else if record.revokedAt.isSome || record.expiresAt ≤ system.now then
        (system, .error "refresh token revoked or expired")
      else if !auth.verifyToken presented record.hash then (system, .error "invalid refresh token")
      else
        let marked := { system with store := system.store.markUsed record.id system.now }
        match marked.users.getUserById record.userId with
        | none => (marked, .error "user no longer exists")
        | some user => match marked.store.generate drawn with
          | none => (marked, .error "could not rotate refresh token")
          | some token =>
            let child := token.record id system.now auth.refreshTokenExpiryDays record.userId
              (some record) ""
            let granted := marked.grant auth user child
            (granted.1, .ok (granted.2, token))

/-- Only the token that the call names is revoked. -/
def endSession (auth : AuthSetup) (system : SessionSystem) (caller : Option Uuid) (id : Uuid) :
    SessionSystem × Except String Unit :=
  match (system.store.getById id).filter fun record => some record.userId = caller with
  | none => (system, .error "no such session of yours")
  | some record =>
    let revoked := { system with
      store := system.store.revoke id system.now
      closed := record.session :: system.closed }
    (revoked.noteEnded auth record.session, .ok ())

def step (auth : AuthSetup) (system : SessionSystem) : SessionInput → SessionSystem
  | .tick nanos => { system with now := system.now + nanos }
  | .login userId userAgent id drawn => (system.login auth userId userAgent id drawn).1
  | .refresh presented id drawn => (system.refresh auth presented id drawn).1
  | .endSession caller id => (system.endSession auth caller id).1
  | .prune => { system with store := system.store.prune system.now }
  | .restart => system.loadEndedSessions auth

def start (now : DateTime) (users : UserStore) : SessionSystem where
  now := now
  store := .empty
  users := users
  endedSessions := ∅
  minted := []
  closed := []

/-- No refresh of a token of an ended session succeeds, and no access token of one is
accepted. -/
structure StayEnded (auth : AuthSetup) (system : SessionSystem) : Prop where
  refused : ∀ presented id drawn text record, lookupPrefix refreshTokenPrefix presented = some text →
    system.store.getByPrefix text = some record → record.session ∈ system.closed →
    ∃ message, (system.refresh auth presented id drawn).2 = .error message
  barred : ∀ claims ∈ system.minted, ∀ sid ∈ system.closed, claims.sid = some sid →
    system.accepts claims = false

/-- A call that may end a session names the token of it that was not rotated away, and
every revocation of a token of the session, this one included, comes after that token
was made by more than what a validation allows past expiry. -/
def endsCurrent (system : SessionSystem) : SessionInput → Bool
  | .endSession caller id =>
    ((system.store.getById id).filter fun record => some record.userId = caller).all fun named =>
      named.usedAt.isNone && system.store.list.all fun record =>
        record.session ≠ named.session ||
          seconds named.createdAt + jwtLeeway < seconds (record.revokedAt.getD system.now)
  | _ => true

/-- A random id is none that was drawn before. -/
def freshId (system : SessionSystem) : SessionInput → Bool
  | .login _ _ id _ | .refresh _ id _ =>
    system.store.list.all (fun record => record.id ≠ id && record.session ≠ id) &&
      system.minted.all (·.sid ≠ some id) && !system.closed.contains id
  | _ => true

end SessionSystem
end HomeCore
