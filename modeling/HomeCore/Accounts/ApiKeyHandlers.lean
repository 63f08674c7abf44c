import HomeCore.Accounts.ApiKeys
import HomeCore.Outcome
import HomeCore.Runs
import HomeCore.Types.Text

/-! The management of API keys and of the roles that bound them, each request made whole:
who may make, change, revoke and rotate a key, and what becomes of a person's keys when
their role changes or their account goes. -/
namespace HomeCore
open Outcome

/-- Who makes a request. -/
inductive Caller where
  | person (claims : Claims)
  | apiKey (token : String) (ip : Option String)
  /-- The admin socket, or an address on the whitelist. -/
  | localAdmin (peerUid : Option Nat)
  deriving DecidableEq

structure CreateApiKeyRequest where
  label : String
  scopes : List String
  expiresInDays : Option Nat := none
  allowedCidrs : List String := []
  ownerUid : Option Uuid := none
  deriving DecidableEq

structure UpdateApiKeyRequest where
  label : Option String := none
  scopes : Option (List String) := none
  expiresInDays : Option Nat := none
  allowedCidrs : Option (List String) := none
  deriving DecidableEq

/-- What the answer to a request that made a secret is drawn from. -/
structure IssuedKey where
  record : ApiKeyRecord
  token : String
  deriving DecidableEq

def trimmed (text : String) : String := String.ofList (trim text.toList)

/-- A key manages keys only if it was given the scope for it. -/
def keyMayNotManage (claims : Claims) : Bool :=
  claims.actor.isApiKey && !claims.hasScope "api_keys:admin"

/-- What a key made or changed by this caller may hold: what its owner's role allows, and
no more than the caller holds itself. -/
def grantable (claims : Claims) (ownerRole : List String) : List String :=
  if claims.actor.isLocalAdmin then ownerRole else ownerRole.filter claims.scopes.contains

def dropRetiredScopes (scopes : List String) : List String := scopes.filter (!isRetiredScope ·)

def tidyCidrs (cidrs : List String) : List String := (cidrs.map trimmed).filter (· ≠ "")

def unreadableCidr (checks : KeyChecks) (cidrs : List String) : Option String :=
  (tidyCidrs cidrs).find? (!checks.readsCidr ·)

def readableCidrs (checks : KeyChecks) (cidrs : List String) : Except String (List String) :=
  match unreadableCidr checks cidrs with
  | some bad => .error s!"`{bad}` is not an address or a network (like 10.0.10.0/24)"
  | none => .ok (tidyCidrs cidrs)

/-- The scopes asked for, where all of them are allowed. -/
def scopesWithin (allowed requested : List String) : Except String (List String) :=
  match requested.find? (!allowed.contains ·) with
  | some bad => .error s!"scope `{bad}` is not held by the key owner and you"
  | none => .ok requested

/-- Whose key is to be made. The admin socket has no account of its own. -/
def ownerOf (claims : Claims) (wanted : Option Uuid) : Except String Uuid :=
  match wanted, claims.actor.effectiveUid, claims.actor.isLocalAdmin with
  | some uid, _, _ => .ok uid
  | none, some uid, _ => .ok uid
  | none, none, true => .error "owner_uid is required when issuing via the admin UDS"
  | none, none, false => .error "invalid caller identity"

/-- The time that many days from now; the calendar is taken not to run out. -/
def daysAfter (now : DateTime) (days : Nat) : DateTime := now + days * day

/-- How often a display's key is drawn anew, the first time included. -/
def displayTries : Nat := 4

/-! ## The keys of a person whose role changes -/

namespace ApiKeyStore

/-- One key, brought within a role; with none, its owner is gone. -/
def bringWithin (now : DateTime) (role : Option Role) (store : ApiKeyStore) (key : ApiKeyRecord) :
    ApiKeyStore :=
  match role with
  | none => store.revoke key.id now
  | some role =>
    let kept := key.scopes.filter role.scopes.contains
    if kept.length = key.scopes.length then store else store.update { key with scopes := kept }

/-- Display keys are the house's, not their maker's, and are left alone. -/
def bringKeysWithin (store : ApiKeyStore) (now : DateTime) (owner : Uuid) (role : Option Role) :
    ApiKeyStore :=
  ((store.listByOwner owner).filter fun key => !key.display && !key.isRevoked).foldl
    (bringWithin now role) store

end ApiKeyStore

/-! ## The house -/

structure KeyHouse where
  now : DateTime
  keys : ApiKeyStore
  users : UserStore
  /-- The access tokens that were signed. -/
  minted : List Claims
  /-- The sessions noted as ended. -/
  ended : List Uuid

namespace KeyHouse

def tokenVersionCurrent (house : KeyHouse) (claims : Claims) : Bool :=
  match claims.actor with
  | .user uid _ => !claims.sid.any house.ended.contains &&
      (house.users.getUserById uid).any (·.tokenVersion = claims.tv)
  | _ => true

def requireAuth (checks : KeyChecks) (house : KeyHouse) : Caller → Except String Claims
  | .person claims => do
    refuseIf (!(house.minted.contains claims && claims.validate house.now)) "invalid or expired token"
    refuseIf (!house.tokenVersionCurrent claims) "token has been invalidated — sign in again"
    pure claims
  | .apiKey token ip => do
    let record ← verifyApiKey checks house.keys house.now token ip
    pure record.claims
  | .localAdmin peerUid => .ok (.localAdmin peerUid)

/-- A person may give a key of their own what their token carries; any other key gets what
is grantable to its owner. -/
def allowedScopes (house : KeyHouse) (claims : Claims) (owner : Uuid) : Except String (List String) :=
  if claims.actor.isUser && claims.actor.effectiveUid = some owner then .ok claims.scopes
  else do
    let user ← require (house.users.getUserById owner) "owner user not found"
    pure (grantable claims user.role.scopes)

def createApiKey (checks : KeyChecks) (house : KeyHouse) (claims : Claims) (body : CreateApiKeyRequest)
    (id : Uuid) (drawn : List NewApiKey) : Except String (KeyHouse × IssuedKey) := do
  let wanted := dropRetiredScopes body.scopes
  refuseIf (keyMayNotManage claims) "an API key can't manage keys unless it holds api_keys:admin"
  refuseIf (trimmed body.label = "") "label is required"
  let owner ← ownerOf claims body.ownerUid
  refuseIf (!claims.actor.isLocalAdmin && claims.actor.effectiveUid ≠ some owner &&
    !claims.hasScope "api_keys:admin") "api_keys:admin scope required to issue keys for other users"
  let allowed ← house.allowedScopes claims owner
  let scopes ← scopesWithin allowed wanted
  let cidrs ← readableCidrs checks body.allowedCidrs
  let secret ← require (house.keys.generate drawn) "key generation failed"
  let record : ApiKeyRecord :=
    { id := id
      lookupPrefix := secret.lookupPrefix
      hash := secret.hash
      ownerUid := owner
      scopes := scopes
      label := trimmed body.label
      createdAt := house.now
      lastUsedAt := none
      expiresAt := body.expiresInDays.map (daysAfter house.now)
      allowedCidrs := cidrs
      revokedAt := none
      display := false }
  pure ({ house with keys := house.keys.create record }, ⟨record, secret.fullToken⟩)

def createDisplay (house : KeyHouse) (claims : Claims) (name : String) (id : Uuid)
    (drawn : List NewApiKey) : Except String (KeyHouse × IssuedKey) := do
  refuseIf (!claims.isAdmin) "only an admin manages displays"
  refuseIf (trimmed name = "") "give the display a name"
  let secret ← require ((drawn.take displayTries).find? (!house.keys.prefixExists ·.lookupPrefix))
    "key generation failed"
  let record : ApiKeyRecord :=
    { id := id
      lookupPrefix := secret.lookupPrefix
      hash := secret.hash
      ownerUid := claims.actor.effectiveUid.getD ⟨0⟩
      scopes := displayScopes
      label := trimmed name
      createdAt := house.now
      lastUsedAt := none
      expiresAt := none
      allowedCidrs := []
      revokedAt := none
      display := true }
  pure ({ house with keys := house.keys.create record }, ⟨record, secret.fullToken⟩)

/-- What revoking, changing and rotating a key begin with. -/
def managed (house : KeyHouse) (claims : Claims) (id : Uuid) (verb : String) :
    Except String ApiKeyRecord := do
  refuseIf (keyMayNotManage claims) "an API key can't manage keys unless it holds api_keys:admin"
  let record ← require (house.keys.getById id) "API key not found"
  refuseIf (!(claims.actor.isLocalAdmin || claims.hasScope "api_keys:admin") &&
    claims.actor.effectiveUid ≠ some record.ownerUid) s!"not authorised to {verb} this key"
  pure record

def revokeApiKey (house : KeyHouse) (claims : Claims) (id : Uuid) : Except String KeyHouse := do
  let _ ← house.managed claims id "revoke"
  pure { house with keys := house.keys.revoke id house.now }

def newLabel (label : String) : Except String String := do
  refuseIf (trimmed label = "") "label cannot be blank"
  pure (trimmed label)

/-- The scopes are checked against the owner's current role, whoever asks. -/
def newScopes (house : KeyHouse) (claims : Claims) (owner : Uuid) (scopes : List String) :
    Except String (List String) := do
  let user ← require (house.users.getUserById owner) "owner user not found"
  scopesWithin (grantable claims user.role.scopes) (dropRetiredScopes scopes)

def updateApiKey (checks : KeyChecks) (house : KeyHouse) (claims : Claims) (id : Uuid)
    (body : UpdateApiKeyRequest) : Except String (KeyHouse × ApiKeyRecord) := do
  let record ← house.managed claims id "update"
  let label ← body.label.mapM newLabel
  let scopes ← body.scopes.mapM (house.newScopes claims record.ownerUid)
  let cidrs ← body.allowedCidrs.mapM (readableCidrs checks)
  let changed := record.edited
    { label := label
      scopes := scopes
      expiresAt := body.expiresInDays.map (daysAfter house.now)
      allowedCidrs := cidrs }
  pure ({ house with keys := house.keys.update changed }, changed)

/-- The key keeps its scopes, and comes back if it was revoked. -/
def rotateApiKey (house : KeyHouse) (claims : Claims) (id : Uuid) (drawn : List NewApiKey) :
    Except String (KeyHouse × IssuedKey) := do
  let _ ← house.managed claims id "rotate"
  let secret ← require (house.keys.generate drawn) "key generation failed"
  let replaced := house.keys.replaceSecret id secret.lookupPrefix secret.hash house.now
  let rotated ← require replaced.2 "API key vanished during rotate"
  pure ({ house with keys := replaced.1 }, ⟨rotated, secret.fullToken⟩)

def setUserRole (house : KeyHouse) (claims : Claims) (id : Uuid) (role : Role) :
    Except String (KeyHouse × User) := do
  refuseIf (!claims.isAdmin) "admin role required"
  let user ← require (house.users.getUserById id) "user not found"
  if user.role = role then pure (house, user)
  else do
    refuseIf (user.role = .admin && !house.users.keepsAnAdmin id (some role))
      "the house's only admin must stay an admin"
    let changed := { user with role := role, tokenVersion := user.tokenVersion + 1 }
    pure ({ house with
      users := house.users.updateUser changed
      keys := house.keys.bringKeysWithin house.now id (some role) }, changed)

def deleteUser (house : KeyHouse) (claims : Claims) (id : Uuid) : Except String KeyHouse := do
  refuseIf (!claims.isAdmin) "admin role required"
  refuseIf (claims.actor.effectiveUid = some id) "cannot delete your own account"
  refuseIf (!house.users.keepsAnAdmin id none) "cannot remove the house's only admin"
  let _ ← require (house.users.getUserById id) "user not found"
  pure { house with
    users := house.users.deleteUser id
    keys := house.keys.bringKeysWithin house.now id none }

/-- A person signs in, by a password, a refresh token or a PIN. -/
def signIn (house : KeyHouse) (userId : Uuid) (lifetime : Nat) (sid : Option Uuid) : KeyHouse :=
  match house.users.getUserById userId with
  | none => house
  | some user =>
    let claims := { Claims.issueSession house.now 0 user sid with
      exp := some (seconds house.now + lifetime) }
    { house with minted := claims :: house.minted }

end KeyHouse

inductive KeyHouseInput where
  | tick (nanos : Nat)
  | addUser (id : Uuid) (username passwordHash : String) (role : Role)
  | signIn (userId : Uuid) (lifetime : Nat) (sid : Option Uuid)
  | endSession (sid : Uuid)
  /-- The task that a key's use left behind. -/
  | touch (id : Uuid)
  | create (caller : Caller) (body : CreateApiKeyRequest) (id : Uuid) (drawn : List NewApiKey)
  | createDisplay (caller : Caller) (name : String) (id : Uuid) (drawn : List NewApiKey)
  | update (caller : Caller) (id : Uuid) (body : UpdateApiKeyRequest)
  | revoke (caller : Caller) (id : Uuid)
  | rotate (caller : Caller) (id : Uuid) (drawn : List NewApiKey)
  | setRole (caller : Caller) (id : Uuid) (role : Role)
  | deleteUser (caller : Caller) (id : Uuid)
  deriving DecidableEq

namespace KeyHouse

/-- The house after a request; one that fails has changed nothing. -/
def after (checks : KeyChecks) (house : KeyHouse) (caller : Caller)
    (request : Claims → Except String KeyHouse) : KeyHouse :=
  match house.requireAuth checks caller >>= request with
  | .ok next => next
  | .error _ => house

def step (checks : KeyChecks) (house : KeyHouse) : KeyHouseInput → KeyHouse
  | .tick nanos => { house with now := house.now + nanos }
  | .addUser id username passwordHash role =>
    { house with users := house.users.updateUser ⟨id, username, passwordHash, role, 0⟩ }
  | .signIn userId lifetime sid => house.signIn userId lifetime sid
  | .endSession sid => { house with ended := sid :: house.ended }
  | .touch id => { house with keys := house.keys.touchLastUsed id house.now }
  | .create caller body id drawn => house.after checks caller fun claims =>
    (house.createApiKey checks claims body id drawn).map (·.1)
  | .createDisplay caller name id drawn => house.after checks caller fun claims =>
    (house.createDisplay claims name id drawn).map (·.1)
  | .update caller id body => house.after checks caller fun claims =>
    (house.updateApiKey checks claims id body).map (·.1)
  | .revoke caller id => house.after checks caller fun claims => house.revokeApiKey claims id
  | .rotate caller id drawn => house.after checks caller fun claims =>
    (house.rotateApiKey claims id drawn).map (·.1)
  | .setRole caller id role => house.after checks caller fun claims =>
    (house.setUserRole claims id role).map (·.1)
  | .deleteUser caller id => house.after checks caller fun claims => house.deleteUser claims id

def start (now : DateTime) : KeyHouse := ⟨now, .empty, .empty, [], []⟩

/-- The key's owner has an account, and a role that holds what the key holds. -/
def ranksWithin (users : UserStore) (key : ApiKeyRecord) : Bool :=
  (users.getUserById key.ownerUid).any fun user => key.scopes.all user.role.scopes.contains

/-- Every usable key that is not a display's belongs to someone who may do as much. -/
def NoneOutranks (house : KeyHouse) : Prop :=
  ∀ key ∈ house.keys.list, key.isUsable house.now = true → key.display = false →
    ∃ user, house.users.getUserById key.ownerUid = some user ∧ key.scopes ⊆ user.role.scopes

/-- Random ids do not repeat. -/
def freshId (house : KeyHouse) : KeyHouseInput → Bool
  | .addUser id _ _ _ => (house.users.getUserById id).isNone &&
      house.minted.all fun claims => claims.actor.effectiveUid ≠ some id
  | .create _ _ id _ | .createDisplay _ _ id _ => house.keys.list.all (·.id ≠ id)
  | _ => true

/-- A key that a rotation brings back is within what its owner may do now. -/
def rotatesWithin (checks : KeyChecks) (house : KeyHouse) : KeyHouseInput → Bool
  | .rotate caller id _ =>
    match house.requireAuth checks caller >>= fun claims => house.managed claims id "rotate" with
    | .ok key => key.display || !key.isRevoked || ranksWithin house.users key
    | .error _ => true
  | _ => true

end KeyHouse
end HomeCore
