import HomeCore.Accounts.Users
import HomeCore.Indexed
import Mathlib.Data.List.Sort

/-! The table of refresh tokens. A session is a chain of tokens: each refresh retires
the one presented and makes its child. A change of a record is a read and then a write
of the whole record, in two transactions. -/
namespace HomeCore

def hour : Int := 3600 * second

def day : Int := 24 * hour

structure RefreshTokenRecord where
  id : Uuid
  userId : Uuid
  /-- The source's `prefix`: the start of the token's text, which it is looked up by. -/
  lookupPrefix : String
  hash : String
  parentId : Option Uuid
  createdAt : DateTime
  usedAt : Option DateTime
  expiresAt : DateTime
  revokedAt : Option DateTime
  userAgent : String
  sessionStarted : Option DateTime
  sessionId : Option Uuid
  deriving DecidableEq

namespace RefreshTokenRecord

/-- This token's session. -/
def session (record : RefreshTokenRecord) : Uuid := record.sessionId.getD record.id

def isUsable (record : RefreshTokenRecord) (now : DateTime) : Bool :=
  record.usedAt.isNone && record.revokedAt.isNone && now < record.expiresAt

/-- Used or revoked. -/
def retired (record : RefreshTokenRecord) : Bool := record.usedAt.isSome || record.revokedAt.isSome

def used (record : RefreshTokenRecord) (now : DateTime) : RefreshTokenRecord :=
  { record with usedAt := some now }

def revoked (record : RefreshTokenRecord) (now : DateTime) : RefreshTokenRecord :=
  { record with revokedAt := some now }

end RefreshTokenRecord

abbrev RefreshTokenStore := Indexed.Table String String RefreshTokenRecord

namespace RefreshTokenStore

/-- Every token lies under its prefix, and the index of ids leads to it. -/
abbrev Sound (store : RefreshTokenStore) : Prop :=
  Indexed.Table.Sound (·.lookupPrefix) (·.id.text) store

def create (store : RefreshTokenStore) (record : RefreshTokenRecord) : RefreshTokenStore :=
  Indexed.Table.create store record.lookupPrefix record.id.text record

def prefixExists (store : RefreshTokenStore) (text : String) : Bool := store.rows[text]?.isSome

def getByPrefix (store : RefreshTokenStore) (text : String) : Option RefreshTokenRecord :=
  store.rows[text]?

def getById (store : RefreshTokenStore) (id : Uuid) : Option RefreshTokenRecord :=
  store.find id.text

def listByUser (store : RefreshTokenStore) (userId : Uuid) : List RefreshTokenRecord :=
  (store.list.filter (·.userId = userId)).insertionSort (·.createdAt ≤ ·.createdAt)

/-- The write of a record that was read before. -/
def update (store : RefreshTokenStore) (record : RefreshTokenRecord) : RefreshTokenStore :=
  store.write record.lookupPrefix record

def revoke (store : RefreshTokenStore) (id : Uuid) (now : DateTime) : RefreshTokenStore :=
  match store.getById id with
  | none => store
  | some record =>
    if record.revokedAt.isSome then store else store.update (record.revoked now)

def markUsed (store : RefreshTokenStore) (id : Uuid) (now : DateTime) : RefreshTokenStore :=
  match store.getById id with
  | none => store
  | some record => store.update (record.used now)

/-- A token and those it was issued in exchange for, as far as they are stored. No
token is its own ancestor, so the walk meets each row once at most. -/
def ancestors (store : RefreshTokenStore) : Nat → Option Uuid → List Uuid
  | _, none => []
  | 0, some _ => []
  | fuel + 1, some id => match store.getById id with
    | none => []
    | some record => record.id :: ancestors store fuel record.parentId

/-- One pass over the listed tokens, which adds the children of those found. -/
def addChildren (all : List RefreshTokenRecord) (found : List Uuid) : List Uuid :=
  all.foldl (fun ids record =>
    if record.id ∈ ids then ids
    else if record.parentId.any (· ∈ ids) then ids ++ [record.id] else ids) found

/-- The passes are repeated until one adds nothing; each that adds something adds one
of the listed tokens. -/
def withDescendants (all : List RefreshTokenRecord) (found : List Uuid) : List Uuid :=
  (addChildren all)^[all.length] found

/-- The tokens that `revoke_chain` revokes, one by one. -/
def chain (store : RefreshTokenStore) (id : Uuid) : List Uuid :=
  match store.getById id with
  | none => []
  | some record =>
    withDescendants (store.listByUser record.userId) (store.ancestors store.list.length (some id))

def revokeChain (store : RefreshTokenStore) (id : Uuid) (now : DateTime) : RefreshTokenStore :=
  (store.chain id).foldl (fun store id => store.revoke id now) store

/-- Every session with a token revoked at or after `since`, and when. -/
def endedSince (store : RefreshTokenStore) (since : DateTime) : List (Uuid × DateTime) :=
  store.list.filterMap fun record =>
    (record.revokedAt.filter (since ≤ ·)).map (record.session, ·)

/-- Delete tokens that are both expired and retired. -/
def prune (store : RefreshTokenStore) (now : DateTime) : RefreshTokenStore :=
  (store.list.filter fun record => record.retired && record.expiresAt ≤ now).foldl
    (fun store record => store.remove (record.lookupPrefix, record.id.text)) store

end RefreshTokenStore

/-- A token as it is made: what the caller is given, and what is kept of it. -/
structure NewRefreshToken where
  fullToken : String
  lookupPrefix : String
  hash : String
  deriving DecidableEq

def refreshMaxRetries : Nat := 3

/-- The first of the tokens drawn that no stored one collides with. -/
def RefreshTokenStore.generate (store : RefreshTokenStore) (drawn : List NewRefreshToken) :
    Option NewRefreshToken :=
  (drawn.take refreshMaxRetries).find? fun candidate => !store.prefixExists candidate.lookupPrefix

/-- The record that `issue_refresh` makes of a token it has drawn. -/
def NewRefreshToken.record (token : NewRefreshToken) (id : Uuid) (now : DateTime) (ttlDays : Nat)
    (userId : Uuid) (parent : Option RefreshTokenRecord) (userAgent : String) : RefreshTokenRecord where
  id := id
  userId := userId
  lookupPrefix := token.lookupPrefix
  hash := token.hash
  parentId := parent.map (·.id)
  createdAt := now
  usedAt := none
  expiresAt := now + ttlDays * day
  revokedAt := none
  userAgent := (parent.map (·.userAgent)).getD userAgent
  sessionStarted := some ((parent.map fun p => p.sessionStarted.getD p.createdAt).getD now)
  sessionId := some ((parent.map (·.session)).getD id)

def refreshTokenPrefix : String := "hc_rt_"

end HomeCore
