import HomeCore.Accounts.RefreshTokens
import HomeCore.Types.UuidText

/-! API keys: their table, laid out as the table of refresh tokens is, and the check of a
key that a request presents. -/
namespace HomeCore

structure ApiKeyRecord where
  id : Uuid
  /-- The source's `prefix`: the start of the secret, which the key is looked up by. -/
  lookupPrefix : String
  hash : String
  ownerUid : Uuid
  scopes : List String
  label : String
  createdAt : DateTime
  lastUsedAt : Option DateTime
  expiresAt : Option DateTime
  allowedCidrs : List String
  revokedAt : Option DateTime
  /-- A display's key: a wall tablet's identity, not a person's. -/
  display : Bool
  deriving DecidableEq

/-- What a change of a key's metadata sets. -/
structure ApiKeyEdit where
  label : Option String := none
  scopes : Option (List String) := none
  expiresAt : Option DateTime := none
  allowedCidrs : Option (List String) := none
  deriving DecidableEq

namespace ApiKeyRecord

def isRevoked (record : ApiKeyRecord) : Bool := record.revokedAt.isSome

def isExpired (record : ApiKeyRecord) (now : DateTime) : Bool := record.expiresAt.any (· ≤ now)

def isUsable (record : ApiKeyRecord) (now : DateTime) : Bool :=
  !record.isRevoked && !record.isExpired now

def revoked (record : ApiKeyRecord) (now : DateTime) : ApiKeyRecord :=
  { record with revokedAt := some now }

def touched (record : ApiKeyRecord) (now : DateTime) : ApiKeyRecord :=
  { record with lastUsedAt := some now }

def edited (record : ApiKeyRecord) (edit : ApiKeyEdit) : ApiKeyRecord :=
  { record with
    label := edit.label.getD record.label
    scopes := edit.scopes.getD record.scopes
    expiresAt := edit.expiresAt.or record.expiresAt
    allowedCidrs := edit.allowedCidrs.getD record.allowedCidrs }

/-- The key with a new secret. -/
def rotated (record : ApiKeyRecord) (newPrefix newHash : String) (now : DateTime) : ApiKeyRecord :=
  { record with
    lookupPrefix := newPrefix
    hash := newHash
    lastUsedAt := none
    revokedAt := none
    createdAt := now }

end ApiKeyRecord

abbrev ApiKeyStore := Indexed.Table String String ApiKeyRecord

namespace ApiKeyStore

/-- Every key lies under its prefix, and the index of ids leads to it. -/
abbrev Sound (store : ApiKeyStore) : Prop :=
  Indexed.Table.Sound (·.lookupPrefix) (·.id.text) store

def create (store : ApiKeyStore) (record : ApiKeyRecord) : ApiKeyStore :=
  Indexed.Table.create store record.lookupPrefix record.id.text record

def prefixExists (store : ApiKeyStore) (text : String) : Bool := store.rows[text]?.isSome

def getByPrefix (store : ApiKeyStore) (text : String) : Option ApiKeyRecord := store.rows[text]?

def getById (store : ApiKeyStore) (id : Uuid) : Option ApiKeyRecord := store.find id.text

def listByOwner (store : ApiKeyStore) (owner : Uuid) : List ApiKeyRecord :=
  (store.list.insertionSort (·.createdAt ≤ ·.createdAt)).filter (·.ownerUid = owner)

/-- The write of a record that was read before. -/
def update (store : ApiKeyStore) (record : ApiKeyRecord) : ApiKeyStore :=
  store.write record.lookupPrefix record

def revoke (store : ApiKeyStore) (id : Uuid) (now : DateTime) : ApiKeyStore :=
  match store.getById id with
  | none => store
  | some record => if record.revokedAt.isSome then store else store.update (record.revoked now)

def touchLastUsed (store : ApiKeyStore) (id : Uuid) (now : DateTime) : ApiKeyStore :=
  match store.getById id with
  | none => store
  | some record => store.update (record.touched now)

/-- The write of `replace_secret`: the old row goes, the new one comes, and the index
follows. -/
def replaceWrite (store : ApiKeyStore) (read : ApiKeyRecord) (newPrefix newHash : String)
    (now : DateTime) : ApiKeyStore :=
  store.move read.lookupPrefix newPrefix read.id.text (read.rotated newPrefix newHash now)

def replaceSecret (store : ApiKeyStore) (id : Uuid) (newPrefix newHash : String) (now : DateTime) :
    ApiKeyStore × Option ApiKeyRecord :=
  match store.getById id with
  | none => (store, none)
  | some record =>
    (store.replaceWrite record newPrefix newHash now, some (record.rotated newPrefix newHash now))

end ApiKeyStore

/-- A secret as it is made: what the caller is given, and what is kept of it. -/
structure NewApiKey where
  fullToken : String
  lookupPrefix : String
  hash : String
  deriving DecidableEq

def maxPrefixCollisionRetries : Nat := 3

/-- The first of the secrets drawn that no stored one collides with. -/
def ApiKeyStore.generate (store : ApiKeyStore) (drawn : List NewApiKey) : Option NewApiKey :=
  (drawn.take maxPrefixCollisionRetries).find? fun candidate =>
    !store.prefixExists candidate.lookupPrefix

/-! ## Verification -/

/-- Other packages' part: the check of a secret against its hash, and what is read as an
address or a network and which addresses a network contains. -/
structure KeyChecks where
  verifyToken : String → String → Bool
  readsCidr : String → Bool
  contains : String → String → Bool

def addressAllowed (checks : KeyChecks) (cidrs : List String) (ip : Option String) : Bool :=
  if cidrs.isEmpty then true
  else ip.any fun address => cidrs.any fun cidr => checks.readsCidr cidr && checks.contains cidr address

def apiKeyPrefix : String := "hc_sk_"

/-- The claims that a key stands for. A display holds what a display may do now, whatever
was stored when it was made. -/
def ApiKeyRecord.claims (record : ApiKeyRecord) : Claims where
  exp := none
  role := .admin
  scopes := if record.display then displayScopes else record.scopes
  actor := .apiKey record.id record.ownerUid record.label
  tv := 0
  sid := none

/-- The lookup of a presented key: the one time that the store is read. -/
def usableKey (store : ApiKeyStore) (now : DateTime) (token : String) : Except String ApiKeyRecord :=
  match lookupPrefix apiKeyPrefix token with
  | none => .error "malformed API key"
  | some text => match store.getByPrefix text with
    | none => .error "invalid API key"
    | some record =>
      if !record.isUsable now then .error "API key revoked or expired" else .ok record

/-- What is checked of the record found, once its hash has been compared. -/
def admitKey (checks : KeyChecks) (token : String) (ip : Option String) (record : ApiKeyRecord) :
    Except String ApiKeyRecord :=
  if !checks.verifyToken token record.hash then .error "invalid API key"
  else if !addressAllowed checks record.allowedCidrs ip then
    .error "this API key may not be used from this address"
  else .ok record

/-- The check of a presented key, with nothing in between. -/
def verifyApiKey (checks : KeyChecks) (store : ApiKeyStore) (now : DateTime) (token : String)
    (ip : Option String) : Except String ApiKeyRecord :=
  (usableKey store now token).bind (admitKey checks token ip)

/-! The table of API keys: what each operation leaves in it, and that no key loses its place. -/

namespace ApiKeyStore

variable {store : ApiKeyStore} {record : ApiKeyRecord} {key : String} {id : Uuid}

theorem Sound.getById_eq (sound : store.Sound) (stored : store.rows[key]? = some record) :
    store.getById record.id = some record :=
  Indexed.Table.Sound.find_of_mem sound stored

theorem Sound.of_getById (sound : store.Sound) (found : store.getById id = some record) :
    store.rows[record.lookupPrefix]? = some record ∧ record.id = id := by
  obtain ⟨stored, named⟩ := Indexed.Table.Sound.of_find sound found
  exact ⟨stored, Uuid.text_injective named⟩

theorem rows_update (store : ApiKeyStore) (record : ApiKeyRecord) (key : String) :
    (store.update record).rows[key]? =
      if record.lookupPrefix = key then some record else store.rows[key]? :=
  Indexed.Table.rows_write store record.lookupPrefix key record

theorem rows_create (store : ApiKeyStore) (record : ApiKeyRecord) (key : String) :
    (store.create record).rows[key]? =
      if record.lookupPrefix = key then some record else store.rows[key]? :=
  Indexed.Table.rows_create store record.lookupPrefix key record.id.text record

theorem rows_replaceWrite (store : ApiKeyStore) (read : ApiKeyRecord) (newPrefix newHash : String)
    (now : DateTime) (key : String) :
    (store.replaceWrite read newPrefix newHash now).rows[key]? =
      if newPrefix = key then some (read.rotated newPrefix newHash now)
      else if read.lookupPrefix = key then none else store.rows[key]? :=
  Indexed.Table.rows_move store read.lookupPrefix newPrefix key read.id.text _

theorem prefixExists_eq_false (absent : store.prefixExists key = false) : store.rows[key]? = none := by
  rwa [prefixExists, Option.isSome_eq_false_iff, Option.isNone_iff_eq_none] at absent

theorem generate_free {drawn : List NewApiKey} {secret : NewApiKey}
    (generated : store.generate drawn = some secret) : store.rows[secret.lookupPrefix]? = none := by
  have absent := List.find?_some generated
  rw [Bool.not_eq_true'] at absent
  exact prefixExists_eq_false absent

/-- A key is stored under a prefix and an id that no stored key has. -/
theorem create_sound (sound : store.Sound) (free : store.rows[record.lookupPrefix]? = none)
    (unknown : ∀ (key : String) other, store.rows[key]? = some other → other.id ≠ record.id) :
    (store.create record).Sound :=
  Indexed.Table.Sound.create sound free fun key other stored named =>
    unknown key other stored (Uuid.text_injective named)

/-- A record is written back under the prefix and id of a stored one. -/
theorem update_sound (sound : store.Sound) {stored : ApiKeyRecord}
    (found : store.getById record.id = some stored)
    (same : stored.lookupPrefix = record.lookupPrefix) : (store.update record).Sound := by
  obtain ⟨there, isSame⟩ := sound.of_getById found
  rw [same] at there
  exact Indexed.Table.Sound.write sound there (congrArg Uuid.text isSame)

theorem replaceWrite_sound (sound : store.Sound) {read stored : ApiKeyRecord} {newPrefix newHash : String}
    {now : DateTime} (found : store.getById read.id = some stored)
    (same : stored.lookupPrefix = read.lookupPrefix) (free : store.rows[newPrefix]? = none) :
    (store.replaceWrite read newPrefix newHash now).Sound := by
  obtain ⟨there, isSame⟩ := sound.of_getById found
  have named : stored.id.text = (read.rotated newPrefix newHash now).id.text :=
    congrArg Uuid.text isSame
  have moved := Indexed.Table.Sound.move sound there named free
  rw [same] at moved
  exact moved

end ApiKeyStore

/-- A secret is kept as the text itself behind a word, in place of its hash; a network is
an address. -/
def plainChecks : KeyChecks where
  verifyToken token hash := hash = "hash of " ++ token
  readsCidr _ := true
  contains cidr address := cidr = address

end HomeCore
