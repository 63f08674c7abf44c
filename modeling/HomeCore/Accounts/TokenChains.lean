import HomeCore.Accounts.RefreshTokens
import HomeCore.Runs
import HomeCore.Settling
import Mathlib.Logic.Relation

/-! The chains that refresh tokens form in their table, over any run of its operations, and how
a chain is gathered to be revoked. -/
namespace HomeCore

namespace RefreshTokenStore

/-- The loop that climbs from a token to the one it was issued in exchange for, and on. -/
inductive WalksUp (store : RefreshTokenStore) : Option Uuid → List Uuid → Prop where
  | top : WalksUp store none []
  | gone {id : Uuid} (missing : store.getById id = none) : WalksUp store (some id) []
  | up {id : Uuid} {record : RefreshTokenRecord} {ids : List Uuid}
    (found : store.getById id = some record) (walks : WalksUp store record.parentId ids) :
    WalksUp store (some id) (record.id :: ids)

/-- Both loops of `revoke_chain` end, with these tokens. -/
inductive Gathers (store : RefreshTokenStore) (id : Uuid) : List Uuid → Prop where
  | ends {record : RefreshTokenRecord} {up ids : List Uuid} (found : store.getById id = some record)
    (walks : WalksUp store (some id) up)
    (settles : Settling.Settles (addChildren (store.listByUser record.userId)) up ids) :
    Gathers store id ids

/-- Of two stored tokens the second was issued in exchange for the first. -/
def Link (store : RefreshTokenStore) (parent child : Uuid) : Prop :=
  ∃ older record, store.getById parent = some older ∧ store.getById child = some record ∧
    record.parentId = some parent

/-- Linked to any depth, up and down. -/
abbrev Connected (store : RefreshTokenStore) : Uuid → Uuid → Prop := Relation.EqvGen store.Link

end RefreshTokenStore

/-- The table, with what is remembered here of the whole run. -/
structure TokenTable where
  now : DateTime
  store : RefreshTokenStore
  /-- Every id that was drawn. -/
  drawn : List Uuid
  /-- Every exchange: the token that was presented, and the one issued for it. -/
  exchanges : List (Uuid × Uuid)

inductive TokenInput where
  | tick (nanos : Nat)
  | create (userId : Uuid) (userAgent : String) (id : Uuid) (tokens : List NewRefreshToken)
  | rotate (presented : Uuid) (id : Uuid) (tokens : List NewRefreshToken)
  | revoke (id : Uuid)
  | revokeChain (id : Uuid)
  | prune
  deriving DecidableEq

namespace TokenTable

/-- `issue_refresh`. -/
def issue (ttlDays : Nat) (table : TokenTable) (userId : Uuid) (parent : Option RefreshTokenRecord)
    (userAgent : String) (id : Uuid) (tokens : List NewRefreshToken) : TokenTable :=
  match table.store.generate tokens with
  | none => table
  | some token =>
    { table with
      store := table.store.create (token.record id table.now ttlDays userId parent userAgent)
      drawn := id :: table.drawn
      exchanges := (parent.toList.map fun p => (p.id, id)) ++ table.exchanges }

def step (ttlDays : Nat) (table : TokenTable) : TokenInput → TokenTable
  | .tick nanos => { table with now := table.now + nanos }
  | .create userId userAgent id tokens => table.issue ttlDays userId none userAgent id tokens
  | .rotate presented id tokens => match table.store.getById presented with
    | none => table
    | some record =>
      -- requests that pass each other may each have found the token usable
      { table with store := table.store.markUsed record.id table.now }.issue ttlDays record.userId
        (some record) "" id tokens
  | .revoke id => { table with store := table.store.revoke id table.now }
  | .revokeChain id => { table with store := table.store.revokeChain id table.now }
  | .prune => { table with store := table.store.prune table.now }

def start (now : DateTime) : TokenTable := ⟨now, .empty, [], []⟩

/-- A random id is none that was drawn before. -/
def freshId (table : TokenTable) : TokenInput → Bool
  | .create _ _ id _ | .rotate _ id _ => !table.drawn.contains id
  | _ => true

/-- A chain is revoked whole and alone, and a token that is still stored is linked to every
token that descends from it. -/
structure WholeChains (table : TokenTable) : Prop where
  gathers : ∀ id, (table.store.getById id).isSome = true →
    table.store.Gathers id (table.store.chain id)
  revoked : ∀ id time other record, (table.store.getById id).isSome = true →
    table.store.getById other = some record → table.store.Connected id other →
    (table.store.revokeChain id time).getById other =
      some (if record.revokedAt = none then record.revoked time else record)
  untouched : ∀ id time other, (table.store.getById id).isSome = true →
    ¬ table.store.Connected id other →
    (table.store.revokeChain id time).getById other = table.store.getById other
  joined : ∀ older later, (table.store.getById older).isSome = true →
    Relation.TransGen (fun a b => (a, b) ∈ table.exchanges) older later →
    Relation.TransGen table.store.Link older later

end TokenTable
end HomeCore
