import HomeCore.Accounts.ApiKeyHandlers

/-! No key outranks its owner, where no rotation brings back a key that was revoked while
its owner might do more. A revoked key is passed over when its owner's role is lowered or
the account is removed, and a rotation takes its scopes as they are. -/
namespace HomeCore
open Outcome

namespace UserStore

variable {users : UserStore} {user : User} {id : Uuid}

theorem getUserById_updateUser (users : UserStore) (user : User) (id : Uuid) :
    (users.updateUser user).getUserById id = if user.id = id then some user else users.getUserById id := by
  simp only [getUserById, updateUser, Std.ExtTreeMap.getElem?_insert, Std.compare_eq_iff_eq,
    Uuid.text_inj]

theorem getUserById_deleteUser (users : UserStore) (gone id : Uuid) :
    (users.deleteUser gone).getUserById id = if gone = id then none else users.getUserById id := by
  simp only [getUserById, deleteUser, Std.ExtTreeMap.getElem?_erase, Std.compare_eq_iff_eq,
    Uuid.text_inj]

theorem getUserById_id (found : users.getUserById id = some user) : user.id = id :=
  Uuid.text_injective (users.keyed id.text user found)

end UserStore

/-! ## The keys of a person whose role changes -/

/-- What becomes of a key of theirs. -/
def ApiKeyRecord.broughtWithin (key : ApiKeyRecord) (now : DateTime) (role : Option Role) : ApiKeyRecord :=
  match role with
  | none => key.revoked now
  | some role => { key with scopes := key.scopes.filter role.scopes.contains }

namespace ApiKeyStore

variable {store base : ApiKeyStore} {now : DateTime} {role : Option Role} {owner : Uuid}

/-- The key's row, which was not yet brought within the role or already was. -/
theorem bringWithin_spec {key : ApiKeyRecord} (sound : store.Sound)
    (held : store.rows[key.lookupPrefix]? = some key ∨
      store.rows[key.lookupPrefix]? = some (key.broughtWithin now role))
    (alive : key.isRevoked = false) :
    (store.bringWithin now role key).Sound ∧ ∀ text : String,
      (store.bringWithin now role key).rows[text]? =
        if key.lookupPrefix = text then some (key.broughtWithin now role) else store.rows[text]? := by
  have unchanged (same : store.rows[key.lookupPrefix]? = some (key.broughtWithin now role))
      (text : String) : store.rows[text]? =
        if key.lookupPrefix = text then some (key.broughtWithin now role) else store.rows[text]? := by
    split
    next here => rw [← here, same]
    next => rfl
  have replaced {changed : ApiKeyRecord} (isBrought : changed = key.broughtWithin now role)
      (sameId : changed.id = key.id) (samePrefix : changed.lookupPrefix = key.lookupPrefix) :
      (store.update changed).Sound ∧ ∀ text : String, (store.update changed).rows[text]? =
        if key.lookupPrefix = text then some (key.broughtWithin now role) else store.rows[text]? := by
    refine ⟨?_, fun text => by rw [rows_update, samePrefix, isBrought]⟩
    rcases held with before | already
    · have found := sound.getById_eq before
      rw [← sameId] at found
      exact update_sound sound found samePrefix.symm
    · rw [← isBrought] at already
      exact update_sound sound (sound.getById_eq already) rfl
  cases role with
  | none =>
    simp only [bringWithin, revoke]
    rcases held with before | already
    · rw [ApiKeyRecord.isRevoked] at alive
      simp only [sound.getById_eq before, alive, Bool.false_eq_true, if_false]
      exact replaced rfl rfl rfl
    · have found : store.getById key.id = some (key.revoked now) := sound.getById_eq already
      simp only [found, ApiKeyRecord.revoked, Option.isSome_some, if_true]
      exact ⟨sound, unchanged already⟩
  | some role =>
    simp only [bringWithin]
    by_cases whole : (key.scopes.filter role.scopes.contains).length = key.scopes.length
    · rw [if_pos whole]
      have same : key.broughtWithin now (some role) = key := by
        rw [ApiKeyRecord.broughtWithin, List.filter_eq_self.mpr (List.length_filter_eq_length_iff.mp whole)]
      rw [same, or_self] at held
      exact ⟨sound, unchanged (same.symm ▸ held)⟩
    · rw [if_neg whole]
      exact replaced rfl rfl rfl

theorem foldl_bringWithin {keys : List ApiKeyRecord}
    (listed : ∀ key ∈ keys, base.rows[key.lookupPrefix]? = some key)
    (alive : ∀ key ∈ keys, key.isRevoked = false) (sound : store.Sound)
    (held : ∀ key ∈ keys, store.rows[key.lookupPrefix]? = some key ∨
      store.rows[key.lookupPrefix]? = some (key.broughtWithin now role)) :
    (keys.foldl (bringWithin now role) store).Sound ∧
      (∀ key ∈ keys, (keys.foldl (bringWithin now role) store).rows[key.lookupPrefix]? =
        some (key.broughtWithin now role)) ∧
      ∀ text : String, (∀ key ∈ keys, key.lookupPrefix ≠ text) →
        (keys.foldl (bringWithin now role) store).rows[text]? = store.rows[text]? := by
  induction keys generalizing store with
  | nil => exact ⟨sound, fun key member => (List.not_mem_nil member).elim, fun text _ => rfl⟩
  | cons first rest ih =>
    obtain ⟨nextSound, rows⟩ := bringWithin_spec sound (held first List.mem_cons_self)
      (alive first List.mem_cons_self)
    -- a key that is listed again is the one just brought within
    have nextHeld : ∀ key ∈ rest, (store.bringWithin now role first).rows[key.lookupPrefix]? = some key ∨
        (store.bringWithin now role first).rows[key.lookupPrefix]? = some (key.broughtWithin now role) := by
      intro key member
      rw [rows]
      split
      next same =>
        have isFirst := listed first List.mem_cons_self
        rw [same, listed key (List.mem_cons_of_mem _ member)] at isFirst
        cases isFirst
        exact .inr rfl
      next => exact held key (List.mem_cons_of_mem _ member)
    obtain ⟨lastSound, brought, others⟩ := ih
      (fun key member => listed key (List.mem_cons_of_mem _ member))
      (fun key member => alive key (List.mem_cons_of_mem _ member)) nextSound nextHeld
    refine ⟨lastSound, ?_, ?_⟩
    · intro key member
      by_cases again : ∃ other ∈ rest, other.lookupPrefix = key.lookupPrefix
      · obtain ⟨other, later, same⟩ := again
        have isOther := listed other (List.mem_cons_of_mem _ later)
        rw [same, listed key member] at isOther
        cases isOther
        exact brought key later
      · have isFirst : key = first := by
          rcases List.mem_cons.mp member with isFirst | later
          · exact isFirst
          · exact (again ⟨key, later, rfl⟩).elim
        subst isFirst
        rw [List.foldl_cons, others _ fun other later same => again ⟨other, later, same⟩, rows,
          if_pos rfl]
    · intro text apart
      rw [List.foldl_cons, others text fun key later => apart key (List.mem_cons_of_mem _ later), rows,
        if_neg (apart first List.mem_cons_self)]

theorem mem_listByOwner {key : ApiKeyRecord} :
    key ∈ store.listByOwner owner ↔ (∃ text : String, store.rows[text]? = some key) ∧ key.ownerUid = owner := by
  simp only [listByOwner, List.mem_filter, List.mem_insertionSort, Indexed.Table.mem_list,
    decide_eq_true_eq]

/-- Where a key that is neither revoked nor a display's comes from: it was brought within
the role if it is the person's own. -/
theorem bringKeysWithin_spec (sound : store.Sound) (now : DateTime) (owner : Uuid) (role : Option Role) :
    (store.bringKeysWithin now owner role).Sound ∧ ∀ (text : String) key,
      (store.bringKeysWithin now owner role).rows[text]? = some key → key.isRevoked = false →
        key.display = false → ∃ before : ApiKeyRecord, store.rows[text]? = some before ∧
          before.isRevoked = false ∧ before.display = false ∧
          (before.ownerUid ≠ owner ∧ key = before ∨
            before.ownerUid = owner ∧ key = before.broughtWithin now role) := by
  have listed : ∀ key ∈ (store.listByOwner owner).filter (fun key => !key.display && !key.isRevoked),
      store.rows[key.lookupPrefix]? = some key ∧ key.ownerUid = owner ∧ key.isRevoked = false ∧
        key.display = false := by
    intro key member
    simp only [List.mem_filter, mem_listByOwner, Bool.and_eq_true, Bool.not_eq_true'] at member
    obtain ⟨⟨⟨text, stored⟩, owned⟩, isPerson, alive⟩ := member
    rw [sound.keyed text key stored]
    exact ⟨stored, owned, alive, isPerson⟩
  obtain ⟨lastSound, brought, others⟩ : (store.bringKeysWithin now owner role).Sound ∧ _ :=
    foldl_bringWithin (fun key member => (listed key member).1)
      (fun key member => (listed key member).2.2.1) sound
      (fun key member => .inl (listed key member).1)
  refine ⟨lastSound, ?_⟩
  intro text key stored alive isPerson
  by_cases inList : ∃ before ∈ (store.listByOwner owner).filter
      (fun key => !key.display && !key.isRevoked), before.lookupPrefix = text
  · obtain ⟨before, member, rfl⟩ := inList
    have isBrought := brought before member
    rw [bringKeysWithin] at stored
    rw [isBrought] at stored
    cases stored
    obtain ⟨there, owned, wasAlive, wasPerson⟩ := listed before member
    exact ⟨before, there, wasAlive, wasPerson, .inr ⟨owned, rfl⟩⟩
  · rw [bringKeysWithin, others text fun before member same => inList ⟨before, member, same⟩] at stored
    refine ⟨key, stored, alive, isPerson, .inl ⟨?_, rfl⟩⟩
    intro owned
    refine inList ⟨key, ?_, sound.keyed text key stored⟩
    simp only [List.mem_filter, mem_listByOwner, Bool.and_eq_true, Bool.not_eq_true']
    exact ⟨⟨⟨text, stored⟩, owned⟩, isPerson, alive⟩

end ApiKeyStore

/-! ## What a request may give a key -/

namespace KeyHouse

variable {checks : KeyChecks} {house next : KeyHouse} {claims : Claims} {caller : Caller} {owner id : Uuid}

def Within (users : UserStore) (key : ApiKeyRecord) : Prop :=
  ∃ user, users.getUserById key.ownerUid = some user ∧ key.scopes ⊆ user.role.scopes

/-- A token of the account's current version carries what its holder's role allows. -/
def Truthful (users : UserStore) (claims : Claims) : Prop :=
  ∃ uid username, claims.actor = .user uid username ∧
    ∀ user, users.getUserById uid = some user → claims.tv ≤ user.tokenVersion ∧
      (claims.tv = user.tokenVersion → claims.scopes = user.role.scopes)

/-- Every key that is neither revoked nor a display's is within its owner's role, expired
or not, and no current token carries more than its holder's role. -/
structure Bounded (house : KeyHouse) : Prop where
  sound : house.keys.Sound
  within : ∀ (text : String) key, house.keys.rows[text]? = some key → key.isRevoked = false →
    key.display = false → Within house.users key
  truthful : ∀ claims ∈ house.minted, Truthful house.users claims

theorem ranksWithin_within {key : ApiKeyRecord} (ranks : ranksWithin house.users key = true) :
    Within house.users key := by
  obtain ⟨user, found, holds⟩ := (Option.any_eq_true _ _).mp ranks
  refine ⟨user, found, ?_⟩
  intro scope member
  simpa using List.all_eq_true.mp holds scope member

theorem scopesWithin_ok {allowed requested scopes : List String}
    (allows : scopesWithin allowed requested = .ok scopes) : scopes ⊆ allowed := by
  unfold scopesWithin at allows
  cases bad : requested.find? (!allowed.contains ·) with
  | some scope =>
    rw [bad] at allows
    cases allows
  | none =>
    rw [bad] at allows
    cases allows
    intro scope member
    simpa using List.find?_eq_none.mp bad scope member

theorem grantable_subset (claims : Claims) (ownerRole : List String) :
    grantable claims ownerRole ⊆ ownerRole := by
  unfold grantable
  split
  · exact List.Subset.refl _
  · exact List.filter_sublist.subset

/-- The token that lets a person in is of the current version. -/
theorem requireAuth_scopes (bounded : Bounded house)
    (authorised : house.requireAuth checks caller = .ok claims) (isPerson : claims.actor.isUser = true)
    (isSelf : claims.actor.effectiveUid = some owner) :
    ∃ user, house.users.getUserById owner = some user ∧ claims.scopes = user.role.scopes := by
  cases caller with
  | person presented =>
    simp only [requireAuth, bind_ok, refuseIf_ok, pure_ok, Bool.not_eq_false', Bool.and_eq_true,
      List.contains_iff_mem] at authorised
    obtain ⟨_, ⟨member, _⟩, _, current, rfl⟩ := authorised
    obtain ⟨uid, username, isUser, scopes⟩ := bounded.truthful presented member
    rw [isUser] at isSelf
    cases isSelf
    simp only [tokenVersionCurrent, isUser, Bool.and_eq_true] at current
    obtain ⟨user, found, same⟩ := (Option.any_eq_true _ _).mp current.2
    exact ⟨user, found, (scopes user found).2 (of_decide_eq_true same).symm⟩
  | apiKey token ip =>
    simp only [requireAuth, bind_ok, pure_ok] at authorised
    obtain ⟨record, _, rfl⟩ := authorised
    cases isPerson
  | localAdmin peerUid =>
    cases authorised
    cases isPerson

theorem allowedScopes_subset (bounded : Bounded house)
    (authorised : house.requireAuth checks caller = .ok claims) {allowed : List String}
    (allows : house.allowedScopes claims owner = .ok allowed) :
    ∃ user, house.users.getUserById owner = some user ∧ allowed ⊆ user.role.scopes := by
  unfold allowedScopes at allows
  split at allows
  next own =>
    rw [Bool.and_eq_true, decide_eq_true_eq] at own
    cases allows
    obtain ⟨user, found, same⟩ := requireAuth_scopes bounded authorised own.1 own.2
    exact ⟨user, found, same ▸ List.Subset.refl _⟩
  next =>
    simp only [bind_ok, pure_ok, require_ok] at allows
    obtain ⟨user, found, rfl⟩ := allows
    exact ⟨user, found, grantable_subset claims _⟩

/-! ## What each request leaves behind -/

theorem Bounded.update (bounded : Bounded house) {stored changed : ApiKeyRecord}
    (found : house.keys.getById changed.id = some stored)
    (same : stored.lookupPrefix = changed.lookupPrefix)
    (within : changed.isRevoked = false → changed.display = false → Within house.users changed) :
    Bounded { house with keys := house.keys.update changed } := by
  refine ⟨ApiKeyStore.update_sound bounded.sound found same, ?_, bounded.truthful⟩
  intro text key held alive isPerson
  rw [ApiKeyStore.rows_update] at held
  split at held
  next =>
    cases held
    exact within alive isPerson
  next => exact bounded.within text key held alive isPerson

theorem Bounded.create (bounded : Bounded house) {record : ApiKeyRecord}
    (free : house.keys.rows[record.lookupPrefix]? = none)
    (fresh : house.keys.list.all (·.id ≠ record.id) = true)
    (within : record.display = false → Within house.users record) :
    Bounded { house with keys := house.keys.create record } := by
  have unknown : ∀ (key : String) other, house.keys.rows[key]? = some other → other.id ≠ record.id := by
    intro key other stored
    simpa using List.all_eq_true.mp fresh other (Indexed.Table.mem_list.mpr ⟨key, stored⟩)
  refine ⟨ApiKeyStore.create_sound bounded.sound free unknown, ?_, bounded.truthful⟩
  intro text key held alive isPerson
  rw [ApiKeyStore.rows_create] at held
  split at held
  next =>
    cases held
    exact within isPerson
  next => exact bounded.within text key held alive isPerson

theorem createApiKey_bounded (bounded : Bounded house)
    (authorised : house.requireAuth checks caller = .ok claims) {body : CreateApiKeyRequest}
    {drawn : List NewApiKey} {issued : IssuedKey} (fresh : house.keys.list.all (·.id ≠ id) = true)
    (made : house.createApiKey checks claims body id drawn = .ok (next, issued)) : Bounded next := by
  simp only [createApiKey, bind_ok, pure_ok, refuseIf_ok, require_ok, Prod.mk.injEq] at made
  obtain ⟨_, _, _, _, owner, _, _, _, allowed, allows, scopes, taken, cidrs, _, secret, generated,
    rfl, _⟩ := made
  obtain ⟨user, found, subset⟩ := allowedScopes_subset bounded authorised allows
  exact bounded.create (ApiKeyStore.generate_free generated) fresh fun _ =>
    ⟨user, found, List.Subset.trans (scopesWithin_ok taken) subset⟩

theorem createDisplay_bounded (bounded : Bounded house) {name : String} {drawn : List NewApiKey}
    {issued : IssuedKey} (fresh : house.keys.list.all (·.id ≠ id) = true)
    (made : house.createDisplay claims name id drawn = .ok (next, issued)) : Bounded next := by
  simp only [createDisplay, bind_ok, pure_ok, refuseIf_ok, require_ok, Prod.mk.injEq] at made
  obtain ⟨_, _, _, _, secret, generated, rfl, _⟩ := made
  have absent := List.find?_some generated
  rw [Bool.not_eq_true'] at absent
  exact bounded.create (ApiKeyStore.prefixExists_eq_false absent) fresh fun isPerson => by cases isPerson

theorem managed_ok {verb : String} {record : ApiKeyRecord}
    (may : house.managed claims id verb = .ok record) : house.keys.getById id = some record := by
  simp only [managed, bind_ok, pure_ok, require_ok] at may
  obtain ⟨_, _, found, isFound, _, _, rfl⟩ := may
  exact isFound

theorem revoke_bounded (bounded : Bounded house) (id : Uuid) :
    Bounded { house with keys := house.keys.revoke id house.now } := by
  unfold ApiKeyStore.revoke
  cases found : house.keys.getById id with
  | none => exact bounded
  | some record =>
    by_cases isRevoked : record.revokedAt.isSome = true
    · simp only [isRevoked, if_true]
      exact bounded
    · simp only [isRevoked, Bool.false_eq_true, if_false]
      obtain ⟨_, isId⟩ := bounded.sound.of_getById found
      subst isId
      have foundRevoked : house.keys.getById (record.revoked house.now).id = some record := found
      exact bounded.update foundRevoked rfl fun alive => by cases alive

theorem touch_bounded (bounded : Bounded house) (id : Uuid) :
    Bounded { house with keys := house.keys.touchLastUsed id house.now } := by
  unfold ApiKeyStore.touchLastUsed
  cases found : house.keys.getById id with
  | none => exact bounded
  | some record =>
    obtain ⟨stored, isId⟩ := bounded.sound.of_getById found
    subst isId
    have foundTouched : house.keys.getById (record.touched house.now).id = some record := found
    exact bounded.update foundTouched rfl fun alive isPerson =>
      bounded.within _ record stored alive isPerson

theorem updateApiKey_bounded (bounded : Bounded house) {body : UpdateApiKeyRequest}
    {record : ApiKeyRecord} (made : house.updateApiKey checks claims id body = .ok (next, record)) :
    Bounded next := by
  simp only [updateApiKey, bind_ok, pure_ok, Prod.mk.injEq] at made
  obtain ⟨key, may, label, _, scopes, taken, cidrs, _, rfl, _⟩ := made
  obtain ⟨stored, isId⟩ := bounded.sound.of_getById (managed_ok may)
  have found := managed_ok may
  subst isId
  refine bounded.update (by exact found) (by rfl) fun alive isPerson => ?_
  rcases optional_ok.mp taken with ⟨_, rfl⟩ | ⟨wanted, given, _, rfl, checked⟩
  · exact bounded.within _ key stored alive isPerson
  · simp only [newScopes, bind_ok, require_ok] at checked
    obtain ⟨user, foundUser, within⟩ := checked
    exact ⟨user, foundUser, List.Subset.trans (scopesWithin_ok within) (grantable_subset claims _)⟩

/-- A rotation leaves the key's scopes; it is the one request that makes a revoked key
usable again. -/
theorem rotateApiKey_bounded (bounded : Bounded house) {drawn : List NewApiKey} {issued : IssuedKey}
    (made : house.rotateApiKey claims id drawn = .ok (next, issued))
    (careful : ∀ key, house.managed claims id "rotate" = .ok key →
      (key.display || !key.isRevoked || ranksWithin house.users key) = true) : Bounded next := by
  simp only [rotateApiKey, bind_ok, pure_ok, require_ok, Prod.mk.injEq] at made
  obtain ⟨key, may, secret, generated, rotated, _, rfl, _⟩ := made
  have found := managed_ok may
  obtain ⟨stored, isId⟩ := bounded.sound.of_getById found
  subst isId
  simp only [ApiKeyStore.replaceSecret, found]
  refine ⟨ApiKeyStore.replaceWrite_sound bounded.sound found rfl (ApiKeyStore.generate_free generated),
    ?_, bounded.truthful⟩
  intro text other held alive isPerson
  simp only [ApiKeyStore.rows_replaceWrite] at held
  split at held
  next =>
    cases held
    have wasPerson : key.display = false := isPerson
    have allowed := careful key may
    rw [wasPerson, Bool.false_or, Bool.or_eq_true, Bool.not_eq_true'] at allowed
    rcases allowed with wasAlive | ranks
    · exact bounded.within _ key stored wasAlive wasPerson
    · exact ranksWithin_within ranks
  next =>
    split at held
    next => cases held
    next => exact bounded.within text other held alive isPerson

/-- The keys follow a change of one account that makes its tokens void, or removes it. -/
theorem Bounded.bringKeysWithin (bounded : Bounded house) {users : UserStore} {role : Option Role}
    (others : ∀ uid, uid ≠ id → users.getUserById uid = house.users.getUserById uid)
    (present : role.isSome = true → (users.getUserById id).isSome = true)
    (own : ∀ user, users.getUserById id = some user → role = some user.role ∧
      ∃ old, house.users.getUserById id = some old ∧ old.tokenVersion < user.tokenVersion) :
    Bounded { house with
      users := users
      keys := house.keys.bringKeysWithin house.now id role } := by
  obtain ⟨sound, origins⟩ := ApiKeyStore.bringKeysWithin_spec bounded.sound house.now id role
  refine ⟨sound, ?_, ?_⟩
  · intro text key held alive isPerson
    obtain ⟨before, stored, wasAlive, wasPerson, origin⟩ := origins text key held alive isPerson
    rcases origin with ⟨isOther, rfl⟩ | ⟨owned, rfl⟩
    · obtain ⟨user, found, subset⟩ := bounded.within text key stored wasAlive wasPerson
      exact ⟨user, (others _ isOther).trans found, subset⟩
    · cases role with
      | none => cases alive
      | some role =>
        obtain ⟨user, found⟩ := Option.isSome_iff_exists.mp (present rfl)
        have isRole := Option.some.inj (own user found).1
        refine ⟨user, (congrArg users.getUserById owned).trans found, ?_⟩
        intro scope member
        rw [← isRole]
        simpa using (List.mem_filter.mp member).2
  · intro claims member
    obtain ⟨uid, username, isUser, scopes⟩ := bounded.truthful claims member
    refine ⟨uid, username, isUser, ?_⟩
    intro user found
    by_cases same : uid = id
    · -- the version went up, so no token from before is of the current one
      rw [same] at found scopes
      obtain ⟨_, old, wasThere, older⟩ := own user found
      have below := Nat.lt_of_le_of_lt (scopes old wasThere).1 older
      exact ⟨Nat.le_of_lt below, fun current => absurd current (Nat.ne_of_lt below)⟩
    · rw [others uid same] at found
      exact scopes user found

theorem setUserRole_bounded (bounded : Bounded house) {role : Role} {user : User}
    (made : house.setUserRole claims id role = .ok (next, user)) : Bounded next := by
  simp only [setUserRole, bind_ok, refuseIf_ok, require_ok] at made
  obtain ⟨_, _, old, found, made⟩ := made
  split at made
  next =>
    cases made
    exact bounded
  next =>
    simp only [bind_ok, pure_ok, Prod.mk.injEq] at made
    obtain ⟨_, _, rfl, _⟩ := made
    have isId := UserStore.getUserById_id found
    subst isId
    refine bounded.bringKeysWithin ?_ ?_ ?_
    · intro uid isOther
      rw [UserStore.getUserById_updateUser, if_neg fun same => isOther same.symm]
    · intro _
      rw [UserStore.getUserById_updateUser, if_pos rfl, Option.isSome_some]
    · intro user updated
      rw [UserStore.getUserById_updateUser, if_pos rfl] at updated
      cases updated
      exact ⟨rfl, old, found, Nat.lt_succ_self _⟩

theorem deleteUser_bounded (bounded : Bounded house)
    (made : house.deleteUser claims id = .ok next) : Bounded next := by
  simp only [deleteUser, bind_ok, pure_ok, refuseIf_ok, require_ok] at made
  obtain ⟨_, _, _, _, _, _, old, found, rfl⟩ := made
  refine bounded.bringKeysWithin ?_ ?_ ?_
  · intro uid isOther
    rw [UserStore.getUserById_deleteUser, if_neg fun same => isOther same.symm]
  · intro isSome
    cases isSome
  · intro user updated
    rw [UserStore.getUserById_deleteUser, if_pos rfl] at updated
    cases updated

/-! ## Every run -/

theorem signIn_bounded (bounded : Bounded house) (lifetime : Nat) (sid : Option Uuid) :
    Bounded (house.signIn id lifetime sid) := by
  unfold signIn
  cases found : house.users.getUserById id with
  | none => exact bounded
  | some user =>
    refine ⟨bounded.sound, bounded.within, ?_⟩
    intro claims member
    rcases List.mem_cons.mp member with rfl | earlier
    · refine ⟨user.id, user.username, rfl, ?_⟩
      intro other also
      rw [UserStore.getUserById_id found, found] at also
      cases also
      exact ⟨Nat.le_refl _, fun _ => rfl⟩
    · exact bounded.truthful claims earlier

theorem addUser_bounded (bounded : Bounded house) {user : User}
    (unknown : (house.users.getUserById user.id).isNone = true)
    (unused : house.minted.all (fun claims => claims.actor.effectiveUid ≠ some user.id) = true) :
    Bounded { house with users := house.users.updateUser user } := by
  rw [Option.isNone_iff_eq_none] at unknown
  refine ⟨bounded.sound, ?_, ?_⟩
  · intro text key held alive isPerson
    obtain ⟨owner, found, subset⟩ := bounded.within text key held alive isPerson
    refine ⟨owner, ?_, subset⟩
    rw [UserStore.getUserById_updateUser, if_neg]
    · exact found
    · intro same
      rw [same, found] at unknown
      cases unknown
  · intro claims member
    obtain ⟨uid, username, isUser, scopes⟩ := bounded.truthful claims member
    refine ⟨uid, username, isUser, ?_⟩
    intro other found
    rw [UserStore.getUserById_updateUser, if_neg] at found
    · exact scopes other found
    · intro same
      have isOther := of_decide_eq_true (List.all_eq_true.mp unused claims member)
      rw [isUser] at isOther
      exact isOther (congrArg some same.symm)

/-- A request is refused, or made with the claims that its caller stands for. -/
theorem after_cases (checks : KeyChecks) (house : KeyHouse) (caller : Caller)
    (request : Claims → Except String KeyHouse) :
    house.after checks caller request = house ∨
      ∃ claims, house.requireAuth checks caller = .ok claims ∧
        request claims = .ok (house.after checks caller request) := by
  unfold after
  cases made : house.requireAuth checks caller >>= request with
  | error message => exact .inl rfl
  | ok next => exact .inr (bind_ok.mp made)

theorem after_bounded (bounded : Bounded house) {request : Claims → Except String KeyHouse}
    (keeps : ∀ claims next, house.requireAuth checks caller = .ok claims → request claims = .ok next →
      Bounded next) : Bounded (house.after checks caller request) := by
  rcases after_cases checks house caller request with same | ⟨claims, authorised, made⟩
  · rw [same]
    exact bounded
  · exact keeps claims _ authorised made

theorem step_bounded (bounded : Bounded house) (input : KeyHouseInput)
    (fresh : house.freshId input = true) (careful : house.rotatesWithin checks input = true) :
    Bounded (house.step checks input) := by
  cases input with
  | tick nanos => exact ⟨bounded.sound, bounded.within, bounded.truthful⟩
  | endSession sid => exact ⟨bounded.sound, bounded.within, bounded.truthful⟩
  | addUser id username passwordHash role =>
    simp only [freshId, Bool.and_eq_true] at fresh
    exact addUser_bounded bounded fresh.1 fresh.2
  | signIn userId lifetime sid => exact signIn_bounded bounded lifetime sid
  | touch id => exact touch_bounded bounded id
  | create caller body id drawn =>
    refine after_bounded bounded fun claims next authorised made => ?_
    obtain ⟨⟨_, issued⟩, succeeds, rfl⟩ := map_ok.mp made
    exact createApiKey_bounded bounded authorised fresh succeeds
  | createDisplay caller name id drawn =>
    refine after_bounded bounded fun claims next _ made => ?_
    obtain ⟨⟨_, issued⟩, succeeds, rfl⟩ := map_ok.mp made
    exact createDisplay_bounded bounded fresh succeeds
  | update caller id body =>
    refine after_bounded bounded fun claims next _ made => ?_
    obtain ⟨⟨_, record⟩, succeeds, rfl⟩ := map_ok.mp made
    exact updateApiKey_bounded bounded succeeds
  | revoke caller id =>
    refine after_bounded bounded fun claims next _ made => ?_
    simp only [revokeApiKey, bind_ok, pure_ok] at made
    obtain ⟨_, _, rfl⟩ := made
    exact revoke_bounded bounded id
  | rotate caller id drawn =>
    refine after_bounded bounded fun claims next authorised made => ?_
    obtain ⟨⟨_, issued⟩, succeeds, rfl⟩ := map_ok.mp made
    refine rotateApiKey_bounded bounded succeeds fun key may => ?_
    have both : (house.requireAuth checks caller >>= fun claims => house.managed claims id "rotate") =
        .ok key := bind_ok.mpr ⟨claims, authorised, may⟩
    simp only [rotatesWithin, both] at careful
    exact careful
  | setRole caller id role =>
    refine after_bounded bounded fun claims next _ made => ?_
    obtain ⟨⟨_, user⟩, succeeds, rfl⟩ := map_ok.mp made
    exact setUserRole_bounded bounded succeeds
  | deleteUser caller id =>
    exact after_bounded bounded fun claims next _ made => deleteUser_bounded bounded made

theorem Bounded.noneOutranks (bounded : Bounded house) : NoneOutranks house := by
  intro key member usable isPerson
  obtain ⟨text, stored⟩ := Indexed.Table.mem_list.mp member
  simp only [ApiKeyRecord.isUsable, Bool.and_eq_true, Bool.not_eq_true'] at usable
  exact bounded.within text key stored usable.1 isPerson

/-- In every run whose rotations bring back only keys within their owners' roles, no key
outranks its owner. -/
theorem no_key_outranks_its_owner (checks : KeyChecks) (now : DateTime) (inputs : List KeyHouseInput)
    (fresh : Runs.EachStep (step checks) (fun house input => house.freshId input = true) (start now)
      inputs)
    (careful : Runs.EachStep (step checks) (fun house input => house.rotatesWithin checks input = true)
      (start now) inputs) :
    Runs.Always (step checks) NoneOutranks (start now) inputs := by
  have begun : Bounded (start now) :=
    ⟨Indexed.Table.empty_sound, fun text key held => by simp [start, Indexed.Table.empty] at held,
      fun claims member => (List.not_mem_nil member).elim⟩
  have always : Runs.Always (step checks) Bounded (start now) inputs :=
    Runs.invariant Bounded (fun house input bounded safe => step_bounded bounded input safe.1 safe.2)
      begun (fresh.and careful)
  exact always.mono fun house bounded => bounded.noneOutranks

def scriptSecret : NewApiKey := ⟨"hc_sk_script-key-abcdef", "script-key-a", "hash of hc_sk_script-key-abcdef"⟩

def rotatedSecret : NewApiKey := ⟨"hc_sk_script-key-bcdefg", "script-key-b", "hash of hc_sk_script-key-bcdefg"⟩

def bobsRequest : CreateApiKeyRequest where
  label := "script"
  scopes := ["devices:read", "automations:write"]

/-- What bob's token of one hour carries. -/
def bobAs (role : Role) (version : Nat) : Caller :=
  .person ⟨some 3600, role, role.scopes, .user ⟨2⟩ "bob", version, none⟩

/-- Bob makes a key and revokes it. -/
def bobsDormantKey : List KeyHouseInput :=
  [.addUser ⟨1⟩ "ada" "hash" .admin, .addUser ⟨2⟩ "bob" "hash" .user, .signIn ⟨2⟩ 3600 none,
    .create (bobAs .user 0) bobsRequest ⟨5⟩ [scriptSecret], .revoke (bobAs .user 0) ⟨5⟩]

/-- The key is rotated before bob's role is lowered. -/
def rotatedThenDemoted : List KeyHouseInput :=
  bobsDormantKey ++ [.rotate (bobAs .user 0) ⟨5⟩ [rotatedSecret], .setRole (.localAdmin none) ⟨2⟩ .readOnly]

theorem bobs_key_within_role :
    Runs.Always (step plainChecks) NoneOutranks (start 0) rotatedThenDemoted ∧
      ((rotatedThenDemoted.foldl (step plainChecks) (start 0)).keys.list.map fun key =>
        (key.scopes, key.isUsable 0)) = [(["devices:read"], true)] := by
  refine ⟨no_key_outranks_its_owner plainChecks 0 rotatedThenDemoted ?_ ?_, ?_⟩
  all_goals decide

/-- The key is passed over when bob's role is lowered, and bob then rotates it. -/
def demotedThenRotated : List KeyHouseInput :=
  bobsDormantKey ++ [.setRole (.localAdmin none) ⟨2⟩ .readOnly, .signIn ⟨2⟩ 3600 none,
    .rotate (bobAs .readOnly 1) ⟨5⟩ [rotatedSecret]]

def afterDemotedThenRotated : KeyHouse := demotedThenRotated.foldl (step plainChecks) (start 0)

/-- The key as the rotation leaves it. -/
def bobsRotatedKey : ApiKeyRecord where
  id := ⟨5⟩
  lookupPrefix := "script-key-b"
  hash := "hash of hc_sk_script-key-bcdefg"
  ownerUid := ⟨2⟩
  scopes := ["devices:read", "automations:write"]
  label := "script"
  createdAt := 0
  lastUsedAt := none
  expiresAt := none
  allowedCidrs := []
  revokedAt := none
  display := false

theorem bobs_key_outranks_bob :
    ¬ Runs.Always (step plainChecks) NoneOutranks (start 0) demotedThenRotated := by
  intro always
  have outranked : NoneOutranks afterDemotedThenRotated := always.last
  obtain ⟨user, found, subset⟩ := outranked bobsRotatedKey (by decide) (by decide) rfl
  have isReadOnly : (afterDemotedThenRotated.users.getUserById ⟨2⟩).any (·.role = .readOnly) = true := by
    decide
  rw [show afterDemotedThenRotated.users.getUserById ⟨2⟩ = some user from found, Option.any_some,
    decide_eq_true_eq] at isReadOnly
  have held : "automations:write" ∈ user.role.scopes := subset (by decide)
  rw [isReadOnly] at held
  exact absurd held (by decide)

end KeyHouse
end HomeCore
