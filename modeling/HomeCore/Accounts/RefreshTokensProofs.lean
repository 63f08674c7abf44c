import HomeCore.Accounts.RefreshTokens
import HomeCore.Types.UuidText

/-! What the operations of the token table do to its rows. -/
namespace HomeCore

namespace RefreshTokenStore

variable {store before middle after : RefreshTokenStore} {record old : RefreshTokenRecord}
  {key : String} {id : Uuid} {now : DateTime}

theorem Sound.getById_eq (sound : store.Sound) (stored : store.rows[key]? = some record) :
    store.getById record.id = some record :=
  Indexed.Table.Sound.find_of_mem sound stored

theorem Sound.of_getById (sound : store.Sound) (found : store.getById id = some record) :
    store.rows[record.lookupPrefix]? = some record ∧ record.id = id := by
  obtain ⟨stored, named⟩ := Indexed.Table.Sound.of_find sound found
  exact ⟨stored, Uuid.text_injective named⟩

theorem rows_update (store : RefreshTokenStore) (record : RefreshTokenRecord) (key : String) :
    (store.update record).rows[key]? =
      if record.lookupPrefix = key then some record else store.rows[key]? :=
  Indexed.Table.rows_write store record.lookupPrefix key record

theorem rows_create (store : RefreshTokenStore) (record : RefreshTokenRecord) (key : String) :
    (store.create record).rows[key]? =
      if record.lookupPrefix = key then some record else store.rows[key]? :=
  Indexed.Table.rows_create store record.lookupPrefix key record.id.text record

theorem Sound.stored_at (sound : store.Sound) (stored : store.rows[key]? = some record) :
    store.rows[record.lookupPrefix]? = some record := by
  rw [sound.keyed key record stored]
  exact stored

/-- A token is stored under a prefix and an id that no stored token has. -/
theorem create_sound (sound : store.Sound) (free : store.rows[record.lookupPrefix]? = none)
    (unknown : ∀ (key : String) other, store.rows[key]? = some other → other.id ≠ record.id) :
    (store.create record).Sound :=
  Indexed.Table.Sound.create sound free fun key other stored named =>
    unknown key other stored (Uuid.text_injective named)

/-- Tokens were revoked, at `now`, and nothing else. -/
def Revokes (now : DateTime) (before after : RefreshTokenStore) : Prop :=
  ∀ key : String, after.rows[key]? = before.rows[key]? ∨
    ∃ record, before.rows[key]? = some record ∧ record.revokedAt = none ∧
      after.rows[key]? = some (record.revoked now)

theorem Revokes.refl (store : RefreshTokenStore) : Revokes now store store := fun _ => .inl rfl

theorem Revokes.trans (first : Revokes now before middle) (second : Revokes now middle after) :
    Revokes now before after := by
  intro key
  rcases second key with same | ⟨record, there, unrevoked, revoked⟩
  · rw [same]
    exact first key
  · rcases first key with same | ⟨older, _, _, already⟩
    · rw [same] at there
      exact .inr ⟨record, there, unrevoked, revoked⟩
    · rw [already] at there
      cases there
      cases unrevoked

/-- Each token that is there was there before, and is as it was or newly revoked. -/
theorem Revokes.origin (revokes : Revokes now before after) (found : after.rows[key]? = some record) :
    ∃ old, before.rows[key]? = some old ∧
      (record = old ∨ old.revokedAt = none ∧ record = old.revoked now) := by
  rcases revokes key with same | ⟨old, there, unrevoked, revoked⟩
  · exact ⟨record, same ▸ found, .inl rfl⟩
  · rw [revoked] at found
    cases found
    exact ⟨old, there, .inr ⟨unrevoked, rfl⟩⟩

theorem revoke_revokes (sound : store.Sound) (id : Uuid) (now : DateTime) :
    (store.revoke id now).Sound ∧ Revokes now store (store.revoke id now) := by
  cases found : store.getById id with
  | none =>
    rw [revoke, found]
    exact ⟨sound, .refl store⟩
  | some record =>
    obtain ⟨stored, _⟩ := sound.of_getById found
    cases unrevoked : record.revokedAt with
    | some earlier =>
      simp only [revoke, found, unrevoked, Option.isSome_some, if_true]
      exact ⟨sound, .refl store⟩
    | none =>
      simp only [revoke, found, unrevoked, Option.isSome_none, Bool.false_eq_true, if_false]
      refine ⟨Indexed.Table.Sound.write sound stored rfl, ?_⟩
      intro key
      rw [rows_update]
      split
      next here => exact .inr ⟨record, here ▸ stored, unrevoked, rfl⟩
      next => exact .inl rfl

theorem revoke_row (sound : store.Sound) (stored : store.rows[key]? = some record) (now : DateTime) :
    ∃ revoked, (store.revoke record.id now).rows[key]? = some (record.revoked revoked) := by
  cases isRevoked : record.revokedAt with
  | some earlier =>
    refine ⟨earlier, ?_⟩
    simp only [revoke, sound.getById_eq stored, isRevoked, Option.isSome_some, if_true]
    rw [stored, RefreshTokenRecord.revoked, ← isRevoked]
  | none =>
    refine ⟨now, ?_⟩
    simp only [revoke, sound.getById_eq stored, isRevoked, Option.isSome_none, Bool.false_eq_true,
      if_false]
    rw [rows_update]
    exact if_pos (sound.keyed key record stored)

theorem revokeChain_revokes (sound : store.Sound) (id : Uuid) (now : DateTime) :
    (store.revokeChain id now).Sound ∧ Revokes now store (store.revokeChain id now) := by
  have run : ∀ (ids : List Uuid) (store : RefreshTokenStore), store.Sound →
      (ids.foldl (fun store id => store.revoke id now) store).Sound ∧
        Revokes now store (ids.foldl (fun store id => store.revoke id now) store) := by
    intro ids
    induction ids with
    | nil => exact fun store sound => ⟨sound, .refl store⟩
    | cons id rest ih =>
      intro store sound
      obtain ⟨kept, first⟩ := revoke_revokes sound id now
      obtain ⟨stillSound, others⟩ := ih (store.revoke id now) kept
      exact ⟨stillSound, first.trans others⟩
  exact run (store.chain id) store sound

/-- A revocation changes the token it names, if that was not revoked before, and no other. -/
theorem rows_revoke (sound : store.Sound) (id : Uuid) (now : DateTime) (key : String) :
    (store.revoke id now).rows[key]? = store.rows[key]?.map fun record =>
      if record.id = id ∧ record.revokedAt = none then record.revoked now else record := by
  cases found : store.getById id with
  | none =>
    rw [revoke, found]
    cases stored : store.rows[key]? with
    | none => rfl
    | some record =>
      rw [Option.map_some, if_neg]
      rintro ⟨rfl, _⟩
      rw [sound.getById_eq stored] at found
      cases found
  | some named =>
    obtain ⟨there, rfl⟩ := sound.of_getById found
    by_cases here : named.lookupPrefix = key
    · subst here
      rw [there, Option.map_some]
      cases isRevoked : named.revokedAt with
      | some earlier =>
        simp only [revoke, found, isRevoked, Option.isSome_some, if_true]
        rw [there, if_neg fun both => by cases both.2]
      | none =>
        simp only [revoke, found, isRevoked, Option.isSome_none, Bool.false_eq_true, if_false]
        rw [rows_update, RefreshTokenRecord.revoked, if_pos rfl, if_pos ⟨trivial, trivial⟩]
    · have unchanged : (store.revoke named.id now).rows[key]? = store.rows[key]? := by
        rw [revoke, found]
        dsimp only
        split
        · rfl
        · rw [rows_update]
          exact if_neg here
      rw [unchanged]
      cases stored : store.rows[key]? with
      | none => rfl
      | some record =>
        rw [Option.map_some, if_neg]
        rintro ⟨same, _⟩
        have known := sound.getById_eq stored
        rw [same, found] at known
        cases known
        exact here (sound.keyed key named stored)

theorem index_revoke (store : RefreshTokenStore) (id : Uuid) (now : DateTime) :
    (store.revoke id now).index = store.index := by
  rw [revoke]
  cases store.getById id with
  | none => rfl
  | some record =>
    dsimp only
    split <;> rfl

/-- Of the tokens of a chain those that were not revoked are, and no other token changes. -/
theorem rows_revokeChain (sound : store.Sound) (id : Uuid) (now : DateTime) (key : String) :
    (store.revokeChain id now).rows[key]? = store.rows[key]?.map fun record =>
      if record.id ∈ store.chain id ∧ record.revokedAt = none then record.revoked now else record := by
  have run : ∀ (ids : List Uuid) (store : RefreshTokenStore), store.Sound →
      (ids.foldl (fun store id => store.revoke id now) store).rows[key]? =
        store.rows[key]?.map fun record =>
          if record.id ∈ ids ∧ record.revokedAt = none then record.revoked now else record := by
    intro ids
    induction ids with
    | nil =>
      intro store _
      cases stored : store.rows[key]? with
      | none => simp [stored]
      | some record => simp [stored]
    | cons first rest ih =>
      intro store sound
      rw [List.foldl_cons, ih _ (revoke_revokes sound first now).1, rows_revoke sound, Option.map_map]
      congr 1
      funext record
      rw [Function.comp_apply]
      by_cases unrevoked : record.revokedAt = none
      · by_cases same : record.id = first
        · simp [same, unrevoked, RefreshTokenRecord.revoked]
        · simp [same, unrevoked]
      · simp [unrevoked]
  exact run (store.chain id) store sound

theorem index_revokeChain (store : RefreshTokenStore) (id : Uuid) (now : DateTime) :
    (store.revokeChain id now).index = store.index := by
  unfold revokeChain
  generalize store.chain id = ids
  induction ids generalizing store with
  | nil => rfl
  | cons first rest ih => rw [List.foldl_cons, ih, index_revoke]

theorem markUsed_eq (sound : store.Sound) (stored : store.rows[key]? = some record) :
    store.markUsed record.id now = store.update (record.used now) := by
  rw [markUsed, sound.getById_eq stored]

theorem markUsed_sound (sound : store.Sound) (stored : store.rows[key]? = some record) :
    (store.update (record.used now)).Sound := by
  have there : store.rows[(record.used now).lookupPrefix]? = some record := sound.stored_at stored
  exact Indexed.Table.Sound.write sound there rfl

theorem prune_rows (sound : store.Sound) (now : DateTime) :
    (store.prune now).Sound ∧ ∀ (key : String) (record : RefreshTokenRecord),
      (store.prune now).rows[key]? = some record ↔ store.rows[key]? = some record ∧
        ¬ (record.retired = true ∧ record.expiresAt ≤ now) := by
  have doomedRows : ∀ record ∈ store.list.filter fun record =>
      record.retired && record.expiresAt ≤ now,
      store.rows[record.lookupPrefix]? = some record ∧ record.retired = true ∧
        record.expiresAt ≤ now := by
    intro record member
    obtain ⟨listed, chosen⟩ := List.mem_filter.mp member
    obtain ⟨key, stored⟩ := Indexed.Table.mem_list.mp listed
    rw [sound.keyed key record stored]
    exact ⟨stored, by simpa using chosen⟩
  obtain ⟨kept, rows⟩ := Indexed.Table.Sound.removeAll sound _ fun record member =>
    sound.placed (doomedRows record member).1
  refine ⟨kept, ?_⟩
  intro key record
  rw [prune, rows key]
  constructor
  · intro found
    split at found
    next => cases found
    next spared =>
      refine ⟨found, fun doomed => spared ?_⟩
      refine List.mem_map.mpr ⟨record, List.mem_filter.mpr ⟨?_, by simpa using doomed⟩, ?_⟩
      · exact Indexed.Table.mem_list.mpr ⟨key, found⟩
      · exact sound.keyed key record found
  · rintro ⟨stored, spared⟩
    rw [if_neg]
    · exact stored
    · intro member
      obtain ⟨other, doomed, here⟩ := List.mem_map.mp member
      obtain ⟨there, chosen⟩ := doomedRows other doomed
      rw [here, stored] at there
      cases there
      exact spared chosen

theorem generate_free {drawn : List NewRefreshToken} {token : NewRefreshToken}
    (generated : store.generate drawn = some token) : store.rows[token.lookupPrefix]? = none := by
  have free := List.find?_some generated
  rw [Bool.not_eq_true', prefixExists, Option.isSome_eq_false_iff,
    Option.isNone_iff_eq_none] at free
  exact free

end RefreshTokenStore

end HomeCore
