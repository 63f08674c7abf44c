import HomeCore.Accounts.TokenChains
import HomeCore.Accounts.RefreshTokensProofs

/-! Chains of refresh tokens are revoked whole. A token is pruned no later than those that
descend from it, so what is left of a chain is its end, linked as it was. -/
namespace HomeCore
namespace RefreshTokenStore
variable {store : RefreshTokenStore} {record other : RefreshTokenRecord} {id : Uuid} {now : DateTime}
  {up ids found : List Uuid} {all : List RefreshTokenRecord}

/-! ## Tokens by their ids -/

theorem getById_iff (sound : store.Sound) :
    store.getById id = some record ↔ store.rows[record.lookupPrefix]? = some record ∧ record.id = id := by
  constructor
  · exact sound.of_getById
  · rintro ⟨stored, rfl⟩
    exact sound.getById_eq stored

theorem mem_listByUser (sound : store.Sound) {userId : Uuid} :
    record ∈ store.listByUser userId ↔ store.getById record.id = some record ∧ record.userId = userId := by
  rw [listByUser, List.mem_insertionSort, List.mem_filter, decide_eq_true_eq, Indexed.Table.mem_list]
  refine and_congr_left fun _ => ⟨?_, fun known => ⟨_, (sound.of_getById known).1⟩⟩
  rintro ⟨key, stored⟩
  exact sound.getById_eq stored

theorem getById_revoke (sound : store.Sound) (named : Uuid) (now : DateTime) (id : Uuid) :
    (store.revoke named now).getById id = (store.getById id).map fun record =>
      if record.id = named ∧ record.revokedAt = none then record.revoked now else record := by
  rw [getById, getById, Indexed.Table.find, Indexed.Table.find, index_revoke]
  cases store.index[id.text]? with
  | none => rfl
  | some key => exact rows_revoke sound named now key

theorem getById_revokeChain (sound : store.Sound) (named : Uuid) (now : DateTime) (id : Uuid) :
    (store.revokeChain named now).getById id = (store.getById id).map fun record =>
      if record.id ∈ store.chain named ∧ record.revokedAt = none then record.revoked now
      else record := by
  rw [getById, getById, Indexed.Table.find, Indexed.Table.find, index_revokeChain]
  cases store.index[id.text]? with
  | none => rfl
  | some key => exact rows_revokeChain sound named now key

theorem getById_markUsed (sound : store.Sound) (known : store.getById record.id = some record)
    (now : DateTime) (id : Uuid) : (store.markUsed record.id now).getById id =
      (store.getById id).map fun old => if old.id = record.id then record.used now else old := by
  have stored := (sound.of_getById known).1
  rw [markUsed_eq sound stored]
  cases before : store.getById id with
  | none =>
    cases after : (store.update (record.used now)).getById id with
    | none => rfl
    | some late =>
      obtain ⟨there, rfl⟩ := (getById_iff (markUsed_sound sound stored)).mp after
      rw [rows_update] at there
      split at there
      · next same =>
        cases there
        change store.getById record.id = none at before
        rw [known] at before
        cases before
      · rw [sound.getById_eq there] at before
        cases before
  | some old =>
    obtain ⟨there, rfl⟩ := sound.of_getById before
    rw [Option.map_some, getById_iff (markUsed_sound sound stored), rows_update]
    split
    · next same =>
      exact ⟨if_pos rfl, same.symm⟩
    · next other =>
      refine ⟨?_, rfl⟩
      rw [if_neg]
      · exact there
      · intro same
        change record.lookupPrefix = old.lookupPrefix at same
        rw [same, there] at stored
        cases stored
        exact other rfl

theorem getById_create (sound : store.Sound) (free : store.rows[record.lookupPrefix]? = none)
    (unknown : store.getById record.id = none) (id : Uuid) :
    (store.create record).getById id = if record.id = id then some record else store.getById id := by
  have apart : ∀ (key : String) other, store.rows[key]? = some other → other.id ≠ record.id := by
    intro key other stored same
    have known := sound.getById_eq stored
    rw [same, unknown] at known
    cases known
  have kept := create_sound sound free apart
  by_cases named : record.id = id
  · rw [if_pos named, getById_iff kept, rows_create, if_pos rfl]
    exact ⟨rfl, named⟩
  · rw [if_neg named]
    ext other
    rw [getById_iff kept, getById_iff sound, rows_create]
    refine and_congr_left fun isOther => ?_
    split
    · next here =>
      rw [← here, free]
      refine iff_of_false ?_ (by rintro ⟨⟩)
      intro same
      cases same
      exact named isOther
    · exact Iff.rfl

theorem getById_prune (sound : store.Sound) (now : DateTime) (id : Uuid) :
    (store.prune now).getById id =
      (store.getById id).filter fun record => !(record.retired && record.expiresAt ≤ now) := by
  obtain ⟨kept, rows⟩ := prune_rows sound now
  ext record
  rw [getById_iff kept, rows, Option.filter_eq_some_iff, getById_iff sound, Bool.not_eq_true',
    ← Bool.not_eq_true, Bool.and_eq_true, decide_eq_true_eq]
  exact and_right_comm

/-! ## The loops -/

theorem ancestors_eq {fuel : Nat} {cursor : Option Uuid} (walks : store.WalksUp cursor up)
    (enough : up.length ≤ fuel) : store.ancestors fuel cursor = up := by
  induction walks generalizing fuel with
  | top => cases fuel <;> rfl
  | gone missing =>
    cases fuel with
    | zero => rfl
    | succ fuel => rw [ancestors, missing]
  | @up id record ids known walks ih =>
    cases fuel with
    | zero => exact absurd enough (Nat.not_succ_le_zero _)
    | succ fuel =>
      rw [ancestors, known]
      exact congrArg _ (ih (Nat.le_of_succ_le_succ enough))

/-- One token looked at in a pass. -/
theorem addChildren_cons (record : RefreshTokenRecord) (all : List RefreshTokenRecord)
    (found : List Uuid) : addChildren (record :: all) found =
      addChildren all (if record.id ∈ found then found
        else if record.parentId.any (· ∈ found) then found ++ [record.id] else found) := rfl

theorem subset_addChildren (all : List RefreshTokenRecord) (found : List Uuid) :
    found ⊆ addChildren all found := by
  induction all generalizing found with
  | nil => exact List.Subset.refl found
  | cons record rest ih =>
    rw [addChildren_cons]
    refine List.Subset.trans ?_ (ih _)
    split
    · exact List.Subset.refl found
    · split
      · exact List.subset_append_left found _
      · exact List.Subset.refl found

/-- What is added is a listed token, after its parent. -/
theorem addChildren_kept {good : Uuid → Prop} (start : ∀ id ∈ found, good id)
    (child : ∀ record ∈ all, ∀ parent, record.parentId = some parent →
      parent ∈ addChildren all found → good parent → good record.id) :
    ∀ id ∈ addChildren all found, good id := by
  induction all generalizing found with
  | nil => exact start
  | cons record rest ih =>
    rw [addChildren_cons] at child ⊢
    refine ih ?_ fun other member => child other (List.mem_cons_of_mem _ member)
    intro id member
    split at member
    · exact start id member
    · next isNew =>
      split at member
      · next adopted =>
        rcases List.mem_append.mp member with old | new
        · exact start id old
        · rw [List.mem_singleton.mp new]
          obtain ⟨parent, isParent, among⟩ := (Option.any_eq_true _ _).mp adopted
          refine child record List.mem_cons_self parent isParent ?_ (start parent (of_decide_eq_true among))
          rw [if_neg isNew, if_pos adopted]
          exact subset_addChildren rest _ (List.mem_append_left _ (of_decide_eq_true among))
      · exact start id member

theorem settles_subset (settles : Settling.Settles (addChildren all) found ids) : found ⊆ ids :=
  settles.kept (found ⊆ ·) (List.Subset.refl found) fun some sub =>
    List.Subset.trans sub (subset_addChildren all some)

theorem settles_kept (good : Uuid → Prop) (settles : Settling.Settles (addChildren all) found ids)
    (start : ∀ id ∈ found, good id)
    (child : ∀ record ∈ all, ∀ parent, record.parentId = some parent → parent ∈ ids → good parent →
      good record.id) : ∀ id ∈ ids, good id := by
  induction settles with
  | done same => exact start
  | again changed settles ih =>
    refine ih (addChildren_kept start ?_) child
    intro record member parent isParent among
    exact child record member parent isParent (settles_subset settles among)

/-- A pass finds the children of what was found before. -/
theorem child_added (member : record ∈ all) {parent : Uuid} (isParent : record.parentId = some parent)
    (among : parent ∈ found) : record.id ∈ addChildren all found := by
  induction all generalizing found with
  | nil => cases member
  | cons first rest ih =>
    rw [addChildren_cons]
    rcases List.mem_cons.mp member with rfl | later
    · apply subset_addChildren
      split
      · assumption
      · have adopted : record.parentId.any (· ∈ found) = true := by
          rw [isParent, Option.any_some]
          exact decide_eq_true among
        rw [if_pos adopted]
        exact List.mem_append_right _ (List.mem_singleton.mpr rfl)
    · apply ih later
      split
      · exact among
      · split
        · exact List.mem_append_left _ among
        · exact among

theorem addChildren_eq_self (known : ∀ record ∈ all, record.id ∈ addChildren all found →
    record.id ∈ found) : addChildren all found = found := by
  induction all with
  | nil => rfl
  | cons record rest ih =>
    have own := known record List.mem_cons_self
    rw [addChildren_cons] at own known ⊢
    have still : (if record.id ∈ found then found
        else if record.parentId.any (· ∈ found) then found ++ [record.id] else found) = found := by
      split
      · rfl
      · next isNew =>
        split
        · next adopted =>
          rw [if_neg isNew, if_pos adopted] at own
          refine absurd (own ?_) isNew
          exact subset_addChildren rest _ (List.mem_append_right _ (List.mem_singleton.mpr rfl))
        · rfl
    rw [still] at known ⊢
    exact ih fun other member => known other (List.mem_cons_of_mem _ member)

/-- The listed tokens that are not found yet. -/
def unfound (all : List RefreshTokenRecord) (found : List Uuid) : Nat :=
  (all.filter (·.id ∉ found)).length

theorem unfound_less (changed : addChildren all found ≠ found) :
    unfound all (addChildren all found) < unfound all found := by
  have shrinks : all.filter (·.id ∉ addChildren all found) =
      (all.filter (·.id ∉ found)).filter (·.id ∉ addChildren all found) := by
    rw [List.filter_filter]
    refine List.filter_congr fun record _ => ?_
    rw [Bool.eq_iff_iff, Bool.and_eq_true, decide_eq_true_eq, decide_eq_true_eq]
    exact ⟨fun out => ⟨out, fun old => out (subset_addChildren all found old)⟩, And.left⟩
  rw [unfound, unfound, shrinks, List.length_filter_lt_length_iff_exists]
  by_contra none
  refine changed (addChildren_eq_self fun record member added => ?_)
  by_contra isNew
  refine none ⟨record, List.mem_filter.mpr ⟨member, decide_eq_true isNew⟩, ?_⟩
  rw [decide_eq_true_eq]
  exact not_not.mpr added

/-- The passes end, with the tokens that the model's find. -/
theorem withDescendants_settles (all : List RefreshTokenRecord) (found : List Uuid) :
    Settling.Settles (addChildren all) found (withDescendants all found) :=
  Settling.settles_iterate (fun _ => unfound_less) (List.length_filter_le _ _)

/-! ## A token's family -/

/-- Links lead from each token to one of the same person, and never back. -/
structure Kindred (store : RefreshTokenStore) : Prop where
  sound : store.Sound
  ranked : ∃ rank : Uuid → Nat, ∀ parent child, store.Link parent child → rank parent < rank child
  owner : ∀ parent child older record, store.getById parent = some older →
    store.getById child = some record → record.parentId = some parent → record.userId = older.userId

theorem WalksUp.head (sound : store.Sound) (walks : store.WalksUp (some id) up)
    (known : store.getById id = some record) : id ∈ up := by
  cases walks with
  | gone missing =>
    rw [known] at missing
    cases missing
  | up found walks =>
    rw [(sound.of_getById found).2]
    exact List.mem_cons_self

theorem WalksUp.stored (sound : store.Sound) {cursor : Option Uuid} (walks : store.WalksUp cursor up) :
    ∀ x ∈ up, ∃ record, store.getById x = some record := by
  induction walks with
  | top => rintro _ ⟨⟩
  | gone _ => rintro _ ⟨⟩
  | @up id record ids known _ ih =>
    intro x member
    rcases List.mem_cons.mp member with rfl | later
    · exact ⟨record, (sound.of_getById known).2 ▸ known⟩
    · exact ih x later

/-- Where the walk goes on it has met the parent, and it ends only at the top or at a gap. -/
theorem WalksUp.closed (sound : store.Sound) {cursor : Option Uuid} (walks : store.WalksUp cursor up)
    {parent child : Uuid} (member : child ∈ up) (link : store.Link parent child) : parent ∈ up := by
  induction walks with
  | top => cases member
  | gone _ => cases member
  | @up id record ids known walks ih =>
    rcases List.mem_cons.mp member with rfl | later
    · obtain ⟨older, other, found, isChild, isParent⟩ := link
      rw [(sound.of_getById known).2, known] at isChild
      cases isChild
      rw [isParent] at walks
      exact List.mem_cons_of_mem _ (walks.head sound found)
    · exact List.mem_cons_of_mem _ (ih later)

theorem WalksUp.connected (sound : store.Sound) (walks : store.WalksUp (some id) up) :
    ∀ x ∈ up, store.Connected id x := by
  generalize start : some id = cursor at walks
  induction walks generalizing id with
  | top => rintro _ ⟨⟩
  | gone _ => rintro _ ⟨⟩
  | @up own record ids known walks ih =>
    cases start
    have isOwn := (sound.of_getById known).2
    intro x member
    rcases List.mem_cons.mp member with rfl | later
    · rw [isOwn]
      exact .refl own
    · cases isParent : record.parentId with
      | none =>
        rw [isParent] at walks
        cases walks
        cases later
      | some parent =>
        rw [isParent] at walks
        cases walks with
        | gone _ => cases later
        | up found _ =>
          have link : store.Link parent own := ⟨_, record, found, known, isParent⟩
          exact .trans _ _ _ (.symm _ _ (.rel _ _ link)) (ih isParent.symm x later)

theorem Kindred.walks (kindred : store.Kindred) (id : Uuid) :
    ∃ up, store.WalksUp (some id) up ∧ up.Nodup := by
  obtain ⟨rank, ranked⟩ := kindred.ranked
  suffices all : ∀ n id, rank id = n → ∃ up, store.WalksUp (some id) up ∧ up.Nodup ∧
      ∀ x ∈ up, rank x ≤ rank id by
    obtain ⟨up, walks, distinct, _⟩ := all _ id rfl
    exact ⟨up, walks, distinct⟩
  intro n
  induction n using Nat.strongRecOn with
  | _ n ih =>
    rintro id rfl
    cases known : store.getById id with
    | none => exact ⟨[], .gone known, List.nodup_nil, by rintro _ ⟨⟩⟩
    | some record =>
      have isOwn := (kindred.sound.of_getById known).2
      cases isParent : record.parentId with
      | none =>
        refine ⟨[record.id], .up known (isParent ▸ .top), List.nodup_singleton _, ?_⟩
        intro x member
        rw [List.mem_singleton.mp member, isOwn]
      | some parent =>
        cases found : store.getById parent with
        | none =>
          refine ⟨[record.id], .up known (isParent ▸ .gone found), List.nodup_singleton _, ?_⟩
          intro x member
          rw [List.mem_singleton.mp member, isOwn]
        | some older =>
          have below : rank parent < rank id := ranked parent id ⟨older, record, found, known, isParent⟩
          obtain ⟨up, walks, distinct, ranks⟩ := ih (rank parent) below parent rfl
          refine ⟨record.id :: up, .up known (isParent ▸ walks), List.nodup_cons.mpr ⟨?_, distinct⟩, ?_⟩
          · intro again
            have atMost := ranks record.id again
            rw [isOwn] at atMost
            omega
          · intro x member
            rcases List.mem_cons.mp member with rfl | later
            · rw [isOwn]
            · exact (ranks x later).trans below.le

/-- The walk is as long as the table at most, so the model's goes all the way. -/
theorem Kindred.walks_ancestors (kindred : store.Kindred) (id : Uuid) :
    store.WalksUp (some id) (store.ancestors store.list.length (some id)) := by
  obtain ⟨up, walks, distinct⟩ := kindred.walks id
  have within : up ⊆ store.list.map (·.id) := by
    intro x member
    obtain ⟨record, known⟩ := walks.stored kindred.sound x member
    obtain ⟨stored, named⟩ := kindred.sound.of_getById known
    exact List.mem_map.mpr ⟨record, Indexed.Table.mem_list.mpr ⟨_, stored⟩, named⟩
  have short := (List.subperm_of_subset distinct within).length_le
  rw [List.length_map] at short
  rw [ancestors_eq walks short]
  exact walks

theorem Kindred.gathers (kindred : store.Kindred) (known : store.getById id = some record) :
    store.Gathers id (store.chain id) := by
  rw [chain, known]
  exact .ends known (kindred.walks_ancestors id) (withDescendants_settles _ _)

theorem Kindred.sameOwner (kindred : store.Kindred) {x y : Uuid} (connected : store.Connected x y) :
    (store.getById x).map (·.userId) = (store.getById y).map (·.userId) := by
  induction connected with
  | rel parent child link =>
    obtain ⟨older, record, found, isChild, isParent⟩ := link
    rw [found, isChild, Option.map_some, Option.map_some,
      kindred.owner parent child older record found isChild isParent]
  | refl x => rfl
  | symm x y _ ih => exact ih.symm
  | trans x y z _ _ first second => exact first.trans second

/-- What is gathered is what is connected. -/
theorem Kindred.mem_gathered (kindred : store.Kindred) (gathers : store.Gathers id ids) {x : Uuid} :
    x ∈ ids ↔ store.Connected id x := by
  obtain ⟨known, walks, settles⟩ := gathers
  rename_i record up
  have sound := kindred.sound
  have all : ∀ y ∈ ids, (∃ r, store.getById y = some r) ∧ store.Connected id y := by
    refine settles_kept _ settles ?_ ?_
    · intro y among
      exact ⟨walks.stored sound y among, walks.connected sound y among⟩
    · rintro child listed parent isParent _ ⟨⟨older, found⟩, connected⟩
      have isChild := ((mem_listByUser sound).mp listed).1
      exact ⟨⟨child, isChild⟩, .trans _ _ _ connected (.rel _ _ ⟨older, child, found, isChild, isParent⟩)⟩
  have upward : ∀ y ∈ ids, ∀ parent, store.Link parent y → parent ∈ ids := by
    refine settles_kept _ settles ?_ ?_
    · intro y among parent link
      exact settles_subset settles (walks.closed sound among link)
    · rintro child listed parent isParent among _ a ⟨older, other, found, isChild, isOther⟩
      rw [((mem_listByUser sound).mp listed).1] at isChild
      cases isChild
      rw [isParent] at isOther
      cases isOther
      exact among
  have downward : ∀ parent child, store.Link parent child → parent ∈ ids → child ∈ ids := by
    intro parent child link among
    have owners := kindred.sameOwner (.trans _ _ _ (all parent among).2 (.rel _ _ link))
    obtain ⟨older, other, found, isChild, isParent⟩ := link
    have named := (sound.of_getById isChild).2
    rw [known, isChild, Option.map_some, Option.map_some, Option.some.injEq] at owners
    have listed : other ∈ store.listByUser record.userId :=
      (mem_listByUser sound).mpr ⟨named ▸ isChild, owners.symm⟩
    have added := child_added listed isParent among
    rwa [settles.fixed, named] at added
  constructor
  · exact fun member => (all x member).2
  · intro connected
    have both : ∀ {y z}, store.Connected y z → (y ∈ ids ↔ z ∈ ids) := by
      intro y z joined
      induction joined with
      | rel parent child link => exact ⟨downward parent child link, fun among => upward child among parent link⟩
      | refl y => exact Iff.rfl
      | symm y z _ ih => exact ih.symm
      | trans y z w _ _ first second => exact first.trans second
    exact (both connected).mp (settles_subset settles (walks.head sound known))

theorem Kindred.mem_chain (kindred : store.Kindred) (known : store.getById id = some record) {x : Uuid} :
    x ∈ store.chain id ↔ store.Connected id x :=
  kindred.mem_gathered (kindred.gathers known)

end RefreshTokenStore

namespace TokenTable
variable {ttlDays : Nat} {table : TokenTable}

/-! ## What a run keeps -/

/-- A token that was exchanged is used, and as long as it is stored so is the one issued for it,
which lasts as long at least. -/
structure Lineage (ttlDays : Nat) (table : TokenTable) : Prop where
  sound : table.store.Sound
  known : ∀ id record, table.store.getById id = some record → id ∈ table.drawn
  lasting : ∀ id record, table.store.getById id = some record →
    record.expiresAt ≤ table.now + ttlDays * day
  parents : ∀ id record parent, table.store.getById id = some record →
    record.parentId = some parent → (parent, id) ∈ table.exchanges
  drawnBoth : ∀ e ∈ table.exchanges, e.1 ∈ table.drawn ∧ e.2 ∈ table.drawn
  ranked : ∃ rank : Uuid → Nat, ∀ e ∈ table.exchanges, rank e.1 < rank e.2
  exchanged : ∀ e ∈ table.exchanges, ∀ older, table.store.getById e.1 = some older →
    older.usedAt.isSome = true ∧ ∃ later, table.store.getById e.2 = some later ∧
      later.parentId = some e.1 ∧ later.userId = older.userId ∧ older.expiresAt ≤ later.expiresAt

/-- What use and revocation leave of a token. -/
structure Edited (before after : RefreshTokenRecord) : Prop where
  userId : after.userId = before.userId
  parentId : after.parentId = before.parentId
  expiresAt : after.expiresAt = before.expiresAt
  used : before.usedAt.isSome = true → after.usedAt.isSome = true

theorem Lineage.edited (lineage : Lineage ttlDays table) {store : RefreshTokenStore}
    (sound : store.Sound) {edit : RefreshTokenRecord → RefreshTokenRecord}
    (lookup : ∀ id, store.getById id = (table.store.getById id).map edit)
    (edits : ∀ id record, table.store.getById id = some record → Edited record (edit record)) :
    Lineage ttlDays { table with store := store } := by
  have origin : ∀ id record, store.getById id = some record →
      ∃ before, table.store.getById id = some before ∧ edit before = record := by
    intro id record found
    rw [lookup] at found
    exact Option.map_eq_some_iff.mp found
  refine ⟨sound, ?_, ?_, ?_, lineage.drawnBoth, lineage.ranked, ?_⟩
  · intro id record found
    obtain ⟨before, there, _⟩ := origin id record found
    exact lineage.known id before there
  · intro id record found
    obtain ⟨before, there, rfl⟩ := origin id record found
    rw [(edits id before there).expiresAt]
    exact lineage.lasting id before there
  · intro id record parent found isParent
    obtain ⟨before, there, rfl⟩ := origin id record found
    rw [(edits id before there).parentId] at isParent
    exact lineage.parents id before parent there isParent
  · intro e member older found
    obtain ⟨before, there, rfl⟩ := origin e.1 older found
    obtain ⟨used, later, isLater, isParent, sameOwner, lasts⟩ := lineage.exchanged e member before there
    have first := edits e.1 before there
    have second := edits e.2 later isLater
    refine ⟨first.used used, edit later, by rw [lookup, isLater, Option.map_some], ?_, ?_, ?_⟩
    · rw [second.parentId, isParent]
    · rw [second.userId, first.userId, sameOwner]
    · rw [second.expiresAt, first.expiresAt]
      exact lasts

theorem Lineage.revoke (lineage : Lineage ttlDays table) (id : Uuid) :
    Lineage ttlDays { table with store := table.store.revoke id table.now } := by
  refine lineage.edited (RefreshTokenStore.revoke_revokes lineage.sound id table.now).1
    (RefreshTokenStore.getById_revoke lineage.sound id table.now) ?_
  intro _ record _
  split <;> exact ⟨rfl, rfl, rfl, fun used => used⟩

theorem Lineage.revokeChain (lineage : Lineage ttlDays table) (id : Uuid) :
    Lineage ttlDays { table with store := table.store.revokeChain id table.now } := by
  refine lineage.edited (RefreshTokenStore.revokeChain_revokes lineage.sound id table.now).1
    (RefreshTokenStore.getById_revokeChain lineage.sound id table.now) ?_
  intro _ record _
  split <;> exact ⟨rfl, rfl, rfl, fun used => used⟩

theorem Lineage.markUsed (lineage : Lineage ttlDays table) {record : RefreshTokenRecord}
    (known : table.store.getById record.id = some record) :
    Lineage ttlDays { table with store := table.store.markUsed record.id table.now } := by
  have stored := (lineage.sound.of_getById known).1
  have sound : (table.store.markUsed record.id table.now).Sound := by
    rw [RefreshTokenStore.markUsed_eq lineage.sound stored]
    exact RefreshTokenStore.markUsed_sound lineage.sound stored
  refine lineage.edited sound (RefreshTokenStore.getById_markUsed lineage.sound known table.now) ?_
  intro id old found
  split
  · next same =>
    have isOld := (lineage.sound.of_getById found).2
    rw [← isOld, same, known] at found
    cases found
    exact ⟨rfl, rfl, rfl, fun _ => rfl⟩
  · exact ⟨rfl, rfl, rfl, fun used => used⟩

theorem Lineage.prune (lineage : Lineage ttlDays table) :
    Lineage ttlDays { table with store := table.store.prune table.now } := by
  have lookup := RefreshTokenStore.getById_prune lineage.sound table.now
  have origin : ∀ id record, (table.store.prune table.now).getById id = some record →
      table.store.getById id = some record ∧
        (!(record.retired && record.expiresAt ≤ table.now)) = true := by
    intro id record found
    rw [lookup] at found
    exact Option.filter_eq_some_iff.mp found
  refine ⟨(RefreshTokenStore.prune_rows lineage.sound table.now).1, ?_, ?_, ?_, lineage.drawnBoth,
    lineage.ranked, ?_⟩
  · exact fun id record found => lineage.known id record (origin id record found).1
  · exact fun id record found => lineage.lasting id record (origin id record found).1
  · exact fun id record parent found => lineage.parents id record parent (origin id record found).1
  · intro e member older found
    obtain ⟨there, spared⟩ := origin e.1 older found
    obtain ⟨used, later, isLater, isParent, sameOwner, lasts⟩ := lineage.exchanged e member older there
    refine ⟨used, later, ?_, isParent, sameOwner, lasts⟩
    -- the older one is used, so it is still stored only because it has not expired
    have unexpired : table.now < older.expiresAt := by
      by_contra expired
      simp [RefreshTokenRecord.retired, used, not_lt.mp expired] at spared
    rw [lookup, isLater, Option.filter_some, if_pos]
    have stillLater : ¬ later.expiresAt ≤ table.now := not_le.mpr (lt_of_lt_of_le unexpired lasts)
    simp [stillLater]

/-- A token is issued under a new id, for one that is used if for any. -/
theorem Lineage.issue (lineage : Lineage ttlDays table) {userId id : Uuid} {userAgent : String}
    {parent : Option RefreshTokenRecord} (fresh : id ∉ table.drawn)
    (exchanged : ∀ p ∈ parent, ∃ older, table.store.getById p.id = some older ∧
      older.usedAt.isSome = true ∧ older.userId = userId) (tokens : List NewRefreshToken) :
    Lineage ttlDays (table.issue ttlDays userId parent userAgent id tokens) := by
  unfold TokenTable.issue
  cases generated : table.store.generate tokens with
  | none => exact lineage
  | some token =>
    dsimp only
    generalize made : token.record id table.now ttlDays userId parent userAgent = child
    have childId : child.id = id := made ▸ rfl
    have childParent : child.parentId = parent.map (·.id) := made ▸ rfl
    have childExpires : child.expiresAt = table.now + ttlDays * day := made ▸ rfl
    have childUser : child.userId = userId := made ▸ rfl
    have free : table.store.rows[child.lookupPrefix]? = none := by
      rw [← made]
      exact RefreshTokenStore.generate_free generated
    have unknown : table.store.getById child.id = none := by
      cases found : table.store.getById child.id with
      | none => rfl
      | some record => exact absurd (childId ▸ lineage.known child.id record found) fresh
    have apart : ∀ (key : String) other, table.store.rows[key]? = some other → other.id ≠ child.id := by
      intro key other stored same
      have found := lineage.sound.getById_eq stored
      rw [same, unknown] at found
      cases found
    have lookup := RefreshTokenStore.getById_create lineage.sound free unknown
    rw [childId] at lookup
    have cases : ∀ i record, (table.store.create child).getById i = some record →
        (i = id ∧ record = child) ∨ (i ≠ id ∧ table.store.getById i = some record) := by
      intro i record found
      rw [lookup] at found
      split at found
      · next same => exact .inl ⟨same.symm, (Option.some.inj found).symm⟩
      · next other => exact .inr ⟨Ne.symm other, found⟩
    have kept : ∀ i, i ∈ table.drawn → (table.store.create child).getById i = table.store.getById i := by
      intro i isDrawn
      rw [lookup, if_neg]
      rintro rfl
      exact fresh isDrawn
    have parentDrawn : ∀ p ∈ parent, p.id ∈ table.drawn := by
      intro p isParent
      obtain ⟨older, found, _⟩ := exchanged p isParent
      exact lineage.known p.id older found
    have exchanges : ∀ e ∈ (parent.toList.map fun p => (p.id, id)) ++ table.exchanges,
        (∃ p ∈ parent, e = (p.id, id)) ∨ e ∈ table.exchanges := by
      intro e member
      refine (List.mem_append.mp member).imp_left fun new => ?_
      obtain ⟨p, isParent, rfl⟩ := List.mem_map.mp new
      exact ⟨p, Option.mem_toList.mp isParent, rfl⟩
    refine ⟨RefreshTokenStore.create_sound lineage.sound free apart, ?_, ?_, ?_, ?_, ?_, ?_⟩
    · intro i record found
      rcases cases i record found with ⟨rfl, _⟩ | ⟨_, there⟩
      · exact List.mem_cons_self
      · exact List.mem_cons_of_mem _ (lineage.known i record there)
    · intro i record found
      rcases cases i record found with ⟨_, rfl⟩ | ⟨_, there⟩
      · exact childExpires.le
      · exact lineage.lasting i record there
    · intro i record p found isParent
      rcases cases i record found with ⟨rfl, rfl⟩ | ⟨_, there⟩
      · rw [childParent] at isParent
        obtain ⟨older, isOlder, rfl⟩ := Option.map_eq_some_iff.mp isParent
        refine List.mem_append_left _ (List.mem_map.mpr ⟨older, ?_, rfl⟩)
        exact Option.mem_toList.mpr isOlder
      · exact List.mem_append_right _ (lineage.parents i record p there isParent)
    · intro e member
      rcases exchanges e member with ⟨p, isParent, rfl⟩ | old
      · exact ⟨List.mem_cons_of_mem _ (parentDrawn p isParent), List.mem_cons_self⟩
      · obtain ⟨first, second⟩ := lineage.drawnBoth e old
        exact ⟨List.mem_cons_of_mem _ first, List.mem_cons_of_mem _ second⟩
    · obtain ⟨rank, ranked⟩ := lineage.ranked
      have other : ∀ i ∈ table.drawn, i ≠ id := by
        rintro i isDrawn rfl
        exact fresh isDrawn
      refine ⟨Function.update rank id ((parent.elim 0 fun p => rank p.id) + 1), ?_⟩
      intro e member
      rcases exchanges e member with ⟨p, isParent, rfl⟩ | old
      · rw [Function.update_self, Function.update_of_ne (other p.id (parentDrawn p isParent)),
          Option.mem_def.mp isParent]
        exact Nat.lt_succ_self _
      · obtain ⟨first, second⟩ := lineage.drawnBoth e old
        rw [Function.update_of_ne (other _ first), Function.update_of_ne (other _ second)]
        exact ranked e old
    · intro e member older found
      rcases exchanges e member with ⟨p, isParent, rfl⟩ | old
      · rw [kept p.id (parentDrawn p isParent)] at found
        obtain ⟨same, there, used, owner⟩ := exchanged p isParent
        obtain rfl := Option.some.inj (there.symm.trans found)
        refine ⟨used, child, by rw [lookup, if_pos rfl], ?_, ?_, ?_⟩
        · rw [childParent, Option.mem_def.mp isParent, Option.map_some]
        · rw [childUser, owner]
        · rw [childExpires]
          exact lineage.lasting p.id same found
      · obtain ⟨first, second⟩ := lineage.drawnBoth e old
        rw [kept e.1 first] at found
        obtain ⟨used, later, isLater, rest⟩ := lineage.exchanged e old older found
        exact ⟨used, later, by rw [kept e.2 second, isLater], rest⟩

theorem start_lineage (ttlDays : Nat) (now : DateTime) : Lineage ttlDays (start now) := by
  have none : ∀ id record, (start now).store.getById id ≠ some record := by
    intro id record found
    simp [start, RefreshTokenStore.getById, Indexed.Table.find, Indexed.Table.empty] at found
  refine ⟨Indexed.Table.empty_sound, ?_, ?_, ?_, by rintro _ ⟨⟩, ⟨fun _ => 0, by rintro _ ⟨⟩⟩, by rintro _ ⟨⟩⟩
  · exact fun id record found => absurd found (none id record)
  · exact fun id record found => absurd found (none id record)
  · exact fun id record _ found => absurd found (none id record)

theorem step_lineage (lineage : Lineage ttlDays table) (input : TokenInput)
    (fresh : table.freshId input = true) : Lineage ttlDays (table.step ttlDays input) := by
  cases input with
  | tick nanos =>
    refine { lineage with lasting := fun id record found => ?_ }
    have before := lineage.lasting id record found
    exact before.trans (Int.add_le_add_right (Int.le_add_of_nonneg_right (Int.natCast_nonneg nanos)) _)
  | create userId userAgent id tokens =>
    have isFresh : id ∉ table.drawn := by simpa [freshId] using fresh
    refine lineage.issue isFresh ?_ tokens
    intro p isParent
    cases isParent
  | rotate presented id tokens =>
    have isFresh : id ∉ table.drawn := by simpa [freshId] using fresh
    cases found : table.store.getById presented with
    | none => simpa only [TokenTable.step, found] using lineage
    | some record =>
      simp only [TokenTable.step, found]
      have own : table.store.getById record.id = some record := by
        rw [(lineage.sound.of_getById found).2]
        exact found
      refine (lineage.markUsed own).issue isFresh ?_ tokens
      intro p isParent
      obtain rfl := Option.some.inj isParent
      refine ⟨record.used table.now, ?_, rfl, rfl⟩
      rw [RefreshTokenStore.getById_markUsed lineage.sound own, own, Option.map_some, if_pos rfl]
  | revoke id => exact lineage.revoke id
  | revokeChain id => exact lineage.revokeChain id
  | prune => exact lineage.prune

/-! ## Whole chains -/

theorem Lineage.kindred (lineage : Lineage ttlDays table) : table.store.Kindred where
  sound := lineage.sound
  ranked := by
    obtain ⟨rank, ranked⟩ := lineage.ranked
    refine ⟨rank, ?_⟩
    rintro parent child ⟨_, record, _, isChild, isParent⟩
    exact ranked _ (lineage.parents child record parent isChild isParent)
  owner := by
    intro parent child older record found isChild isParent
    obtain ⟨_, later, isLater, _, owner, _⟩ := lineage.exchanged (parent, child)
      (lineage.parents child record parent isChild isParent) older found
    rw [isChild] at isLater
    cases isLater
    exact owner

theorem Lineage.link (lineage : Lineage ttlDays table) {parent child : Uuid}
    (exchange : (parent, child) ∈ table.exchanges) (stored : (table.store.getById parent).isSome = true) :
    table.store.Link parent child := by
  obtain ⟨older, found⟩ := Option.isSome_iff_exists.mp stored
  obtain ⟨_, later, isLater, isParent, _⟩ := lineage.exchanged _ exchange older found
  exact ⟨older, later, found, isLater, isParent⟩

theorem Lineage.wholeChains (lineage : Lineage ttlDays table) : table.WholeChains where
  gathers := by
    intro id stored
    obtain ⟨record, known⟩ := Option.isSome_iff_exists.mp stored
    exact lineage.kindred.gathers known
  revoked := by
    intro id time other record stored found connected
    obtain ⟨_, known⟩ := Option.isSome_iff_exists.mp stored
    have member := (lineage.kindred.mem_chain known).mpr connected
    rw [← (lineage.sound.of_getById found).2] at member
    rw [RefreshTokenStore.getById_revokeChain lineage.sound, found, Option.map_some]
    simp only [member, true_and]
  untouched := by
    intro id time other stored apart
    obtain ⟨_, known⟩ := Option.isSome_iff_exists.mp stored
    rw [RefreshTokenStore.getById_revokeChain lineage.sound]
    cases found : table.store.getById other with
    | none => rfl
    | some record =>
      rw [Option.map_some, if_neg]
      rintro ⟨member, _⟩
      rw [(lineage.sound.of_getById found).2] at member
      exact apart ((lineage.kindred.mem_chain known).mp member)
  joined := by
    intro older later stored descends
    induction descends with
    | single exchange => exact .single (lineage.link exchange stored)
    | tail _ exchange ih =>
      have reached : ∀ {a b}, Relation.TransGen table.store.Link a b →
          (table.store.getById b).isSome = true := by
        intro a b links
        cases links with
        | single link =>
          obtain ⟨_, record, _, found, _⟩ := link
          rw [found, Option.isSome_some]
        | tail _ link =>
          obtain ⟨_, record, _, found, _⟩ := link
          rw [found, Option.isSome_some]
      exact .tail ih (lineage.link exchange (reached ih))

/-- In every run of the table a chain is revoked whole and alone, however it was pruned before. -/
theorem chains_revoked_whole (ttlDays : Nat) (now : DateTime) (inputs : List TokenInput)
    (fresh : Runs.EachStep (step ttlDays) (fun table input => table.freshId input = true) (start now)
      inputs) : Runs.Always (step ttlDays) WholeChains (start now) inputs := by
  have always : Runs.Always (step ttlDays) (Lineage ttlDays) (start now) inputs :=
    Runs.invariant (Lineage ttlDays) (fun _ input lineage isFresh => step_lineage lineage input isFresh)
      (start_lineage ttlDays now) fresh
  exact always.mono fun _ lineage => lineage.wholeChains

/-- A token is exchanged twice, and the first of the three is pruned before the second is found
to have been used again. -/
def exchangedTwice : List TokenInput :=
  [.create ⟨7⟩ "browser" ⟨1⟩ [⟨"hc_rt_first", "first", "a hash"⟩], .tick 43200000000000,
    .rotate ⟨1⟩ ⟨2⟩ [⟨"hc_rt_second", "second", "another"⟩], .tick 21600000000000,
    .rotate ⟨2⟩ ⟨3⟩ [⟨"hc_rt_second", "second", "another"⟩, ⟨"hc_rt_third", "third", "a third"⟩],
    .tick 25200000000000, .prune, .revokeChain ⟨2⟩]

theorem exchanged_twice_revoked_whole :
    Runs.Always (step 1) WholeChains (start 0) exchangedTwice ∧
      (exchangedTwice.foldl (step 1) (start 0)).store.list.map (fun record =>
        (record.id, record.revokedAt.isSome)) = [(⟨2⟩, true), (⟨3⟩, true)] := by
  have fresh : Runs.EachStep (step 1) (fun table input => table.freshId input = true) (start 0)
      exchangedTwice := by decide
  exact ⟨chains_revoked_whole 1 0 exchangedTwice fresh, by decide⟩

end TokenTable
end HomeCore
