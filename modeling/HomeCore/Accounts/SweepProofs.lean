import HomeCore.Accounts.RefreshRequestsProofs
import HomeCore.Accounts.SessionsProofs

/-! Ending every session of a person is final, where no refresh of theirs overlaps with it
and no stale record is written over a revocation. A refresh that is in flight when the
tokens are listed stores its child behind the sweep's back. -/
namespace HomeCore
open RefreshTokenStore

namespace AuthSystem

variable {auth : AuthSetup} {system : AuthSystem} {store : RefreshTokenStore} {task : AuthTask}
  {record : RefreshTokenRecord} {key : String} {sessions pending : List Uuid}

/-- The sessions that a request has listed the tokens of, and the tokens that it is yet to
revoke. -/
def covers : AuthTask → Option (List Uuid × List Uuid)
  | .account _ sessions (.sweeping revoking) => some (sessions, revoking.pending)
  | .account _ sessions .returned => some (sessions, [])
  | _ => none

/-- A session is one person's; no refresh goes by a token of a session whose tokens were
listed; and of such a session only those yet to be revoked are usable. -/
structure Swept (system : AuthSystem) : Prop where
  coherent : Coherent system
  people : ∀ (key key' : String) record other, system.store.rows[key]? = some record →
    system.store.rows[key']? = some other → record.session = other.session →
    record.userId = other.userId
  flights : ∀ (i j : Nat) task other record sessions pending, system.tasks[i]? = some task →
    system.tasks[j]? = some other → inFlight task = some record →
    covers other = some (sessions, pending) → record.session ∉ sessions
  unswept : ∀ (index : Nat) task sessions pending, system.tasks[index]? = some task →
    covers task = some (sessions, pending) → ∀ (key : String) record,
    system.store.rows[key]? = some record → record.session ∈ sessions →
    record.isUsable system.now = true → record.id ∈ pending

theorem start_swept (now : DateTime) (users : UserStore) : Swept (start now users) where
  coherent := start_coherent now users
  people := by
    intro key key' record other stored
    simp [start, Indexed.Table.empty] at stored
  flights := by
    intro i j task other record sessions pending first
    simp [start] at first
  unswept := by
    intro index task sessions pending first
    simp [start] at first

theorem isUsable_earlier {now later : DateTime} (ordered : now ≤ later)
    (usable : record.isUsable later = true) : record.isUsable now = true := by
  simp only [RefreshTokenRecord.isUsable, Bool.and_eq_true, decide_eq_true_eq] at usable ⊢
  exact ⟨usable.1, lt_of_le_of_lt ordered usable.2⟩

/-! ## What a step does to the tokens -/

/-- The tokens there are afterwards: those there were, some of them written back retired,
and one that was stored, if a request stores one. A revoked one is still revoked. -/
structure Writes (task : AuthTask) (before after : RefreshTokenStore) : Prop where
  origin : ∀ (key : String) record, after.rows[key]? = some record →
    before.rows[key]? = some record ∨
    (record.retired = true ∧ ∃ old, before.rows[key]? = some old ∧ SameToken old record) ∨
    ∃ presented parent user token, task = .refresh presented (.storing parent user token record)
  revoked : ∀ (key : String) record, before.rows[key]? = some record →
    record.revokedAt.isSome = true →
    ∃ later, after.rows[key]? = some later ∧ later.revokedAt.isSome = true

theorem Writes.refl (task : AuthTask) (store : RefreshTokenStore) : Writes task store store :=
  ⟨fun _ _ stored => .inl stored, fun _ record stored isRevoked => ⟨record, stored, isRevoked⟩⟩

/-- A record is written back as it was read, but retired; if the token was revoked, so is
what is written. -/
theorem update_writes {read changed : RefreshTokenRecord} (holds : Holds store read)
    (same : SameToken read changed) (retired : changed.retired = true)
    (careful : ∀ row, store.rows[read.lookupPrefix]? = some row → row.revokedAt.isSome = true →
      changed.revokedAt.isSome = true) : Writes task store (store.update changed) := by
  obtain ⟨row, stored, sameRow⟩ := holds
  refine ⟨?_, ?_⟩
  · intro key record found
    rw [rows_update] at found
    split at found
    next here =>
      cases found
      exact .inr (.inl ⟨retired, row, by rw [← here, ← same.lookupPrefix]; exact stored,
        sameRow.symm.trans same⟩)
    next => exact .inl found
  · intro key record there isRevoked
    rw [rows_update]
    split
    next here =>
      rw [← here, ← same.lookupPrefix] at there
      exact ⟨changed, rfl, careful record there isRevoked⟩
    next => exact ⟨record, there, isRevoked⟩

theorem create_writes (free : store.rows[record.lookupPrefix]? = none)
    (isTask : ∃ presented parent user token, task = .refresh presented (.storing parent user token record)) :
    Writes task store (store.create record) := by
  refine ⟨?_, ?_⟩
  · intro key found stored
    rw [rows_create] at stored
    split at stored
    next =>
      cases stored
      exact .inr (.inr isTask)
    next => exact .inl stored
  · intro key found stored isRevoked
    rw [rows_create]
    split
    next here =>
      rw [← here, free] at stored
      cases stored
    next => exact ⟨found, stored, isRevoked⟩

theorem Revoking.Step.writes {now : DateTime} {revoking next : Revoking} {after : RefreshTokenStore}
    (stepped : Revoking.Step store now revoking after next)
    (held : ∀ read, revoking.read = some read → Holds store read) : Writes task store after := by
  cases stepped with
  | done => exact .refl task store
  | passes dead => exact .refl task store
  | reads found => exact .refl task store
  | writes read started left =>
    exact update_writes (held read rfl) (.revoked read started) (revoked_retired read started)
      fun _ _ _ => rfl

/-- `mark_used` has read what was not revoked since. -/
theorem apart_mark {index : Nat} {presented : String} {read row : RefreshTokenRecord} {now : DateTime}
    (apart : system.apart (.work index) = true)
    (was : system.tasks[index]? = some (.refresh presented (.markWrites record read now)))
    (found : system.store.getById read.id = some row) (isRevoked : row.revokedAt.isSome = true) :
    read.revokedAt.isSome = true := by
  simp only [AuthSystem.apart, was, Bool.and_eq_true] at apart
  have careful := apart.2
  rw [found, Option.all_some, Bool.or_eq_true, Option.isNone_iff_eq_none] at careful
  refine careful.resolve_left ?_
  rintro unrevoked
  rw [unrevoked] at isRevoked
  cases isRevoked

theorem advance_writes (coherent : Coherent system) {index : Nat}
    (was : system.tasks[index]? = some task)
    (fresh : system.freshToken auth (.work index) = true) (apart : system.apart (.work index) = true) :
    Writes task system.store (system.advance auth task).1 := by
  have grounded := coherent.grounded index task was
  cases task with
  | ending revoking =>
    exact Revoking.Step.writes (Revoking.step_spec system.store system.now revoking) grounded
  | account userId sessions phase =>
    cases phase with
    | reading change =>
      simp only [advance, advanceAccount]
      cases system.users.getUserById userId <;> exact .refl _ _
    | writing change user =>
      simp only [advance, advanceAccount]
      cases change.apply user with
      | some changed => exact .refl _ _
      | none => cases system.users.getUserById userId <;> exact .refl _ _
    | sweeping revoking =>
      simp only [advance, advanceAccount]
      split
      · exact .refl _ _
      · exact Revoking.Step.writes (Revoking.step_spec system.store system.now revoking) grounded.2
    | listing | returned | refused => exact .refl _ _
  | refresh presented phase =>
    cases phase with
    | marking record =>
      simp only [advance, advanceRefresh]
      cases system.store.getById record.id <;> exact .refl _ _
    | markWrites record read now =>
      have held := Grounded.holds_read grounded
      refine update_writes held (.used read now) (used_retired read now) ?_
      intro row stored isRevoked
      obtain ⟨other, found, same⟩ := held
      rw [stored] at found
      cases found
      have byId := coherent.sound.getById_eq stored
      rw [← same.id] at byId
      have unchanged : read.revokedAt.isSome = true := apart_mark apart was byId isRevoked
      exact unchanged
    | marked record =>
      simp only [advance, advanceRefresh]
      cases system.users.getUserById record.userId <;> exact .refl _ _
    | storing record user token child =>
      have isStored : system.stores auth (.work index) = some child := by simp only [stores, was]
      exact create_writes (freshToken_spec fresh isStored).1 ⟨presented, record, user, token, rfl⟩
    | retiring revoking =>
      simp only [advance, advanceRefresh]
      split
      · exact .refl _ _
      · exact Revoking.Step.writes (Revoking.step_spec system.store system.now revoking) grounded
    | presented | checking record | drawing record user | tracing record | gathering record found
    | granted claims token | refused message => exact .refl _ _

/-- A request goes by the token it went by, unless it looks up a usable one. -/
theorem advance_inFlight (isRecord : inFlight (system.advance auth task).2.2 = some record) :
    inFlight task = some record ∨
      ∃ presented, task = .refresh presented .presented ∧ system.lookUp presented = .checking record := by
  cases task with
  | account userId sessions phase => cases isRecord
  | ending revoking => cases isRecord
  | refresh presented phase =>
    cases phase with
    | presented =>
      refine .inr ⟨presented, rfl, ?_⟩
      simp only [advance, advanceRefresh] at isRecord
      rcases lookUp_cases system presented with ⟨message, looked⟩ | ⟨other, looked⟩ |
        ⟨text, other, looked, _⟩
      · rw [looked] at isRecord
        cases isRecord
      · rw [looked] at isRecord
        cases isRecord
      · rw [looked] at isRecord ⊢
        cases isRecord
        rfl
    | checking other =>
      simp only [advance, advanceRefresh] at isRecord
      split at isRecord
      · exact .inl isRecord
      · cases isRecord
    | marking other =>
      simp only [advance, advanceRefresh] at isRecord
      split at isRecord <;> exact .inl isRecord
    | marked other =>
      simp only [advance, advanceRefresh] at isRecord
      split at isRecord
      · cases isRecord
      · exact .inl isRecord
    | retiring revoking =>
      simp only [advance, advanceRefresh] at isRecord
      split at isRecord <;> cases isRecord
    | markWrites other read now => exact .inl isRecord
    | drawing other user => exact .inl isRecord
    | storing other user token child => cases isRecord
    | granted claims token | tracing other | gathering other found | refused message => cases isRecord

/-- The sessions a request covers it covered before, unless it has just listed their
tokens. -/
theorem advance_covers (covered : covers (system.advance auth task).2.2 = some (sessions, pending)) :
    (∃ earlier, covers task = some (sessions, earlier)) ∨
      ∃ userId, task = .account userId sessions .listing := by
  cases task with
  | refresh presented phase => cases covered
  | ending revoking => cases covered
  | account userId listed phase =>
    cases phase with
    | reading change =>
      simp only [advance, advanceAccount] at covered
      split at covered
      · cases covered
      · by_cases allowed : change.allowed system.users ‹User› = true
        · simp only [allowed, if_true] at covered
          cases covered
        · simp only [allowed, Bool.false_eq_true, if_false] at covered
          cases covered
    | writing change user =>
      simp only [advance, advanceAccount] at covered
      split at covered
      · cases covered
      · split at covered <;> cases covered
    | listing =>
      cases covered
      exact .inr ⟨userId, rfl⟩
    | sweeping revoking =>
      simp only [advance, advanceAccount] at covered
      split at covered <;>
      · cases covered
        exact .inl ⟨_, rfl⟩
    | returned => exact .inl ⟨pending, covered⟩
    | refused => cases covered

theorem Grounded.inFlight_holds (grounded : Grounded store task) (flies : inFlight task = some record) :
    Holds store record := by
  unfold inFlight at flies
  split at flies
  next => cases flies; exact grounded.1
  next => cases flies; exact grounded.1
  next => cases flies; exact grounded.1.1
  next => cases flies; exact grounded.1
  next => cases flies; exact grounded.1
  next => cases flies; exact grounded.1.1
  next => cases flies

theorem covers_eq_none (flies : inFlight task = some record) : covers task = none := by
  cases task with
  | refresh presented phase => rfl
  | account userId sessions phase => cases flies
  | ending revoking => rfl

theorem draw_inFlight {id : Uuid} {drawn : List NewRefreshToken}
    (flies : inFlight (system.draw auth id drawn task) = some record) : inFlight task = some record := by
  unfold draw at flies
  split at flies
  next presented parent user =>
    cases generated : system.store.generate drawn with
    | none =>
      rw [generated] at flies
      cases flies
    | some token =>
      rw [generated] at flies
      exact flies
  next => exact flies

theorem draw_covers (id : Uuid) (drawn : List NewRefreshToken) :
    covers (system.draw auth id drawn task) = covers task := by
  unfold draw
  split
  next => cases system.store.generate drawn <;> rfl
  next => rfl

/-- What a request covers is the sessions of an account change. -/
theorem of_covers (covered : covers task = some (sessions, pending)) :
    ∃ userId, (task = .account userId sessions .returned ∧ pending = []) ∨
      ∃ revoking, task = .account userId sessions (.sweeping revoking) ∧ pending = revoking.pending := by
  unfold covers at covered
  split at covered
  next userId listed revoking =>
    cases covered
    exact ⟨userId, .inr ⟨revoking, rfl, rfl⟩⟩
  next userId listed =>
    cases covered
    exact ⟨userId, .inl ⟨rfl, rfl⟩⟩
  next => cases covered

/-- A stored token of a session that a request covers is of the account it changes. -/
theorem Swept.owner (swept : Swept system) {userId : Uuid} {phase : AccountPhase} {index : Nat}
    (found : system.tasks[index]? = some (.account userId sessions phase))
    (stored : system.store.rows[key]? = some record) (member : record.session ∈ sessions) :
    record.userId = userId := by
  obtain ⟨other, row, there, ofSession, ofUser⟩ :=
    (swept.coherent.grounded index _ found).1 record.session member
  rw [← ofUser]
  exact swept.people key other record row stored there ofSession.symm

/-- A step of a sweep: what it passes over or writes is not usable. -/
theorem Swept.sweep (swept : Swept system) {revoking next : Revoking} {after : RefreshTokenStore}
    (sound : after.Sound)
    (stepped : Revoking.Step system.store system.now revoking after next)
    (held : ∀ read, revoking.read = some read → Holds system.store read)
    (covered : ∀ (key : String) record, system.store.rows[key]? = some record →
      record.session ∈ sessions → record.isUsable system.now = true → record.id ∈ revoking.pending)
    (stored : after.rows[key]? = some record) (member : record.session ∈ sessions)
    (usable : record.isUsable system.now = true) : record.id ∈ next.pending := by
  cases stepped with
  | done => exact covered key record stored member usable
  | passes dead =>
    rcases List.mem_cons.mp (covered key record stored member usable) with rfl | later
    · have revoked := dead record (swept.coherent.sound.getById_eq stored)
      have retired : record.retired = true := by
        rw [RefreshTokenRecord.retired, revoked, Bool.or_true]
      rw [not_usable_of_retired retired] at usable
      cases usable
    · exact later
  | reads found =>
    rw [Revoking.pending, (swept.coherent.sound.of_getById found).2]
    exact covered key record stored member usable
  | writes read started left =>
    obtain ⟨row, there, same⟩ := held read rfl
    have before : system.store.rows[key]? = some record := by
      rw [rows_update] at stored
      split at stored
      next =>
        cases stored
        rw [not_usable_of_retired (revoked_retired read started)] at usable
        cases usable
      next => exact stored
    rcases List.mem_cons.mp (covered key record before member usable) with isRead | later
    · -- the token just written is found revoked, under the one key it has
      have written : (system.store.update (read.revoked started)).rows[read.lookupPrefix]? =
          some (read.revoked started) := by
        rw [rows_update]
        exact if_pos rfl
      have both := sound.same_row stored written (congrArg Uuid.text isRead)
      rw [both.2, not_usable_of_retired (revoked_retired read started)] at usable
      cases usable
    · exact later

/-- The tokens of the account are listed: the usable ones are those to be revoked. -/
theorem mem_listing {userId : Uuid} (stored : system.store.rows[key]? = some record)
    (owned : record.userId = userId) (usable : record.isUsable system.now = true) :
    record.id ∈ ((system.store.listByUser userId).filter fun record =>
      record.revokedAt.isNone && system.now < record.expiresAt).map (·.id) := by
  refine List.mem_map.mpr ⟨record, List.mem_filter.mpr ⟨?_, ?_⟩, rfl⟩
  · rw [listByUser, List.mem_insertionSort, List.mem_filter, decide_eq_true_eq]
    exact ⟨Indexed.Table.mem_list.mpr ⟨key, stored⟩, owned⟩
  · simp only [RefreshTokenRecord.isUsable, Bool.and_eq_true] at usable ⊢
    exact ⟨usable.1.2, usable.2⟩

/-- What a request's next step leaves of the sessions it covers. -/
theorem Swept.advance_unswept (swept : Swept system) {index : Nat}
    (was : system.tasks[index]? = some task) (sound : (system.advance auth task).1.Sound)
    (covered : covers (system.advance auth task).2.2 = some (sessions, pending))
    (stored : (system.advance auth task).1.rows[key]? = some record) (member : record.session ∈ sessions)
    (usable : record.isUsable system.now = true) : record.id ∈ pending := by
  rcases advance_covers covered with ⟨earlier, before⟩ | ⟨userId, rfl⟩
  · obtain ⟨userId, ⟨rfl, rfl⟩ | ⟨revoking, rfl, rfl⟩⟩ := of_covers before
    · cases covered
      exact swept.unswept index _ _ _ was rfl key record stored member usable
    · have pendingNow := swept.unswept index _ _ _ was rfl
      simp only [advance, advanceAccount] at covered stored sound
      split at covered
      next done =>
        cases covered
        rw [if_pos done] at stored
        have none := pendingNow key record stored member usable
        rw [done] at none
        exact none
      next left =>
        cases covered
        rw [if_neg left] at stored sound
        exact swept.sweep sound (Revoking.step_spec system.store system.now revoking)
          (swept.coherent.grounded index _ was).2 pendingNow stored member usable
  · cases covered
    exact mem_listing stored (swept.owner was stored member) usable

/-! ## Steps that keep apart -/

theorem apart_lookUp {input : AuthInput} (apart : system.apart input = true)
    (looked : system.looksUp input = some record) {index : Nat}
    (found : system.tasks[index]? = some task) : sweeps task ≠ some record.userId := by
  intro sweeping
  unfold AuthSystem.apart at apart
  rw [Bool.and_eq_true, looked, Option.all_some, List.all_eq_true] at apart
  have differs := apart.1 task (List.mem_of_getElem? found)
  rw [sweeping, Option.all_some, decide_eq_true_eq] at differs
  exact differs rfl

theorem apart_listing {index other : Nat} {userId : Uuid} (apart : system.apart (.work index) = true)
    (was : system.tasks[index]? = some (.account userId sessions .listing))
    (found : system.tasks[other]? = some task) (flies : inFlight task = some record) :
    record.userId ≠ userId := by
  simp only [AuthSystem.apart, was, Bool.and_eq_true, List.all_eq_true] at apart
  have differs := apart.2 task (List.mem_of_getElem? found)
  rw [flies, Option.all_some, decide_eq_true_eq] at differs
  exact differs

/-- Of a token found usable, no session is covered: a sweep of it would be in progress, or
would have made it unusable. -/
theorem Swept.lookUp_uncovered (swept : Swept system) {index other : Nat} {presented : String}
    (apart : system.apart (.work index) = true)
    (was : system.tasks[index]? = some (.refresh presented .presented))
    (looked : system.lookUp presented = .checking record)
    (found : system.tasks[other]? = some task) (covered : covers task = some (sessions, pending)) :
    record.session ∉ sessions := by
  intro member
  have isLookup : system.looksUp (.work index) = some record := by simp only [looksUp, was, looked]
  rcases lookUp_cases system presented with ⟨_, refused⟩ | ⟨_, traced⟩ |
    ⟨text, same, isSame, _, stored, usable⟩
  · rw [refused] at looked
    cases looked
  · rw [traced] at looked
    cases looked
  · rw [isSame] at looked
    cases looked
    have pendingNow := swept.unswept other task _ _ found covered text record stored member usable
    obtain ⟨userId, ⟨rfl, rfl⟩ | ⟨revoking, rfl, rfl⟩⟩ := of_covers covered
    · cases pendingNow
    · have owned := swept.owner found stored member
      exact apart_lookUp apart isLookup found (congrArg some owned.symm)

/-- A step of a request. -/
theorem Swept.work (swept : Swept system) {index : Nat} (was : system.tasks[index]? = some task)
    (fresh : system.freshToken auth (.work index) = true) (apart : system.apart (.work index) = true)
    {after : AuthSystem} (coherent : Coherent after) (now : after.now = system.now)
    (store : after.store = (system.advance auth task).1)
    (tasks : after.tasks = system.tasks.set index (system.advance auth task).2.2) : Swept after := by
  have grounded := swept.coherent.grounded index task was
  have writes := advance_writes swept.coherent was fresh apart
  obtain ⟨sound, _, _⟩ := swept.coherent.advance was fresh
  -- a token stored is of the session of the one it is exchanged for
  have child : ∀ {presented : String} {parent user token record},
      task = .refresh presented (.storing parent user token record) →
      record.session = parent.session ∧ record.userId = parent.userId ∧
        ∃ row, system.store.rows[parent.lookupPrefix]? = some row ∧ SameToken parent row := by
    rintro presented parent user token record rfl
    exact ⟨grounded.2.1, grounded.2.2, grounded.1.1⟩
  have owned : ∀ (key : String) record, after.store.rows[key]? = some record →
      ∃ (other : String) (row : RefreshTokenRecord), system.store.rows[other]? = some row ∧
        record.session = row.session ∧ record.userId = row.userId := by
    intro key record stored
    rw [store] at stored
    rcases writes.origin key record stored with there | ⟨_, old, there, same⟩ | ⟨_, parent, _, _, isTask⟩
    · exact ⟨key, record, there, rfl, rfl⟩
    · exact ⟨key, old, there, same.session.symm, same.userId.symm⟩
    · obtain ⟨session, userId, row, there, same⟩ := child isTask
      exact ⟨_, row, there, session.trans same.session, userId.trans same.userId⟩
  refine ⟨coherent, ?_, ?_, ?_⟩
  · intro key key' record other stored also same
    obtain ⟨a, row, there, session, userId⟩ := owned key record stored
    obtain ⟨b, row', there', session', userId'⟩ := owned key' other also
    rw [userId, userId']
    exact swept.people a b row row' there there' (session.symm.trans (same.trans session'))
  · intro i j first second record sessions pending isFirst isSecond flies covered member
    rw [tasks] at isFirst isSecond
    rcases TaskList.getElem?_set_cases isFirst with ⟨rfl, rfl⟩ | ⟨_, there⟩
    · rcases TaskList.getElem?_set_cases isSecond with ⟨rfl, rfl⟩ | ⟨_, also⟩
      · rw [covers_eq_none flies] at covered
        cases covered
      · rcases advance_inFlight flies with flew | ⟨presented, rfl, looked⟩
        · exact swept.flights i j task second record sessions pending was also flew covered member
        · exact swept.lookUp_uncovered apart was looked also covered member
    · rcases TaskList.getElem?_set_cases isSecond with ⟨rfl, rfl⟩ | ⟨_, also⟩
      · rcases advance_covers covered with ⟨earlier, before⟩ | ⟨userId, rfl⟩
        · exact swept.flights i j first task record sessions earlier there was flies before member
        · obtain ⟨row, stored, same⟩ := (swept.coherent.grounded i first there).inFlight_holds flies
          have owner := swept.owner was stored (same.session ▸ member)
          exact apart_listing apart was there flies (same.userId.trans owner)
      · exact swept.flights i j first second record sessions pending there also flies covered member
  · intro other found sessions pending lookup covered key record stored member usable
    rw [tasks] at lookup
    rw [now] at usable
    rw [store] at stored
    rcases TaskList.getElem?_set_cases lookup with ⟨rfl, rfl⟩ | ⟨_, there⟩
    · exact swept.advance_unswept was sound covered stored member usable
    · rcases writes.origin key record stored with before | ⟨retired, _⟩ | ⟨_, parent, _, _, isTask⟩
      · exact swept.unswept other found sessions pending there covered key record before member usable
      · rw [not_usable_of_retired retired] at usable
        cases usable
      · obtain ⟨session, _, _⟩ := child isTask
        rw [session] at member
        exact (swept.flights index other task found parent sessions pending was there
          (by rw [isTask]; rfl) covered member).elim

theorem step_swept (swept : Swept system) (input : AuthInput)
    (fresh : system.freshToken auth input = true) (apart : system.apart input = true) :
    Swept (system.step auth input) := by
  obtain ⟨coherent, grows⟩ := step_coherent swept.coherent input fresh
  have begins : ∀ {task : AuthTask}, covers task = none → inFlight task = none →
      (system.step auth input).tasks = system.tasks ++ [task] →
      (system.step auth input).store = system.store → (system.step auth input).now = system.now →
      Swept (system.step auth input) := by
    intro task coversNone fliesNone tasks store now
    have earlier : ∀ {index : Nat} {found : AuthTask},
        (system.step auth input).tasks[index]? = some found →
        found = task ∨ system.tasks[index]? = some found :=
      fun lookup => TaskList.getElem?_append_cases (tasks ▸ lookup)
    refine ⟨coherent, by rw [store]; exact swept.people, ?_, ?_⟩
    · intro i j first second record sessions pending isFirst isSecond flies covered
      rcases earlier isFirst with rfl | there
      · rw [fliesNone] at flies
        cases flies
      · rcases earlier isSecond with rfl | also
        · rw [coversNone] at covered
          cases covered
        · exact swept.flights i j first second record sessions pending there also flies covered
    · intro index found sessions pending lookup covered
      rw [store, now]
      rcases earlier lookup with rfl | there
      · rw [coversNone] at covered
        cases covered
      · exact swept.unswept index found sessions pending there covered
  cases input with
  | presents token => exact begins rfl rfl rfl rfl rfl
  | changes userId change => exact begins rfl rfl rfl rfl rfl
  | ends id => exact begins rfl rfl rfl rfl rfl
  | tick nanos =>
    refine ⟨coherent, swept.people, swept.flights, ?_⟩
    intro index task sessions pending found covered key record stored member usable
    have passes : system.now ≤ system.now + nanos :=
      Int.le_add_of_nonneg_right (Int.natCast_nonneg nanos)
    exact swept.unswept index task sessions pending found covered key record stored member
      (isUsable_earlier passes usable)
  | signIn userId userAgent id token =>
    obtain ⟨free, unknown⟩ := freshToken_spec fresh rfl
    have cases : ∀ (key : String) record, (system.step auth
        (.signIn userId userAgent id token)).store.rows[key]? = some record →
        record = token.record id system.now auth.refreshTokenExpiryDays userId none userAgent ∨
          system.store.rows[key]? = some record := by
      intro key record stored
      simp only [step, rows_create] at stored
      split at stored
      next => exact .inl (Option.some.inj stored).symm
      next => exact .inr stored
    refine ⟨coherent, ?_, swept.flights, ?_⟩
    · intro key key' record other stored also same
      rcases cases key record stored with rfl | there
      · rcases cases key' other also with rfl | there'
        · rfl
        · exact ((unknown key' other there').2 same.symm).elim
      · rcases cases key' other also with rfl | there'
        · exact ((unknown key record there).2 same).elim
        · exact swept.people key key' record other there there' same
    · intro index task sessions pending found covered key record stored member usable
      rcases cases key record stored with rfl | there
      · -- a session that begins is none there was
        obtain ⟨_, ⟨rfl, _⟩ | ⟨_, rfl, _⟩⟩ := of_covers covered <;>
        · obtain ⟨other, row, there, ofSession, _⟩ :=
            (swept.coherent.grounded index _ found).1 _ member
          exact ((unknown other row there).2 ofSession).elim
      · exact swept.unswept index task sessions pending found covered key record there member usable
  | draws index childId drawn =>
    simp only [step] at coherent ⊢
    cases was : system.tasks[index]? with
    | none => exact swept
    | some task =>
      rw [was] at coherent
      have earlier : ∀ {other : Nat} {found : AuthTask},
          (system.tasks.set index (system.draw auth childId drawn task))[other]? = some found →
          ∃ before, system.tasks[other]? = some before ∧ covers found = covers before ∧
            ∀ record, inFlight found = some record → inFlight before = some record := by
        intro other found lookup
        rcases TaskList.getElem?_set_cases lookup with ⟨rfl, rfl⟩ | ⟨_, there⟩
        · exact ⟨task, was, draw_covers childId drawn, fun record => draw_inFlight⟩
        · exact ⟨found, there, rfl, fun record => id⟩
      refine ⟨coherent, swept.people, ?_, ?_⟩
      · intro i j first second record sessions pending isFirst isSecond flies covered
        obtain ⟨a, isA, _, flew⟩ := earlier isFirst
        obtain ⟨b, isB, same, _⟩ := earlier isSecond
        exact swept.flights i j a b record sessions pending isA isB (flew record flies) (same ▸ covered)
      · intro other found sessions pending lookup covered
        obtain ⟨before, isBefore, same, _⟩ := earlier lookup
        exact swept.unswept other before sessions pending isBefore (same ▸ covered)
  | work index =>
    simp only [step, work] at coherent ⊢
    cases was : system.tasks[index]? with
    | none => exact swept
    | some task =>
      simp only [was] at coherent ⊢
      exact swept.work was fresh apart coherent rfl rfl rfl

/-! ## Revoked tokens -/

theorem step_staysRevoked (coherent : Coherent system) (input : AuthInput)
    (fresh : system.freshToken auth input = true) (apart : system.apart input = true) :
    StaysRevoked auth system input := by
  obtain ⟨after, grows⟩ := step_coherent coherent input fresh
  have rows : ∀ (key : String) record, system.store.rows[key]? = some record →
      record.revokedAt.isSome = true →
      ∃ later, (system.step auth input).store.rows[key]? = some later ∧
        later.revokedAt.isSome = true := by
    cases input with
    | tick nanos | presents token | changes userId change | ends id =>
      exact fun key record stored isRevoked => ⟨record, stored, isRevoked⟩
    | draws index id drawn =>
      simp only [step]
      cases system.tasks[index]? <;>
        exact fun key record stored isRevoked => ⟨record, stored, isRevoked⟩
    | signIn userId userAgent id token =>
      obtain ⟨free, _⟩ := freshToken_spec fresh rfl
      intro key record stored isRevoked
      refine ⟨record, ?_, isRevoked⟩
      simp only [step, rows_create]
      rw [if_neg]
      · exact stored
      · intro here
        rw [← here, free] at stored
        cases stored
    | work index =>
      simp only [step, work]
      cases was : system.tasks[index]? with
      | none => exact fun key record stored isRevoked => ⟨record, stored, isRevoked⟩
      | some task => exact (advance_writes coherent was fresh apart).revoked
  intro id record found isRevoked
  obtain ⟨stored, isRecord⟩ := coherent.sound.of_getById found
  obtain ⟨later, there, stillRevoked⟩ := rows _ record stored isRevoked
  obtain ⟨same, also, isSame, _⟩ := grows _ record stored
  rw [there] at also
  cases also
  refine ⟨later, ?_, stillRevoked⟩
  rw [← isRecord, isSame.id]
  exact after.sound.getById_eq there

theorem Swept.sweptAway (swept : Swept system) : SweptAway system := by
  intro index userId sessions returned id record found member
  cases usable : record.isUsable system.now with
  | false => rfl
  | true =>
    obtain ⟨stored, _⟩ := swept.coherent.sound.of_getById found
    cases swept.unswept index _ sessions [] returned rfl _ record stored member usable

/-- In every interleaving whose refreshes and sweeps of one account keep apart, the end of
every session is final and no revocation is undone. -/
theorem ending_all_sessions_is_final (auth : AuthSetup) (now : DateTime) (users : UserStore)
    (inputs : List AuthInput)
    (fresh : Runs.EachStep (step auth) (fun system input => system.freshToken auth input = true)
      (start now users) inputs)
    (apart : Runs.EachStep (step auth) (fun system input => system.apart input = true)
      (start now users) inputs) :
    Runs.Always (step auth) SweptAway (start now users) inputs ∧
      Runs.EachStep (step auth) (StaysRevoked auth) (start now users) inputs := by
  have always : Runs.Always (step auth) Swept (start now users) inputs :=
    Runs.invariant Swept (fun system input swept safe => step_swept swept input safe.1 safe.2)
      (start_swept now users) (fresh.and apart)
  refine ⟨always.mono fun system swept => swept.sweptAway, ?_⟩
  have coherent : Runs.EachStep (step auth) (fun system _ => Coherent system) (start now users) inputs :=
    always.eachStep fun system _ swept => swept.coherent
  exact (coherent.and (fresh.and apart)).mono fun system input safe =>
    step_staysRevoked safe.1 input safe.2.1 safe.2.2

/-- Ada signs in, her token is refreshed, and then she changes her password. -/
def passwordAfterRefresh : List AuthInput :=
  [.signIn ⟨7⟩ "browser" ⟨1⟩ (SessionSystem.drawnToken "first-token-body"),
    .presents "hc_rt_first-token-body", .work 0, .work 0, .work 0, .work 0, .work 0,
    .draws 0 ⟨2⟩ [SessionSystem.drawnToken "second-token-body"], .work 0,
    .changes ⟨7⟩ (.changePassword "hash of another"), .work 1, .work 1, .work 1,
    .work 1, .work 1, .work 1, .work 1, .work 1, .presents "hc_rt_second-token-body", .work 2]

theorem adas_sessions_ended_for_good :
    (Runs.Always (step SessionSystem.dailyAuth) SweptAway (start 0 SessionSystem.adasHouse)
        passwordAfterRefresh ∧
      Runs.EachStep (step SessionSystem.dailyAuth) (StaysRevoked SessionSystem.dailyAuth)
        (start 0 SessionSystem.adasHouse) passwordAfterRefresh) ∧
      (passwordAfterRefresh.foldl (step SessionSystem.dailyAuth)
        (start 0 SessionSystem.adasHouse)).tasks.drop 1 =
        [.account ⟨7⟩ [⟨1⟩, ⟨1⟩] .returned, .refresh "hc_rt_second-token-body"
          (.refused "refresh token revoked or expired")] := by
  refine ⟨ending_all_sessions_is_final SessionSystem.dailyAuth 0 SessionSystem.adasHouse
    passwordAfterRefresh ?_ ?_, ?_⟩
  all_goals decide

/-- The password is changed while a refresh has marked its token and is yet to store the
child: the tokens are listed without it. -/
def passwordDuringRefresh : List AuthInput :=
  [.signIn ⟨7⟩ "browser" ⟨1⟩ (SessionSystem.drawnToken "first-token-body"),
    .presents "hc_rt_first-token-body", .work 0, .work 0, .work 0, .work 0,
    .changes ⟨7⟩ (.changePassword "hash of another"), .work 1, .work 1, .work 1, .work 0,
    .draws 0 ⟨2⟩ [SessionSystem.drawnToken "second-token-body"], .work 0, .work 1, .work 1, .work 1]

def afterPasswordDuringRefresh : AuthSystem :=
  passwordDuringRefresh.foldl (step SessionSystem.dailyAuth) (start 0 SessionSystem.adasHouse)

theorem child_survives_the_sweep :
    ¬ (Runs.Always (step SessionSystem.dailyAuth) SweptAway (start 0 SessionSystem.adasHouse)
        passwordDuringRefresh ∧
      Runs.EachStep (step SessionSystem.dailyAuth) (StaysRevoked SessionSystem.dailyAuth)
        (start 0 SessionSystem.adasHouse) passwordDuringRefresh) := by
  rintro ⟨always, _⟩
  have swept : SweptAway afterPasswordDuringRefresh := always.last
  have returned : afterPasswordDuringRefresh.tasks[1]? = some (.account ⟨7⟩ [⟨1⟩] .returned) := by
    decide
  have found : (afterPasswordDuringRefresh.store.getById ⟨2⟩).any (fun record =>
      record.session = ⟨1⟩ && record.isUsable afterPasswordDuringRefresh.now) = true := by
    decide
  obtain ⟨record, stored, alive⟩ := (Option.any_eq_true _ _).mp found
  rw [Bool.and_eq_true, decide_eq_true_eq] at alive
  have dead := swept 1 ⟨7⟩ [⟨1⟩] returned ⟨2⟩ record stored (by rw [alive.1]; exact List.mem_cons_self)
  rw [alive.2] at dead
  cases dead

end AuthSystem
end HomeCore
