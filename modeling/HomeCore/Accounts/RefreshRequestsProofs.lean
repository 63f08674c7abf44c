import HomeCore.Accounts.RefreshRequests
import HomeCore.Accounts.RefreshTokensProofs
import HomeCore.TaskList

/-! What holds of requests on refresh tokens in any order of their steps: what a request
goes by is a token that is stored, and a token that was used or revoked stays so. -/
namespace HomeCore

/-- Two readings of one token: what never changes of it is the same. -/
structure SameToken (a b : RefreshTokenRecord) : Prop where
  id : a.id = b.id
  userId : a.userId = b.userId
  lookupPrefix : a.lookupPrefix = b.lookupPrefix
  session : a.session = b.session
  expiresAt : a.expiresAt = b.expiresAt

namespace SameToken
variable {a b c : RefreshTokenRecord}

theorem refl (a : RefreshTokenRecord) : SameToken a a := ⟨rfl, rfl, rfl, rfl, rfl⟩

theorem symm (same : SameToken a b) : SameToken b a :=
  ⟨same.id.symm, same.userId.symm, same.lookupPrefix.symm, same.session.symm, same.expiresAt.symm⟩

theorem trans (first : SameToken a b) (second : SameToken b c) : SameToken a c :=
  ⟨first.id.trans second.id, first.userId.trans second.userId,
    first.lookupPrefix.trans second.lookupPrefix, first.session.trans second.session,
    first.expiresAt.trans second.expiresAt⟩

theorem used (a : RefreshTokenRecord) (now : DateTime) : SameToken a (a.used now) :=
  ⟨rfl, rfl, rfl, rfl, rfl⟩

theorem revoked (a : RefreshTokenRecord) (now : DateTime) : SameToken a (a.revoked now) :=
  ⟨rfl, rfl, rfl, rfl, rfl⟩

end SameToken

namespace RefreshTokenStore

variable {store before middle after : RefreshTokenStore} {record read changed : RefreshTokenRecord}
  {key : String}

/-- The token that was read is stored. -/
def Holds (store : RefreshTokenStore) (record : RefreshTokenRecord) : Prop :=
  ∃ row, store.rows[record.lookupPrefix]? = some row ∧ SameToken record row

/-- Tokens stay, and those that were used or revoked stay so. -/
def Grows (before after : RefreshTokenStore) : Prop :=
  ∀ (key : String) row, before.rows[key]? = some row → ∃ later, after.rows[key]? = some later ∧
    SameToken row later ∧ (row.retired = true → later.retired = true)

theorem Grows.refl (store : RefreshTokenStore) : Grows store store :=
  fun _ row stored => ⟨row, stored, .refl row, id⟩

theorem Holds.grows (holds : Holds before record) (grows : Grows before after) : Holds after record := by
  obtain ⟨row, stored, same⟩ := holds
  obtain ⟨later, there, unchanged, _⟩ := grows _ row stored
  exact ⟨later, there, same.trans unchanged⟩

theorem Sound.holds (sound : store.Sound) (stored : store.rows[key]? = some record) :
    Holds store record := ⟨record, sound.stored_at stored, .refl record⟩

/-- By its id a token is found as it was read, but for its use or revocation. -/
theorem Holds.getById (holds : Holds store record) (sound : store.Sound) :
    ∃ row, store.getById record.id = some row ∧ SameToken record row := by
  obtain ⟨row, stored, same⟩ := holds
  rw [same.id]
  exact ⟨row, sound.getById_eq stored, same⟩

theorem used_retired (record : RefreshTokenRecord) (now : DateTime) :
    (record.used now).retired = true := rfl

theorem revoked_retired (record : RefreshTokenRecord) (now : DateTime) :
    (record.revoked now).retired = true := by
  rw [RefreshTokenRecord.retired, RefreshTokenRecord.revoked, Option.isSome_some, Bool.or_true]

/-- A record that was read is written back, used or revoked. -/
theorem update_grows (sound : store.Sound) (holds : Holds store read) (same : SameToken read changed)
    (retired : changed.retired = true) :
    (store.update changed).Sound ∧ Grows store (store.update changed) := by
  obtain ⟨row, stored, sameRow⟩ := holds
  have there : store.rows[changed.lookupPrefix]? = some row := same.lookupPrefix ▸ stored
  have isSame : SameToken row changed := sameRow.symm.trans same
  refine ⟨Indexed.Table.Sound.write sound there (congrArg Uuid.text isSame.id), ?_⟩
  intro key other found
  rw [rows_update]
  split
  next here =>
    rw [← here, there] at found
    cases found
    exact ⟨changed, rfl, isSame, fun _ => retired⟩
  next => exact ⟨other, found, .refl other, id⟩

theorem create_grows (free : store.rows[record.lookupPrefix]? = none) :
    Grows store (store.create record) := by
  intro key row stored
  rw [rows_create]
  split
  next here =>
    rw [← here, free] at stored
    cases stored
  next => exact ⟨row, stored, .refl row, id⟩

theorem not_usable_of_retired {record : RefreshTokenRecord} {now : DateTime} (retired : record.retired = true) :
    record.isUsable now = false := by
  unfold RefreshTokenRecord.isUsable
  unfold RefreshTokenRecord.retired at retired
  cases used : record.usedAt with
  | some _ => rfl
  | none =>
    cases revoked : record.revokedAt with
    | some _ => rfl
    | none => simp [used, revoked] at retired

end RefreshTokenStore

open RefreshTokenStore

namespace Revoking

/-- What one step of a revocation does. -/
inductive Step (store : RefreshTokenStore) (now : DateTime) :
    Revoking → RefreshTokenStore → Revoking → Prop where
  | done : Step store now (next []) store (next [])
  | passes {id : Uuid} {left : List Uuid}
      (dead : ∀ record, store.getById id = some record → record.revokedAt.isSome = true) :
      Step store now (next (id :: left)) store (next left)
  | reads {id : Uuid} {left : List Uuid} {record : RefreshTokenRecord}
      (found : store.getById id = some record) :
      Step store now (next (id :: left)) store (writes record now left)
  | writes (read : RefreshTokenRecord) (started : DateTime) (left : List Uuid) :
      Step store now (writes read started left) (store.update (read.revoked started)) (next left)

theorem step_spec (store : RefreshTokenStore) (now : DateTime) (revoking : Revoking) :
    Step store now revoking (revoking.step store now).1 (revoking.step store now).2 := by
  cases revoking with
  | writes read started left => exact .writes read started left
  | next left =>
    cases left with
    | nil => exact .done
    | cons id left =>
      cases found : store.getById id with
      | none =>
        simp only [step, found]
        refine .passes fun record isFound => ?_
        rw [found] at isFound
        cases isFound
      | some record =>
        by_cases dead : record.revokedAt.isSome = true
        · simp only [step, found, dead, if_true]
          refine .passes fun other isFound => ?_
          rw [found] at isFound
          cases isFound
          exact dead
        · simp only [step, found, dead, Bool.false_eq_true, if_false]
          exact .reads found

/-- Before a token is read, nothing is. -/
theorem next_reads_nothing {store : RefreshTokenStore} {left : List Uuid} :
    ∀ read, (next left).read = some read → Holds store read := by
  intro read isRead
  cases isRead

/-- What is read is stored, and what is written is revoked. -/
theorem Step.grows {store after : RefreshTokenStore} {now : DateTime} {revoking next : Revoking}
    (stepped : Step store now revoking after next) (sound : store.Sound)
    (held : ∀ read, revoking.read = some read → Holds store read) :
    after.Sound ∧ Grows store after ∧ ∀ read, next.read = some read → Holds after read := by
  cases stepped with
  | done => exact ⟨sound, .refl store, next_reads_nothing⟩
  | passes dead => exact ⟨sound, .refl store, next_reads_nothing⟩
  | reads found =>
    refine ⟨sound, .refl store, ?_⟩
    intro read isRead
    cases isRead
    exact sound.holds (sound.of_getById found).1
  | writes read started left =>
    obtain ⟨stillSound, grows⟩ := update_grows sound (held read rfl) (.revoked read started)
      (revoked_retired read started)
    exact ⟨stillSound, grows, next_reads_nothing⟩

end Revoking

namespace AuthSystem

variable {auth : AuthSetup} {system : AuthSystem} {store after : RefreshTokenStore} {task : AuthTask}

/-- The request presents the token whose record it found. -/
def Presents (store : RefreshTokenStore) (presented : String) (record : RefreshTokenRecord) : Prop :=
  Holds store record ∧ lookupPrefix refreshTokenPrefix presented = some record.lookupPrefix

/-- What a request goes by is stored. -/
def Grounded (store : RefreshTokenStore) : AuthTask → Prop
  | .refresh presented phase => match phase with
    | .checking record | .marking record | .marked record | .drawing record _ =>
      Presents store presented record
    | .markWrites record read _ => Presents store presented record ∧ SameToken record read
    | .storing record _ _ child => Presents store presented record ∧
        child.session = record.session ∧ child.userId = record.userId
    | .retiring revoking => ∀ read, revoking.read = some read → Holds store read
    | .granted _ _ => (lookupPrefix refreshTokenPrefix presented).isSome = true
    | _ => True
  | .account userId sessions phase =>
    (∀ sid ∈ sessions, ∃ (key : String) (row : RefreshTokenRecord), store.rows[key]? = some row ∧
      row.session = sid ∧ row.userId = userId) ∧
    match phase with
    | .sweeping revoking => ∀ read, revoking.read = some read → Holds store read
    | _ => True
  | .ending revoking => ∀ read, revoking.read = some read → Holds store read

theorem Presents.grows {presented : String} {record : RefreshTokenRecord}
    (presents : Presents store presented record) (grows : Grows store after) :
    Presents after presented record := ⟨presents.1.grows grows, presents.2⟩

theorem Grounded.grows (grounded : Grounded store task) (grows : Grows store after) :
    Grounded after task := by
  have reads : ∀ {revoking : Revoking}, (∀ read, revoking.read = some read → Holds store read) →
      ∀ read, revoking.read = some read → Holds after read :=
    fun held read isRead => (held read isRead).grows grows
  cases task with
  | refresh presented phase =>
    cases phase with
    | checking record => exact Presents.grows grounded grows
    | marking record => exact Presents.grows grounded grows
    | markWrites record read now => exact ⟨grounded.1.grows grows, grounded.2⟩
    | marked record => exact Presents.grows grounded grows
    | drawing record user => exact Presents.grows grounded grows
    | storing record user token child => exact ⟨grounded.1.grows grows, grounded.2⟩
    | retiring revoking => exact reads grounded
    | granted claims token => exact grounded
    | presented | tracing record | gathering record found | refused message => trivial
  | account userId sessions phase =>
    refine ⟨?_, ?_⟩
    · intro sid member
      obtain ⟨key, row, stored, ofSession, ofUser⟩ := grounded.1 sid member
      obtain ⟨later, there, same, _⟩ := grows key row stored
      exact ⟨key, later, there, same.session ▸ ofSession, same.userId ▸ ofUser⟩
    · cases phase with
      | sweeping revoking => exact reads grounded.2
      | reading change | writing change user | listing | returned | refused => trivial
  | ending revoking => exact reads grounded

/-- A lookup refuses, finds a token that was used before, or finds a usable one. -/
theorem lookUp_cases (system : AuthSystem) (presented : String) :
    (∃ message, system.lookUp presented = .refused message) ∨
    (∃ record, system.lookUp presented = .tracing record) ∨
    ∃ text record, system.lookUp presented = .checking record ∧
      lookupPrefix refreshTokenPrefix presented = some text ∧
      system.store.rows[text]? = some record ∧ record.isUsable system.now = true := by
  cases looked : lookupPrefix refreshTokenPrefix presented with
  | none => exact .inl ⟨_, by rw [lookUp, looked]⟩
  | some text =>
    cases found : system.store.getByPrefix text with
    | none => exact .inl ⟨_, by simp only [lookUp, looked, found]; rfl⟩
    | some record =>
      simp only [lookUp, looked, found]
      by_cases used : record.usedAt.isSome = true
      · exact .inr (.inl ⟨record, if_pos used⟩)
      · rw [if_neg used]
        by_cases dead : (record.revokedAt.isSome || decide (record.expiresAt ≤ system.now)) = true
        · exact .inl ⟨_, if_pos dead⟩
        · refine .inr (.inr ⟨text, record, if_neg dead, rfl, found, ?_⟩)
          rw [Bool.or_eq_true, not_or, decide_eq_true_eq, not_le] at dead
          simp only [RefreshTokenRecord.isUsable, Bool.and_eq_true, decide_eq_true_eq]
          exact ⟨⟨by simpa using used, by simpa using dead.1⟩, dead.2⟩

theorem lookUp_grounded (sound : system.store.Sound) (presented : String) :
    Grounded system.store (.refresh presented (system.lookUp presented)) := by
  rcases lookUp_cases system presented with ⟨message, refused⟩ | ⟨record, traced⟩ |
    ⟨text, record, found, looked, stored, _⟩
  · rw [refused]
    trivial
  · rw [traced]
    trivial
  · rw [found]
    refine ⟨sound.holds stored, ?_⟩
    rw [looked, sound.keyed text record stored]

/-- What `mark_used` has read is stored. -/
theorem Grounded.holds_read {presented : String} {record read : RefreshTokenRecord} {now : DateTime}
    (grounded : Grounded store (.refresh presented (.markWrites record read now))) :
    Holds store read := by
  obtain ⟨row, stored, same⟩ := grounded.1.1
  exact ⟨row, grounded.2.lookupPrefix ▸ stored, grounded.2.symm.trans same⟩

/-- The next step of a request whose token, if it stores one, is a new one. -/
theorem advance_grounded (sound : system.store.Sound) (grounded : Grounded system.store task)
    (fresh : ∀ presented record user token child, task = .refresh presented (.storing record user token child) →
      system.store.rows[child.lookupPrefix]? = none ∧
        ∀ (key : String) other, system.store.rows[key]? = some other → other.id ≠ child.id) :
    (system.advance auth task).1.Sound ∧ Grows system.store (system.advance auth task).1 ∧
      Grounded (system.advance auth task).1 (system.advance auth task).2.2 := by
  cases task with
  | ending revoking =>
    exact (Revoking.step_spec system.store system.now revoking).grows sound grounded
  | account userId sessions phase =>
    cases phase with
    | reading change =>
      simp only [advance, advanceAccount]
      cases system.users.getUserById userId with
      | none => exact ⟨sound, .refl _, grounded.1, trivial⟩
      | some user =>
        by_cases allowed : change.allowed system.users user = true
        · simp only [allowed, if_true]
          exact ⟨sound, .refl _, grounded.1, trivial⟩
        · simp only [allowed, Bool.false_eq_true, if_false]
          exact ⟨sound, .refl _, grounded.1, trivial⟩
    | writing change user =>
      simp only [advance, advanceAccount]
      cases change.apply user with
      | some changed => exact ⟨sound, .refl _, grounded.1, trivial⟩
      | none =>
        cases system.users.getUserById userId <;> exact ⟨sound, .refl _, grounded.1, trivial⟩
    | listing => exact ⟨sound, .refl _, grounded.1, Revoking.next_reads_nothing⟩
    | sweeping revoking =>
      simp only [advance, advanceAccount]
      split
      · exact ⟨sound, .refl _, grounded.1, trivial⟩
      · obtain ⟨stillSound, grows, reads⟩ :=
          (Revoking.step_spec system.store system.now revoking).grows sound grounded.2
        exact ⟨stillSound, grows, (Grounded.grows grounded grows).1, reads⟩
    | returned => exact ⟨sound, .refl _, grounded⟩
    | refused => exact ⟨sound, .refl _, grounded⟩
  | refresh presented phase =>
    cases phase with
    | presented => exact ⟨sound, .refl _, lookUp_grounded sound presented⟩
    | checking record =>
      simp only [advance, advanceRefresh]
      split
      · exact ⟨sound, .refl _, grounded⟩
      · exact ⟨sound, .refl _, trivial⟩
    | marking record =>
      obtain ⟨row, found, same⟩ := grounded.1.getById sound
      simp only [advance, advanceRefresh, found]
      exact ⟨sound, .refl _, grounded, same⟩
    | markWrites record read now =>
      obtain ⟨stillSound, grows⟩ :=
        update_grows sound (Grounded.holds_read grounded) (.used read now) (used_retired read now)
      exact ⟨stillSound, grows, grounded.1.grows grows⟩
    | marked record =>
      simp only [advance, advanceRefresh]
      cases system.users.getUserById record.userId with
      | none => exact ⟨sound, .refl _, trivial⟩
      | some user => exact ⟨sound, .refl _, grounded⟩
    | drawing record user => exact ⟨sound, .refl _, grounded⟩
    | storing record user token child =>
      obtain ⟨free, unknown⟩ := fresh presented record user token child rfl
      exact ⟨create_sound sound free unknown, create_grows free, Option.isSome_of_eq_some grounded.1.2⟩
    | tracing record => exact ⟨sound, .refl _, trivial⟩
    | gathering record found => exact ⟨sound, .refl _, Revoking.next_reads_nothing⟩
    | retiring revoking =>
      simp only [advance, advanceRefresh]
      split
      · exact ⟨sound, .refl _, trivial⟩
      · exact (Revoking.step_spec system.store system.now revoking).grows sound grounded
    | granted claims token => exact ⟨sound, .refl _, grounded⟩
    | refused message => exact ⟨sound, .refl _, trivial⟩

theorem draw_grounded (grounded : Grounded system.store task) (id : Uuid) (drawn : List NewRefreshToken) :
    Grounded system.store (system.draw auth id drawn task) := by
  unfold draw
  split
  next presented record user =>
    cases system.store.generate drawn with
    | none => trivial
    | some token => exact ⟨grounded, rfl, rfl⟩
  next => exact grounded

theorem freshToken_spec {input : AuthInput} {child : RefreshTokenRecord}
    (fresh : system.freshToken auth input = true) (isStored : system.stores auth input = some child) :
    system.store.rows[child.lookupPrefix]? = none ∧
      ∀ (key : String) other, system.store.rows[key]? = some other →
        other.id ≠ child.id ∧ other.session ≠ child.id := by
  simp only [freshToken, isStored, Option.all_some, Bool.and_eq_true, Bool.not_eq_true',
    List.all_eq_true, prefixExists, Option.isSome_eq_false_iff, Option.isNone_iff_eq_none] at fresh
  refine ⟨fresh.1, ?_⟩
  intro key other stored
  simpa using fresh.2 other (Indexed.Table.mem_list.mpr ⟨key, stored⟩)

/-- The indices lead to the tokens, and requests go by tokens that are stored. -/
structure Coherent (system : AuthSystem) : Prop where
  sound : system.store.Sound
  grounded : ∀ (index : Nat) task, system.tasks[index]? = some task → Grounded system.store task

theorem start_coherent (now : DateTime) (users : UserStore) : Coherent (start now users) where
  sound := Indexed.Table.empty_sound
  grounded := by
    intro index task found
    simp [start] at found

/-- A request's next step: the store after it, and what the request then goes by. -/
theorem Coherent.advance (coherent : Coherent system) {index : Nat}
    (was : system.tasks[index]? = some task) (fresh : system.freshToken auth (.work index) = true) :
    (system.advance auth task).1.Sound ∧ Grows system.store (system.advance auth task).1 ∧
      Grounded (system.advance auth task).1 (system.advance auth task).2.2 := by
  refine advance_grounded coherent.sound (coherent.grounded index task was) ?_
  rintro presented record user token child rfl
  have isStored : system.stores auth (.work index) = some child := by simp only [stores, was]
  obtain ⟨free, unknown⟩ := freshToken_spec fresh isStored
  exact ⟨free, fun key other stored => (unknown key other stored).1⟩

theorem step_coherent (coherent : Coherent system) (input : AuthInput)
    (fresh : system.freshToken auth input = true) :
    Coherent (system.step auth input) ∧ Grows system.store (system.step auth input).store := by
  have begins : ∀ {task : AuthTask}, Grounded system.store task → Coherent (system.begin task) ∧
      Grows system.store (system.begin task).store := by
    intro task grounded
    refine ⟨⟨coherent.sound, ?_⟩, .refl _⟩
    intro index found lookup
    rcases TaskList.getElem?_append_cases lookup with rfl | there
    · exact grounded
    · exact coherent.grounded index found there
  cases input with
  | tick nanos => exact ⟨⟨coherent.sound, coherent.grounded⟩, .refl _⟩
  | signIn userId userAgent id token =>
    obtain ⟨free, unknown⟩ := freshToken_spec fresh rfl
    have grows := create_grows free
    refine ⟨⟨create_sound coherent.sound free fun key other stored => (unknown key other stored).1, ?_⟩,
      grows⟩
    exact fun index task found => (coherent.grounded index task found).grows grows
  | presents token => exact begins trivial
  | changes userId change =>
    refine begins ⟨?_, trivial⟩
    intro sid member
    obtain ⟨record, listed, rfl⟩ := List.mem_map.mp member
    rw [listByUser, List.mem_insertionSort, List.mem_filter, decide_eq_true_eq] at listed
    obtain ⟨key, stored⟩ := Indexed.Table.mem_list.mp listed.1
    exact ⟨key, record, stored, rfl, listed.2⟩
  | ends id => exact begins Revoking.next_reads_nothing
  | draws index id drawn =>
    simp only [step]
    cases was : system.tasks[index]? with
    | none => exact ⟨coherent, .refl _⟩
    | some task =>
      refine ⟨⟨coherent.sound, ?_⟩, .refl _⟩
      intro other found lookup
      rcases TaskList.getElem?_set_cases lookup with ⟨rfl, rfl⟩ | ⟨_, there⟩
      · exact draw_grounded (coherent.grounded other task was) id drawn
      · exact coherent.grounded other found there
  | work index =>
    simp only [step, work]
    cases was : system.tasks[index]? with
    | none => exact ⟨coherent, .refl _⟩
    | some task =>
      obtain ⟨sound, grows, grounded⟩ := coherent.advance was fresh
      refine ⟨⟨sound, ?_⟩, grows⟩
      intro other found lookup
      rcases TaskList.getElem?_set_cases lookup with ⟨rfl, rfl⟩ | ⟨_, there⟩
      · exact grounded
      · exact (coherent.grounded other found there).grows grows

end AuthSystem
end HomeCore
