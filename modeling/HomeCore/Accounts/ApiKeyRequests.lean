import HomeCore.Accounts.ApiKeys
import HomeCore.Runs

/-! Requests on API keys side by side. Each access of the database is a step of its own:
a key that is presented is looked up, and accepted once its hash has been compared, by the
record found. It leaves a task behind that reads the record and writes it back, and so do
revocations, rotations and changes of metadata. -/
namespace HomeCore

inductive KeyTask where
  | presented (token : String) (ip : Option String)
  /-- The key was found usable, and its hash is being compared. -/
  | comparing (token : String) (ip : Option String) (read : ApiKeyRecord)
  /-- The update of `last_used_at` that an accepted key leaves behind. -/
  | touching (id : Uuid)
  | touchWrites (read : ApiKeyRecord) (now : DateTime)
  | revoking (id : Uuid)
  | revokeWrites (read : ApiKeyRecord) (now : DateTime)
  /-- A rotation that has drawn its secret and is to read the key. -/
  | rotating (id : Uuid) (secret : NewApiKey)
  | replaceWrites (read : ApiKeyRecord) (secret : NewApiKey) (now : DateTime)
  | editing (id : Uuid) (edit : ApiKeyEdit)
  | editWrites (read : ApiKeyRecord) (edit : ApiKeyEdit)
  | storing (record : ApiKeyRecord)
  | done
  deriving DecidableEq

structure KeySystem where
  now : DateTime
  store : ApiKeyStore
  tasks : List KeyTask
  /-- The prefixes of the secrets that a revocation or a rotation has put an end to. -/
  dead : List String

inductive KeyInput where
  | tick (nanos : Nat)
  /-- A request presents a key. -/
  | presents (token : String) (ip : Option String)
  | creates (record : ApiKeyRecord)
  | revokes (id : Uuid)
  | rotates (id : Uuid) (drawn : List NewApiKey)
  | edits (id : Uuid) (edit : ApiKeyEdit)
  /-- The next step of a request or of a task left behind. -/
  | work (task : Nat)
  deriving DecidableEq

namespace KeySystem

def begin (system : KeySystem) (task : KeyTask) : KeySystem :=
  { system with tasks := system.tasks ++ [task] }

/-- A step that reads the key with this id, if there is one. -/
def reads (system : KeySystem) (id : Uuid) (next : ApiKeyRecord → KeyTask) : KeyTask :=
  match system.store.getById id with
  | none => .done
  | some record => next record

/-- The next step of a task: the store, the secrets ended by it, and what is left to do. -/
def advance (checks : KeyChecks) (system : KeySystem) : KeyTask → ApiKeyStore × List String × KeyTask
  | .presented token ip => (system.store, [], match usableKey system.store system.now token with
    | .error _ => .done
    | .ok record => .comparing token ip record)
  | .comparing token ip read => (system.store, [], match admitKey checks token ip read with
    | .error _ => .done
    | .ok record => .touching record.id)
  | .touching id => (system.store, [], system.reads id (.touchWrites · system.now))
  | .touchWrites read now => (system.store.update (read.touched now), [], .done)
  | .revoking id => match system.store.getById id with
    | none => (system.store, [], .done)
    | some record =>
      if record.revokedAt.isSome then (system.store, [record.lookupPrefix], .done)
      else (system.store, [], .revokeWrites record system.now)
  | .revokeWrites read now => (system.store.update (read.revoked now), [read.lookupPrefix], .done)
  | .rotating id secret => (system.store, [], system.reads id (.replaceWrites · secret system.now))
  | .replaceWrites read secret now =>
    (system.store.replaceWrite read secret.lookupPrefix secret.hash now, [read.lookupPrefix], .done)
  | .editing id edit => (system.store, [], system.reads id (.editWrites · edit))
  | .editWrites read edit => (system.store.update (read.edited edit), [], .done)
  | .storing record => (system.store.create record, [], .done)
  | .done => (system.store, [], .done)

def work (checks : KeyChecks) (system : KeySystem) (index : Nat) : KeySystem :=
  match system.tasks[index]? with
  | none => system
  | some task =>
    let next := system.advance checks task
    { system with
      store := next.1
      dead := next.2.1 ++ system.dead
      tasks := system.tasks.set index next.2.2 }

/-- The probe for a free prefix comes before a key is stored or its secret replaced. -/
def step (checks : KeyChecks) (system : KeySystem) : KeyInput → KeySystem
  | .tick nanos => { system with now := system.now + nanos }
  | .presents token ip => system.begin (.presented token ip)
  | .creates record =>
    if system.store.prefixExists record.lookupPrefix then system else system.begin (.storing record)
  | .revokes id => system.begin (.revoking id)
  | .rotates id drawn => match system.store.generate drawn with
    | none => system
    | some secret => system.begin (.rotating id secret)
  | .edits id edit => system.begin (.editing id edit)
  | .work index => system.work checks index

/-- The key that a step accepts. -/
def accepts (checks : KeyChecks) (system : KeySystem) : KeyInput → Option String
  | .work index => match system.tasks[index]? with
    | some (.comparing token ip read) => if (admitKey checks token ip read).isOk then some token else none
    | _ => none
  | _ => none

def start (now : DateTime) : KeySystem := ⟨now, .empty, [], []⟩

/-- A secret that was ended would not be accepted, and no prefix leads to two keys. -/
structure DeadStaysDead (checks : KeyChecks) (system : KeySystem) : Prop where
  refused : ∀ token ip text, lookupPrefix apiKeyPrefix token = some text → text ∈ system.dead →
    ∃ message, verifyApiKey checks system.store system.now token ip = .error message
  onePerPrefix : ∀ (id id' : Uuid) (text : String), system.store.index[id.text]? = some text →
    system.store.index[id'.text]? = some text → id = id'

/-- Nor is it, by a request that had found it before. -/
def NoDeadAccepted (checks : KeyChecks) (system : KeySystem) (input : KeyInput) : Prop :=
  ∀ token ∈ system.accepts checks input, ∀ text, lookupPrefix apiKeyPrefix token = some text →
    text ∉ system.dead

/-- Random ids and prefixes do not repeat. -/
def freshSecret (system : KeySystem) : KeyInput → Bool
  | .work index => match system.tasks[index]? with
    | some (.storing record) => !system.store.prefixExists record.lookupPrefix &&
        !system.dead.contains record.lookupPrefix &&
        system.store.list.all fun other => other.id ≠ record.id
    | some (.replaceWrites _ secret _) => !system.store.prefixExists secret.lookupPrefix &&
        !system.dead.contains secret.lookupPrefix
    | _ => true
  | _ => true

/-- The key still has the secret it had when it was read. -/
def sameSecret (system : KeySystem) (read : ApiKeyRecord) : Bool :=
  (system.store.getById read.id).any (·.lookupPrefix = read.lookupPrefix)

/-- Nor was it revoked since. -/
def unrevokedSince (system : KeySystem) (read : ApiKeyRecord) : Bool :=
  (system.store.getById read.id).all fun stored => !stored.isRevoked || read.isRevoked

/-- A record is written back only while the key has the secret it had when it was read,
and, where the write does not revoke or rotate the key, was not revoked since. -/
def writesCurrent (system : KeySystem) : KeyInput → Bool
  | .work index => match system.tasks[index]? with
    | some (.touchWrites read _) => system.sameSecret read && system.unrevokedSince read
    | some (.editWrites read _) => system.sameSecret read && system.unrevokedSince read
    | some (.revokeWrites read _) => system.sameSecret read
    | some (.replaceWrites read _ _) => system.sameSecret read
    | _ => true
  | _ => true

/-- A request that presents the secret found it usable, and will be let in. -/
def letsIn (checks : KeyChecks) (system : KeySystem) (text : String) : Bool :=
  system.tasks.any fun task => match task with
    | .comparing token ip read => read.lookupPrefix = text && (admitKey checks token ip read).isOk
    | _ => false

/-- No step ends a secret between the lookup and the acceptance of a request with it. -/
def endsApart (checks : KeyChecks) (system : KeySystem) : KeyInput → Bool
  | .work index => (system.tasks[index]?).all fun task =>
    (system.advance checks task).2.1.all (!system.letsIn checks ·)
  | _ => true

end KeySystem
end HomeCore

/-! A secret that was revoked or rotated away stays dead, where no record is written back
over a revocation or a rotation that came after it was read, and none comes while a request
with the secret is being checked. The update of `last_used_at` is such a write: it brings a
key back to life whose revocation it did not see. -/
namespace HomeCore

namespace KeySystem

variable {checks : KeyChecks} {system : KeySystem} {task : KeyTask} {read : ApiKeyRecord} {text : String}

/-- Under the prefix of a secret that was ended lies no key, or a revoked one. -/
structure Buried (store : ApiKeyStore) (dead : List String) : Prop where
  sound : store.Sound
  revoked : ∀ text ∈ dead, ∀ record, store.rows[text]? = some record → record.isRevoked = true

theorem sameSecret_spec (same : system.sameSecret read = true) :
    ∃ stored, system.store.getById read.id = some stored ∧
      stored.lookupPrefix = read.lookupPrefix := by
  obtain ⟨stored, found, isSame⟩ := (Option.any_eq_true _ _).mp same
  exact ⟨stored, found, by simpa using isSame⟩

/-- A record is written back over the one it was read as. -/
theorem Buried.update (buried : Buried system.store system.dead) {changed : ApiKeyRecord}
    (same : system.sameSecret read = true) (sameId : changed.id = read.id)
    (samePrefix : changed.lookupPrefix = read.lookupPrefix)
    (careful : ∀ stored, system.store.getById read.id = some stored → stored.isRevoked = true →
      changed.isRevoked = true) : Buried (system.store.update changed) system.dead := by
  obtain ⟨stored, found, isSame⟩ := sameSecret_spec same
  obtain ⟨there, _⟩ := buried.sound.of_getById found
  rw [← sameId] at found
  refine ⟨ApiKeyStore.update_sound buried.sound found (isSame.trans samePrefix.symm), ?_⟩
  intro text member record held
  rw [ApiKeyStore.rows_update] at held
  split at held
  next here =>
    cases held
    rw [← here, samePrefix, ← isSame] at member
    exact careful stored (sameId ▸ found) (buried.revoked _ member stored there)
  next => exact buried.revoked text member record held

theorem unrevokedSince_spec (since : system.unrevokedSince read = true) {stored : ApiKeyRecord}
    (found : system.store.getById read.id = some stored) (isRevoked : stored.isRevoked = true) :
    read.isRevoked = true := by
  rw [unrevokedSince, found, Option.all_some, isRevoked, Bool.not_true, Bool.false_or] at since
  exact since

/-- A prefix is added under which lies a revoked key. -/
theorem Buried.cons {store : ApiKeyStore} {dead : List String} (buried : Buried store dead)
    (revoked : ∀ record, store.rows[text]? = some record → record.isRevoked = true) :
    Buried store (text :: dead) := by
  refine ⟨buried.sound, ?_⟩
  intro other member record held
  rcases List.mem_cons.mp member with rfl | earlier
  · exact revoked record held
  · exact buried.revoked other earlier record held

theorem advance_buried (buried : Buried system.store system.dead) {index : Nat}
    (was : system.tasks[index]? = some task) (fresh : system.freshSecret (.work index) = true)
    (current : system.writesCurrent (.work index) = true) :
    Buried (system.advance checks task).1 ((system.advance checks task).2.1 ++ system.dead) := by
  cases task with
  | presented token ip => exact buried
  | comparing token ip read => exact buried
  | touching id => exact buried
  | rotating id secret => exact buried
  | editing id edit => exact buried
  | done => exact buried
  | touchWrites read now =>
    simp only [writesCurrent, was, Bool.and_eq_true] at current
    exact buried.update current.1 rfl rfl fun stored found isRevoked =>
      (unrevokedSince_spec current.2 found isRevoked : (read.touched now).isRevoked = true)
  | editWrites read edit =>
    simp only [writesCurrent, was, Bool.and_eq_true] at current
    exact buried.update current.1 rfl rfl fun stored found isRevoked =>
      (unrevokedSince_spec current.2 found isRevoked : (read.edited edit).isRevoked = true)
  | revoking id =>
    simp only [advance]
    cases found : system.store.getById id with
    | none => exact buried
    | some record =>
      by_cases isRevoked : record.revokedAt.isSome = true
      · simp only [isRevoked, if_true]
        refine buried.cons ?_
        intro other held
        rw [(buried.sound.of_getById found).1] at held
        cases held
        exact isRevoked
      · simp only [isRevoked, Bool.false_eq_true, if_false]
        exact buried
  | revokeWrites read now =>
    simp only [writesCurrent, was] at current
    have written : Buried (system.store.update (read.revoked now)) system.dead :=
      buried.update current rfl rfl fun _ _ _ => rfl
    refine written.cons ?_
    intro record held
    rw [ApiKeyStore.rows_update] at held
    split at held
    next =>
      cases held
      rfl
    next apart => exact (apart rfl).elim
  | replaceWrites read secret now =>
    simp only [writesCurrent, was] at current
    simp only [freshSecret, was, Bool.and_eq_true, Bool.not_eq_true', List.contains_eq_mem,
      decide_eq_false_iff_not] at fresh
    obtain ⟨stored, found, same⟩ := sameSecret_spec current
    obtain ⟨there, _⟩ := buried.sound.of_getById found
    have free := ApiKeyStore.prefixExists_eq_false fresh.1
    refine ⟨ApiKeyStore.replaceWrite_sound buried.sound found same free, ?_⟩
    intro text member record held
    simp only [advance, ApiKeyStore.rows_replaceWrite] at held
    split at held
    next here =>
      -- the new prefix is neither the old one nor another that was ended
      rcases List.mem_cons.mp member with isOld | earlier
      · rw [here, isOld, ← same, there] at free
        cases free
      · exact (fresh.2 (here ▸ earlier)).elim
    next =>
      split at held
      next => cases held
      next apart =>
        rcases List.mem_cons.mp member with rfl | earlier
        · exact (apart rfl).elim
        · exact buried.revoked text earlier record held
  | storing record =>
    simp only [freshSecret, was, Bool.and_eq_true, Bool.not_eq_true', List.contains_eq_mem,
      decide_eq_false_iff_not, List.all_eq_true, decide_eq_true_eq] at fresh
    have free := ApiKeyStore.prefixExists_eq_false fresh.1.1
    refine ⟨ApiKeyStore.create_sound buried.sound free fun key other stored =>
      fresh.2 other (Indexed.Table.mem_list.mpr ⟨key, stored⟩), ?_⟩
    intro text member other held
    simp only [advance, ApiKeyStore.rows_create] at held
    split at held
    next here => exact (fresh.1.2 (here ▸ member)).elim
    next => exact buried.revoked text member other held

theorem step_buried (buried : Buried system.store system.dead) (input : KeyInput)
    (fresh : system.freshSecret input = true) (current : system.writesCurrent input = true) :
    Buried (system.step checks input).store (system.step checks input).dead := by
  cases input with
  | tick nanos => exact buried
  | presents token ip => exact buried
  | creates record =>
    simp only [step]
    split <;> exact buried
  | revokes id => exact buried
  | rotates id drawn =>
    simp only [step]
    cases system.store.generate drawn <;> exact buried
  | edits id edit => exact buried
  | work index =>
    simp only [step, work]
    cases was : system.tasks[index]? with
    | none => exact buried
    | some task => exact advance_buried buried was fresh current

/-- What a lookup finds usable was not ended. -/
theorem Buried.usable (buried : Buried system.store system.dead) {token : String} {record : ApiKeyRecord}
    (usable : usableKey system.store system.now token = .ok record) :
    lookupPrefix apiKeyPrefix token = some record.lookupPrefix ∧ record.lookupPrefix ∉ system.dead := by
  rw [usableKey] at usable
  split at usable
  next => cases usable
  next text looked =>
    split at usable
    next => cases usable
    next stored found =>
      split at usable
      next => cases usable
      next isUsable =>
        cases usable
        have here : record.lookupPrefix = text := buried.sound.keyed text record found
        refine ⟨by rw [looked, here], fun dead => isUsable ?_⟩
        rw [ApiKeyRecord.isUsable, buried.revoked text (here ▸ dead) record found, Bool.not_true,
          Bool.false_and, Bool.not_false]

theorem Buried.deadStaysDead (buried : Buried system.store system.dead) :
    DeadStaysDead checks system := by
  refine ⟨?_, ?_⟩
  · intro token ip text looked member
    rw [verifyApiKey]
    cases usable : usableKey system.store system.now token with
    | error message => exact ⟨message, rfl⟩
    | ok record =>
      obtain ⟨own, alive⟩ := buried.usable usable
      obtain rfl := Option.some.inj (looked.symm.trans own)
      exact absurd member alive
  · intro id id' text leads also
    obtain ⟨record, stored, named⟩ := buried.sound.named _ text leads
    obtain ⟨record', stored', named'⟩ := buried.sound.named _ text also
    rw [stored] at stored'
    cases stored'
    exact Uuid.text_injective (named.symm.trans named')

/-! ## Requests on their way -/

/-- What a request found is the key it asked for, and, where it will be let in, not ended since. -/
def FoundAlive (checks : KeyChecks) (dead : List String) : KeyTask → Prop
  | .comparing token ip read => lookupPrefix apiKeyPrefix token = some read.lookupPrefix ∧
      ((admitKey checks token ip read).isOk = true → read.lookupPrefix ∉ dead)
  | _ => True

/-- A lookup ends nothing, and only a lookup finds a key. -/
theorem advance_found (buried : Buried system.store system.dead) (task : KeyTask) :
    FoundAlive checks ((system.advance checks task).2.1 ++ system.dead)
      (system.advance checks task).2.2 := by
  cases task with
  | presented token ip =>
    simp only [advance]
    cases usable : usableKey system.store system.now token with
    | error => trivial
    | ok record => exact ⟨(buried.usable usable).1, fun _ => (buried.usable usable).2⟩
  | comparing token ip read =>
    simp only [advance]
    cases admitKey checks token ip read <;> trivial
  | revoking id =>
    simp only [advance]
    split
    · trivial
    · split <;> trivial
  | touching id | rotating id secret | editing id edit =>
    simp only [advance, reads]
    split <;> trivial
  | touchWrites | revokeWrites | replaceWrites | editWrites | storing | done => trivial

theorem step_found (buried : Buried system.store system.dead)
    (found : ∀ task ∈ system.tasks, FoundAlive checks system.dead task) (input : KeyInput)
    (apart : system.endsApart checks input = true) :
    ∀ task ∈ (system.step checks input).tasks, FoundAlive checks (system.step checks input).dead task := by
  have begun (first : KeyTask) (fresh : FoundAlive checks system.dead first) :
      ∀ task ∈ (system.begin first).tasks, FoundAlive checks system.dead task := by
    intro task member
    rcases List.mem_append.mp member with there | new
    · exact found task there
    · rw [List.mem_singleton.mp new]
      exact fresh
  cases input with
  | tick nanos => exact found
  | presents token ip => exact begun _ trivial
  | creates record =>
    simp only [step]
    split
    · exact found
    · exact begun _ trivial
  | revokes id => exact begun _ trivial
  | rotates id drawn =>
    simp only [step]
    cases system.store.generate drawn with
    | none => exact found
    | some secret => exact begun _ trivial
  | edits id edit => exact begun _ trivial
  | work index =>
    simp only [step, work]
    cases was : system.tasks[index]? with
    | none => exact found
    | some moving =>
      simp only [endsApart, was, Option.all_some, List.all_eq_true, Bool.not_eq_true'] at apart
      -- what a step ends is not what a request that will be let in has found
      have ended : ∀ task, FoundAlive checks system.dead task → task ∈ system.tasks →
          FoundAlive checks ((system.advance checks moving).2.1 ++ system.dead) task := by
        intro task alive member
        cases task with
        | comparing token ip read =>
          refine ⟨alive.1, fun admitted dead => ?_⟩
          rcases List.mem_append.mp dead with now | before
          · have waits : system.letsIn checks read.lookupPrefix = true :=
              List.any_eq_true.mpr ⟨_, member, by simp [admitted]⟩
            rw [apart _ now] at waits
            cases waits
          · exact alive.2 admitted before
        | _ => trivial
      intro task member
      rcases List.mem_or_eq_of_mem_set member with there | rfl
      · exact ended task (found task there) there
      · exact advance_found buried moving

theorem accepts_alive (found : ∀ task ∈ system.tasks, FoundAlive checks system.dead task)
    (input : KeyInput) : NoDeadAccepted checks system input := by
  intro token accepted text looked
  cases input with
  | work index =>
    simp only [accepts] at accepted
    split at accepted
    next ip read was =>
      obtain ⟨own, alive⟩ := found _ (List.mem_of_getElem? was)
      split at accepted
      next admitted =>
        cases accepted
        obtain rfl := Option.some.inj (looked.symm.trans own)
        exact alive admitted
      next => cases accepted
    next => cases accepted
  | _ => cases accepted

/-- In every interleaving whose writes find the key as it was read, a dead secret stays
dead. -/
theorem dead_secrets_stay_dead (checks : KeyChecks) (now : DateTime) (inputs : List KeyInput)
    (fresh : Runs.EachStep (step checks) (fun system input => system.freshSecret input = true)
      (start now) inputs)
    (current : Runs.EachStep (step checks) (fun system input => system.writesCurrent input = true)
      (start now) inputs)
    (apart : Runs.EachStep (step checks) (fun system input => system.endsApart checks input = true)
      (start now) inputs) :
    Runs.Always (step checks) (DeadStaysDead checks) (start now) inputs ∧
      Runs.EachStep (step checks) (NoDeadAccepted checks) (start now) inputs := by
  have begun : Buried (start now).store (start now).dead :=
    ⟨Indexed.Table.empty_sound, fun text member => by cases member⟩
  let inv : KeySystem → Prop := fun system => Buried system.store system.dead ∧
    ∀ task ∈ system.tasks, FoundAlive checks system.dead task
  have always : Runs.Always (step checks) inv (start now) inputs := by
    refine Runs.invariant inv (fun system input kept safe => ?_)
      ⟨begun, fun task member => by cases member⟩ ((fresh.and current).and apart)
    exact ⟨step_buried kept.1 input safe.1.1 safe.1.2, step_found kept.1 kept.2 input safe.2⟩
  refine ⟨always.mono fun system kept => kept.1.deadStaysDead, always.eachStep fun system input kept => ?_⟩
  exact accepts_alive kept.2 input

def scriptKey : ApiKeyRecord where
  id := ⟨5⟩
  lookupPrefix := "script-key-a"
  hash := "hash of hc_sk_script-key-abcdef"
  ownerUid := ⟨7⟩
  scopes := ["devices:read"]
  label := "script"
  createdAt := 0
  lastUsedAt := none
  expiresAt := none
  allowedCidrs := []
  revokedAt := none
  display := false

/-- The key is used and then revoked; the task that its use left behind runs before. -/
def touchedThenRevoked : List KeyInput :=
  [.creates scriptKey, .work 0, .presents "hc_sk_script-key-abcdef" none, .work 1, .work 1, .work 1,
    .work 1, .revokes ⟨5⟩, .work 2, .work 2, .presents "hc_sk_script-key-abcdef" none, .work 3]

theorem script_key_stays_dead :
    (Runs.Always (step plainChecks) (DeadStaysDead plainChecks) (start 0) touchedThenRevoked ∧
      Runs.EachStep (step plainChecks) (NoDeadAccepted plainChecks) (start 0) touchedThenRevoked) ∧
      (touchedThenRevoked.foldl (step plainChecks) (start 0)).dead = ["script-key-a"] := by
  refine ⟨dead_secrets_stay_dead plainChecks 0 touchedThenRevoked ?_ ?_ ?_, ?_⟩
  all_goals decide

/-- The task reads the record before the revocation is written and writes it after. -/
def revokedUnderTouch : List KeyInput :=
  [.creates scriptKey, .work 0, .presents "hc_sk_script-key-abcdef" none, .work 1, .work 1, .work 1,
    .revokes ⟨5⟩, .work 2, .work 2, .work 1]

/-- The key is revoked while the hash of the secret is being compared. -/
def revokedUnderCheck : List KeyInput :=
  [.creates scriptKey, .work 0, .presents "hc_sk_script-key-abcdef" none, .work 1, .revokes ⟨5⟩,
    .work 2, .work 2]

def afterRevokedUnderTouch : KeySystem := revokedUnderTouch.foldl (step plainChecks) (start 0)

/-- A key that was revoked is usable again, or is accepted all the same. -/
theorem revoked_key_revives :
    ¬ Runs.Always (step plainChecks) (DeadStaysDead plainChecks) (start 0) revokedUnderTouch ∧
      ¬ Runs.EachStep (step plainChecks) (NoDeadAccepted plainChecks) (start 0)
        (revokedUnderCheck ++ [.work 1]) := by
  constructor
  · intro always
    have dead : DeadStaysDead plainChecks afterRevokedUnderTouch := always.last
    obtain ⟨message, refused⟩ := dead.refused "hc_sk_script-key-abcdef" none "script-key-a"
      (by decide) (by decide)
    have accepted : (verifyApiKey plainChecks afterRevokedUnderTouch.store afterRevokedUnderTouch.now
        "hc_sk_script-key-abcdef" none).isOk = true := by
      decide
    rw [refused] at accepted
    cases accepted
  · intro steps
    exact steps.last "hc_sk_script-key-abcdef" (by decide) "script-key-a" (by decide) (by decide)

end KeySystem
end HomeCore
