import HomeCore.Accounts.RefreshRequestsProofs
import HomeCore.Accounts.SessionsProofs

/-! A refresh token is exchanged at most once, if no request looks it up between another's
lookup and its mark. Two that both look it up first are both given a new pair. -/
namespace HomeCore
open RefreshTokenStore

namespace AuthSystem

variable {auth : AuthSetup} {system : AuthSystem} {task : AuthTask} {text : String}

/-- The prefix of the token that a request has found usable, from then on. -/
def claimed : AuthTask → Option String
  | .refresh presented phase => match phase with
    | .checking _ | .marking _ | .markWrites _ _ _ | .marked _ | .drawing _ _ | .storing _ _ _ _
    | .granted _ _ => lookupPrefix refreshTokenPrefix presented
    | _ => none
  | _ => none

/-- The prefix of the token that a request has marked as used. -/
def spent : AuthTask → Option String
  | .refresh presented phase => match phase with
    | .marked _ | .drawing _ _ | .storing _ _ _ _ | .granted _ _ =>
      lookupPrefix refreshTokenPrefix presented
    | _ => none
  | _ => none

/-- No two requests have found one token usable, and a token is retired once a request
has marked it. -/
structure Once (system : AuthSystem) : Prop where
  coherent : Coherent system
  exclusive : TaskList.Exclusive claimed system.tasks
  marked : ∀ (index : Nat) task text, system.tasks[index]? = some task → spent task = some text →
    ∃ row, system.store.rows[text]? = some row ∧ row.retired = true

theorem start_once (now : DateTime) (users : UserStore) : Once (start now users) where
  coherent := start_coherent now users
  exclusive := by
    intro i j a b x first
    simp [start] at first
  marked := by
    intro index task text first
    simp [start] at first

/-- A request that has found a token usable has marked it, or is yet to. -/
theorem claimed_cases {store : RefreshTokenStore} (grounded : Grounded store task)
    (holds : claimed task = some text) : spent task = some text ∨
      ∃ record, unmarked task = some record ∧ Holds store record ∧ record.lookupPrefix = text := by
  cases task with
  | account userId sessions phase => cases holds
  | ending revoking => cases holds
  | refresh presented phase =>
    have yet : ∀ record, Presents store presented record →
        lookupPrefix refreshTokenPrefix presented = some text →
        Holds store record ∧ record.lookupPrefix = text := by
      intro record presents looked
      rw [presents.2] at looked
      exact ⟨presents.1, Option.some.inj looked⟩
    cases phase with
    | checking record => exact .inr ⟨record, rfl, yet record grounded holds⟩
    | marking record => exact .inr ⟨record, rfl, yet record grounded holds⟩
    | markWrites record read now => exact .inr ⟨record, rfl, yet record grounded.1 holds⟩
    | marked record => exact .inl holds
    | drawing record user => exact .inl holds
    | storing record user token child => exact .inl holds
    | granted claims token => exact .inl holds
    | presented | tracing record | gathering record found | retiring revoking
    | refused message => cases holds

/-- A lookup that finds a usable token. -/
theorem lookUp_claimed {presented : String}
    (holds : claimed (.refresh presented (system.lookUp presented)) = some text) :
    ∃ record, system.lookUp presented = .checking record ∧ system.store.rows[text]? = some record ∧
      record.retired = false := by
  rcases lookUp_cases system presented with ⟨message, refused⟩ | ⟨record, traced⟩ |
    ⟨found, record, checking, looked, stored, usable⟩
  · rw [refused] at holds
    cases holds
  · rw [traced] at holds
    cases holds
  · rw [checking] at holds
    cases looked.symm.trans holds
    refine ⟨record, checking, stored, ?_⟩
    cases retired : record.retired with
    | false => rfl
    | true =>
      rw [not_usable_of_retired retired] at usable
      cases usable

/-- A request's next step leaves it with the token it had found, unless it looks one up. -/
theorem advance_claimed (holds : claimed (system.advance auth task).2.2 = some text) :
    claimed task = some text ∨ ∃ presented, task = .refresh presented .presented := by
  cases task with
  | account userId sessions phase => cases holds
  | ending revoking => cases holds
  | refresh presented phase =>
    cases phase with
    | presented => exact .inr ⟨presented, rfl⟩
    | checking record =>
      simp only [advance, advanceRefresh] at holds
      split at holds
      · exact .inl holds
      · cases holds
    | marking record =>
      simp only [advance, advanceRefresh] at holds
      split at holds <;> exact .inl holds
    | marked record =>
      simp only [advance, advanceRefresh] at holds
      split at holds
      · cases holds
      · exact .inl holds
    | retiring revoking =>
      simp only [advance, advanceRefresh] at holds
      split at holds <;> cases holds
    | markWrites record read now => exact .inl holds
    | drawing record user => exact .inl holds
    | storing record user token child => exact .inl holds
    | granted claims token => exact .inl holds
    | tracing record | gathering record found | refused message => cases holds

/-- A request's next step leaves it with the token it had marked, unless it marks one. -/
theorem advance_spent (sound : system.store.Sound) (grounded : Grounded system.store task)
    (isSpent : spent (system.advance auth task).2.2 = some text) :
    spent task = some text ∨
      ∃ row, (system.advance auth task).1.rows[text]? = some row ∧ row.retired = true := by
  cases task with
  | account userId sessions phase => cases isSpent
  | ending revoking => cases isSpent
  | refresh presented phase =>
    cases phase with
    | presented =>
      simp only [advance, advanceRefresh] at isSpent
      rcases lookUp_cases system presented with ⟨message, looked⟩ | ⟨record, looked⟩ |
        ⟨found, record, looked, _⟩ <;>
      · rw [looked] at isSpent
        cases isSpent
    | checking record =>
      simp only [advance, advanceRefresh] at isSpent
      split at isSpent <;> cases isSpent
    | marking record =>
      obtain ⟨row, found, _⟩ := grounded.1.getById sound
      simp only [advance, advanceRefresh, found] at isSpent
      cases isSpent
    | markWrites record read now =>
      refine .inr ⟨read.used now, ?_, used_retired read now⟩
      have here : read.lookupPrefix = text := by
        rw [← grounded.2.lookupPrefix]
        exact Option.some.inj (grounded.1.2.symm.trans isSpent)
      exact (rows_update system.store (read.used now) text).trans (if_pos here)
    | marked record =>
      simp only [advance, advanceRefresh] at isSpent
      split at isSpent
      · cases isSpent
      · exact .inl isSpent
    | retiring revoking =>
      simp only [advance, advanceRefresh] at isSpent
      split at isSpent <;> cases isSpent
    | drawing record user => exact .inl isSpent
    | storing record user token child => exact .inl isSpent
    | granted claims token => exact .inl isSpent
    | tracing record | gathering record found | refused message => cases isSpent

theorem draw_claims (childId : Uuid) (drawn : List NewRefreshToken) :
    (claimed (system.draw auth childId drawn task) = some text → claimed task = some text) ∧
      (spent (system.draw auth childId drawn task) = some text → spent task = some text) := by
  unfold draw
  split
  next presented record user =>
    cases system.store.generate drawn with
    | none => exact ⟨by rintro ⟨⟩, by rintro ⟨⟩⟩
    | some token => exact ⟨id, id⟩
  next => exact ⟨id, id⟩

/-- The lookup finds a token that no other request has found usable: one that marked it
would have retired it, and none is yet to mark it. -/
theorem Once.unclaimed (once : Once system) {index : Nat} {presented : String}
    (was : system.tasks[index]? = some (.refresh presented .presented))
    (alone : system.alone (.work index) = true)
    (holds : claimed (.refresh presented (system.lookUp presented)) = some text) (other : Nat)
    (found : system.tasks[other]? = some task) : claimed task ≠ some text := by
  intro taken
  obtain ⟨record, looked, stored, live⟩ := lookUp_claimed holds
  rcases claimed_cases (once.coherent.grounded other task found) taken with
    isSpent | ⟨theirs, pending, ⟨row, there, same⟩, here⟩
  · obtain ⟨row, there, retired⟩ := once.marked other task text found isSpent
    rw [stored] at there
    cases there
    rw [retired] at live
    cases live
  · rw [here, stored] at there
    cases there
    have isLookup : system.looksUp (.work index) = some record := by simp only [looksUp, was, looked]
    simp only [AuthSystem.alone, isLookup, Option.all_some, List.all_eq_true] at alone
    have differs := alone task (List.mem_of_getElem? found)
    rw [pending, Option.all_some, decide_eq_true_eq] at differs
    exact differs same.id

theorem step_once (once : Once system) (input : AuthInput)
    (fresh : system.freshToken auth input = true) (alone : system.alone input = true) :
    Once (system.step auth input) := by
  obtain ⟨coherent, grows⟩ := step_coherent once.coherent input fresh
  -- what was retired still is
  have still : ∀ {text : String}, (∃ row, system.store.rows[text]? = some row ∧ row.retired = true) →
      ∃ row, (system.step auth input).store.rows[text]? = some row ∧ row.retired = true := by
    rintro text ⟨row, stored, retired⟩
    obtain ⟨later, there, _, stays⟩ := grows text row stored
    exact ⟨later, there, stays retired⟩
  have begins : ∀ {task : AuthTask}, claimed task = none → spent task = none →
      (system.step auth input).tasks = system.tasks ++ [task] →
      Once (system.step auth input) := by
    intro task holdsNone spentNone tasks
    refine ⟨coherent, tasks ▸ once.exclusive.append holdsNone, ?_⟩
    intro index found text lookup isSpent
    rw [tasks] at lookup
    rcases TaskList.getElem?_append_cases lookup with rfl | there
    · rw [spentNone] at isSpent
      cases isSpent
    · exact still (once.marked index found text there isSpent)
  cases input with
  | tick nanos => exact ⟨coherent, once.exclusive, once.marked⟩
  | signIn userId userAgent id token =>
    exact ⟨coherent, once.exclusive, fun index task text found isSpent =>
      still (once.marked index task text found isSpent)⟩
  | presents token => exact begins rfl rfl rfl
  | changes userId change => exact begins rfl rfl rfl
  | ends id => exact begins rfl rfl rfl
  | draws index id drawn =>
    simp only [step] at coherent still ⊢
    cases was : system.tasks[index]? with
    | none => exact once
    | some task =>
      rw [was] at coherent
      refine ⟨coherent, once.exclusive.set was fun text holds => .inl ((draw_claims id drawn).1 holds), ?_⟩
      intro other found text lookup isSpent
      rcases TaskList.getElem?_set_cases lookup with ⟨rfl, rfl⟩ | ⟨_, there⟩
      · exact once.marked other task text was ((draw_claims id drawn).2 isSpent)
      · exact once.marked other found text there isSpent
  | work index =>
    simp only [step, work] at coherent still ⊢
    cases was : system.tasks[index]? with
    | none => exact once
    | some task =>
      simp only [was] at coherent still ⊢
      refine ⟨coherent, once.exclusive.set was ?_, ?_⟩
      · intro text holds
        rcases advance_claimed holds with held | ⟨presented, rfl⟩
        · exact .inl held
        · exact .inr fun other found there _ => once.unclaimed was alone holds other there
      · intro other found text lookup isSpent
        rcases TaskList.getElem?_set_cases lookup with ⟨rfl, rfl⟩ | ⟨_, there⟩
        · have grounded := once.coherent.grounded other task was
          rcases advance_spent once.coherent.sound grounded isSpent with already | marks
          · exact still (once.marked other task text was already)
          · exact marks
        · exact still (once.marked other found text there isSpent)

theorem Once.exchangedOnce (once : Once system) : ExchangedOnce system := by
  intro i j presented claims token claims' token' first second
  obtain ⟨text, looked⟩ := Option.isSome_iff_exists.mp (once.coherent.grounded i _ first)
  exact once.exclusive i j _ _ text first second looked looked

/-- In every interleaving in which a token is looked up only when no other request that
found it usable is yet to mark it, it is exchanged at most once. -/
theorem refresh_token_exchanged_once (auth : AuthSetup) (now : DateTime) (users : UserStore)
    (inputs : List AuthInput)
    (fresh : Runs.EachStep (step auth) (fun system input => system.freshToken auth input = true)
      (start now users) inputs)
    (alone : Runs.EachStep (step auth) (fun system input => system.alone input = true)
      (start now users) inputs) :
    Runs.Always (step auth) ExchangedOnce (start now users) inputs := by
  have always : Runs.Always (step auth) Once (start now users) inputs :=
    Runs.invariant Once (fun system input once safe => step_once once input safe.1 safe.2)
      (start_once now users) (fresh.and alone)
  exact always.mono fun system once => once.exchangedOnce

/-- Ada's browser and another program both present her token. -/
def presentedTwice : List AuthInput :=
  [.signIn ⟨7⟩ "browser" ⟨1⟩ (SessionSystem.drawnToken "first-token-body"),
    .presents "hc_rt_first-token-body", .presents "hc_rt_first-token-body"]

/-- One request is answered before the other looks the token up. -/
def oneAfterAnother : List AuthInput :=
  presentedTwice ++ [.work 0, .work 0, .work 0, .work 0, .work 0,
    .draws 0 ⟨2⟩ [SessionSystem.drawnToken "second-token-body"], .work 0,
    .work 1, .work 1, .work 1, .work 1, .work 1]

theorem adas_token_exchanged_once :
    Runs.Always (step SessionSystem.dailyAuth) ExchangedOnce (start 0 SessionSystem.adasHouse)
        oneAfterAnother ∧
      (oneAfterAnother.foldl (step SessionSystem.dailyAuth)
        (start 0 SessionSystem.adasHouse)).tasks.map claimed = [some "first-token-", none] := by
  refine ⟨refresh_token_exchanged_once SessionSystem.dailyAuth 0 SessionSystem.adasHouse
    oneAfterAnother ?_ ?_, ?_⟩
  all_goals decide

/-- Both look the token up before either marks it. -/
def bothLookUp : List AuthInput :=
  presentedTwice ++ [.work 0, .work 1, .work 0, .work 0, .work 0, .work 0,
    .draws 0 ⟨2⟩ [SessionSystem.drawnToken "second-token-body"], .work 0,
    .work 1, .work 1, .work 1, .work 1,
    .draws 1 ⟨3⟩ [SessionSystem.drawnToken "third-token-body"], .work 1]

def afterBothLookUp : AuthSystem :=
  bothLookUp.foldl (step SessionSystem.dailyAuth) (start 0 SessionSystem.adasHouse)

def isGranted (presented : String) : AuthTask → Bool
  | .refresh other (.granted _ _) => other = presented
  | _ => false

theorem of_isGranted {index : Nat} {presented : String}
    (granted : system.tasks[index]?.any (isGranted presented) = true) :
    ∃ claims token, system.tasks[index]? = some (.refresh presented (.granted claims token)) := by
  obtain ⟨task, found, isTask⟩ := (Option.any_eq_true _ _).mp granted
  rw [found]
  unfold isGranted at isTask
  split at isTask
  next other claims token =>
    rw [decide_eq_true_eq] at isTask
    exact ⟨claims, token, by rw [isTask]⟩
  next => cases isTask

theorem adas_token_exchanged_twice :
    ¬ Runs.Always (step SessionSystem.dailyAuth) ExchangedOnce (start 0 SessionSystem.adasHouse)
      bothLookUp := by
  intro always
  have once : ExchangedOnce afterBothLookUp := always.last
  have granted : ∀ index < 2, afterBothLookUp.tasks[index]?.any
      (isGranted "hc_rt_first-token-body") = true := by
    decide
  obtain ⟨claims, token, first⟩ := of_isGranted (granted 0 (by decide))
  obtain ⟨claims', token', second⟩ := of_isGranted (granted 1 (by decide))
  cases once 0 1 _ _ _ _ _ first second

end AuthSystem
end HomeCore
