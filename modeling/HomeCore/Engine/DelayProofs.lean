import HomeCore.Engine.RuleRunsProofs

/-! Which delays can be cancelled. The registry holds one handle for a key, so a
delay is reachable under its key as long as no other one sleeps under the same. -/
namespace HomeCore.Engine
open ForkJoin hiding Task
open scoped List

/-! ## Sleeping delays -/

def Frame.delay? : Frame → Option (String × Nat)
  | .sleeping key handle => some (key, handle)
  | _ => none

/-- Every delay that is sleeping, with its key and its wake handle. -/
def sleepingOf (tasks : Machine) : List (String × Nat) := (framesOf tasks).filterMap Frame.delay?

/-- The keys of delays that an action cancels. -/
def namedBy (ctx : ExecutorContext) : Action → String → Bool
  | .cancelDelays (some k), key => key == ctx.ruleId.text ++ "/" ++ k
  | .cancelDelays none, key => keyOfRule ctx.ruleId key
  | .cancelRuleTimers ruleId, key => keyOfRule (ruleId.getD ctx.ruleId) key
  | _, _ => false

def Frame.named : Frame → String → Bool
  | .action ctx step => namedBy ctx step
  | _ => fun _ => false

/-- The keys of delays that an input cancels. -/
def cancelledBy (s : System) (key : String) : Input → Bool
  | .poll task _ => (onTop s task).any (·.named key)
  | .check rule => s.firing.isNone && decide (rule.runMode = .restart) && keyOfRule rule.id key
  | .cancelOnFalse ruleId => s.firing.isNone && keyOfRule ruleId key
  | _ => false

/-- Every delay that sleeps on is registered under its key. -/
def Registered (shared : Shared) (sleeping : List (String × Nat)) : Prop :=
  ∀ d ∈ sleeping, d.2 ∉ shared.notified → shared.delayRegistry[d.1]? = some d.2

/-- Every delay that sleeps on is registered under its key, and whatever cancels
delays next wakes every one that it names. -/
def DelaysReachable (s : System) : Prop :=
  Registered s.shared (sleepingOf s.tasks) ∧
  ∀ input, ∀ d ∈ sleepingOf s.tasks, cancelledBy s d.1 input = true →
    d.2 ∈ (step s input).shared.notified

/-- None of these delays sleeps on under the key. -/
def Unused (shared : Shared) (key : String) (sleeping : List (String × Nat)) : Prop :=
  ∀ d ∈ sleeping, d.2 ∉ shared.notified → d.1 ≠ key

/-- A delay starts, or ends, under a key that no other delay sleeps on under. -/
def Frame.KeyFree (shared : Shared) (sleeping : List (String × Nat)) (answer : Answer) : Frame → Prop
  | .action ctx (.delay _ true cancelKey) =>
    Unused shared (delayKey ctx cancelKey answer.fresh) sleeping
  | .sleeping key handle => Unused shared key (sleeping.erase (key, handle))
  | _ => True

/-- Wherever a delay starts or ends in a run, its key is its own. -/
def KeyFree (s : System) : Input → Prop
  | .poll task answer =>
    ∀ frame ∈ onTop s task, frame.KeyFree s.shared (sleepingOf s.tasks) answer
  | _ => True

/-! ## Cancelling -/

/-- What a cancellation does: the handles under the named keys are notified, and
the other keys stay as they are. -/
structure Cancels (named : String → Bool) (shared shared' : Shared) : Prop where
  kept : ∀ key, named key = false → shared'.delayRegistry[key]? = shared.delayRegistry[key]?
  notifies : ∀ key handle, named key = true → shared.delayRegistry[key]? = some handle →
    handle ∈ shared'.notified
  remembers : ∀ handle ∈ shared.notified, handle ∈ shared'.notified

section Cancelling
variable {shared shared' : Shared} {named : String → Bool} {sleeping : List (String × Nat)}

/-- Nothing is named, and nothing changes. -/
theorem Cancels.nothing (registry : shared'.delayRegistry = shared.delayRegistry)
    (notified : shared'.notified = shared.notified) : Cancels (fun _ => false) shared shared' where
  kept := fun _ _ => by rw [registry]
  notifies := fun _ _ named => by simp at named
  remembers := fun _ member => by rwa [notified]

theorem cancelDelay_registry (shared : Shared) (key k : String) :
    (cancelDelay shared key).delayRegistry[k]? =
      if k = key then none else shared.delayRegistry[k]? := by
  unfold cancelDelay
  split
  · rename_i absent
    split
    · rename_i same
      rw [same, absent]
    · rfl
  · rw [Std.ExtTreeMap.getElem?_erase]
    by_cases same : k = key
    · simp [same]
    · simp [same, Ne.symm same]

theorem mem_cancelDelay_notified (shared : Shared) (key : String) (handle : Nat) :
    handle ∈ (cancelDelay shared key).notified ↔
      handle ∈ shared.notified ∨ shared.delayRegistry[key]? = some handle := by
  unfold cancelDelay
  split
  · rename_i absent
    simp [absent]
  · rename_i found present
    simp [present, eq_comm, or_comm]

theorem cancelDelay_cancels (shared : Shared) (key : String) :
    Cancels (· == key) shared (cancelDelay shared key) where
  kept := fun k other => by
    rw [cancelDelay_registry, if_neg (by simpa using other)]
  notifies := fun k handle same found => by
    rw [mem_cancelDelay_notified]
    simp only [beq_iff_eq] at same
    exact .inr (same ▸ found)
  remembers := fun handle member => (mem_cancelDelay_notified shared key handle).mpr (.inl member)

theorem foldl_cancels (keys : List String) (shared : Shared) :
    Cancels (fun key => keys.contains key) shared (keys.foldl cancelDelay shared) := by
  induction keys generalizing shared with
  | nil => exact .nothing rfl rfl
  | cons key keys ih =>
    have first := cancelDelay_cancels shared key
    have rest := ih (cancelDelay shared key)
    refine ⟨fun k other => ?_, fun k handle member found => ?_, fun handle member => ?_⟩
    · simp only [List.contains_cons, Bool.or_eq_false_iff] at other
      exact (rest.kept k other.2).trans (first.kept k other.1)
    · by_cases same : (k == key) = true
      · exact rest.remembers handle (first.notifies k handle same found)
      · simp only [List.contains_cons, same, Bool.false_or] at member
        exact rest.notifies k handle member ((first.kept k (by simpa using same)).trans found)
    · exact rest.remembers handle (first.remembers handle member)

theorem cancelDelaysOf_cancels (shared : Shared) (ruleId : Uuid) :
    Cancels (keyOfRule ruleId) shared (cancelDelaysOf shared ruleId) := by
  have fold := foldl_cancels (shared.delayRegistry.keys.filter (keyOfRule ruleId)) shared
  refine ⟨fun key other => ?_, fun key handle isNamed found => ?_, fold.remembers⟩
  · exact fold.kept key (by simp [other])
  · have present : key ∈ shared.delayRegistry := by
      rw [Std.ExtTreeMap.mem_iff_isSome_getElem?, found]
      rfl
    exact fold.notifies key handle (by simpa [isNamed] using present) found

/-- A cancellation wakes what it names, and leaves the others registered. -/
theorem Cancels.wakes (cancels : Cancels named shared shared')
    (registered : Registered shared sleeping) :
    Registered shared' sleeping ∧ ∀ d ∈ sleeping, named d.1 = true → d.2 ∈ shared'.notified := by
  have woken : ∀ d ∈ sleeping, named d.1 = true → d.2 ∈ shared'.notified := by
    intro d member isNamed
    by_cases before : d.2 ∈ shared.notified
    · exact cancels.remembers _ before
    · exact cancels.notifies d.1 d.2 isNamed (registered d member before)
  refine ⟨fun d member sleepsOn => ?_, woken⟩
  have notNamed : named d.1 = false := by
    by_contra isNamed
    exact sleepsOn (woken d member (by simpa using isNamed))
  rw [cancels.kept d.1 notNamed]
  exact registered d member fun before => sleepsOn (cancels.remembers _ before)

end Cancelling

/-! ## One turn -/

section Turn
variable {shared : Shared} {ctx : ExecutorContext} {answer : Answer} {frame f : Frame}

/-- Only a delay that can be cancelled leaves a sleeping frame behind. -/
theorem Successor.asleep (next : Successor shared frame f) :
    f.delay? = none ∨ ∃ ctx secs cancelKey, frame = .action ctx (.delay secs true cancelKey) := by
  cases next with
  | sleep secs cancelKey fresh => exact .inr ⟨_, secs, cancelKey, rfl⟩
  | _ => exact .inl rfl

theorem runSingleAction_cancels (shared : Shared) (ctx : ExecutorContext) (answer : Answer)
    {step : Action} (other : ∀ secs cancelKey, step ≠ .delay secs true cancelKey) :
    Cancels (namedBy ctx step) shared (runSingleAction shared ctx answer step).1 := by
  cases step with
  | cancelDelays key => cases key with
    | none => exact cancelDelaysOf_cancels shared ctx.ruleId
    | some k => exact cancelDelay_cancels shared _
  | cancelRuleTimers ruleId => exact cancelDelaysOf_cancels shared _
  | delay secs cancelable cancelKey => cases cancelable with
    | false => exact .nothing rfl rfl
    | true => exact absurd rfl (other secs cancelKey)
  | runRuleActions ruleId =>
    have unchanged : (runRuleActions shared ctx ruleId).1.delayRegistry = shared.delayRegistry ∧
        (runRuleActions shared ctx ruleId).1.notified = shared.notified := by
      unfold runRuleActions
      split
      · exact ⟨rfl, rfl⟩
      · split <;> exact ⟨rfl, rfl⟩
    exact .nothing unchanged.1 unchanged.2
  | _ => exact .nothing rfl rfl

/-- What a turn does to delays: it starts one, wakes one, or cancels those that
its action names. -/
theorem react_delays (shared : Shared) (frame : Frame) (answer : Answer) :
    (∃ ctx secs cancelKey, frame = .action ctx (.delay secs true cancelKey) ∧
      react shared frame answer = startDelay shared (delayKey ctx cancelKey answer.fresh)) ∨
    (∃ key handle, frame = .sleeping key handle ∧
      react shared frame answer = (wake shared key, .go [])) ∨
    ((∀ sleeping, frame.KeyFree shared sleeping answer) ∧
      (∀ f ∈ (react shared frame answer).2.frames, f.delay? = none) ∧
      Cancels frame.named shared (react shared frame answer).1) := by
  by_cases starts : ∃ ctx secs cancelKey, frame = .action ctx (.delay secs true cancelKey)
  · obtain ⟨ctx, secs, cancelKey, rfl⟩ := starts
    exact .inl ⟨ctx, secs, cancelKey, rfl, rfl⟩
  · have awake : ∀ f ∈ (react shared frame answer).2.frames, f.delay? = none :=
      fun f member => (react_successor member).asleep.resolve_right starts
    cases frame with
    | sleeping key handle => exact .inr (.inl ⟨key, handle, rfl, rfl⟩)
    | action ctx step =>
      have other : ∀ secs cancelKey, step ≠ .delay secs true cancelKey := by
        rintro secs cancelKey rfl
        exact starts ⟨ctx, secs, cancelKey, rfl⟩
      refine .inr (.inr ⟨fun sleeping => ?_, awake, runSingleAction_cancels shared ctx answer other⟩)
      unfold Frame.KeyFree
      split
      · rename_i same
        cases same
        exact absurd rfl (other _ _)
      · rename_i same
        cases same
      · trivial
    | _ => exact .inr (.inr ⟨fun _ => trivial, awake, .nothing rfl rfl⟩)

end Turn

/-! ## Runs -/

section Runs
variable {shared shared' : Shared} {sleeping sleeping' : List (String × Nat)}

theorem Registered.fewer (registered : Registered shared sleeping) (fewer : sleeping' ⊆ sleeping) :
    Registered shared sleeping' :=
  fun d member => registered d (fewer member)

theorem registered_perm (same : sleeping' ~ sleeping) :
    Registered shared sleeping' ↔ Registered shared sleeping :=
  ⟨fun registered => registered.fewer same.symm.subset, fun registered => registered.fewer same.subset⟩

theorem unused_perm {key : String} (same : sleeping' ~ sleeping) :
    Unused shared key sleeping' ↔ Unused shared key sleeping :=
  ⟨fun unused d member => unused d (same.symm.subset member),
    fun unused d member => unused d (same.subset member)⟩

theorem Registered.started_iff (registered : Registered shared sleeping) (key : String)
    (made : ∀ d ∈ sleeping, d.2 < shared.made) :
    Registered (startDelay shared key).1 ((key, shared.made) :: sleeping) ↔
      Unused shared key sleeping := by
  have lookup : ∀ k, (startDelay shared key).1.delayRegistry[k]? =
      if key = k then some shared.made else shared.delayRegistry[k]? := by
    intro k
    simp [startDelay, Std.ExtTreeMap.getElem?_insert]
  constructor
  · rintro after d member sleepsOn rfl
    have found := after d (List.mem_cons_of_mem _ member) sleepsOn
    rw [lookup, if_pos rfl, Option.some.injEq] at found
    exact absurd (made d member) (by omega)
  · intro unused d member sleepsOn
    rw [lookup]
    rcases List.mem_cons.mp member with rfl | among
    · rw [if_pos rfl]
    · rw [if_neg (unused d among sleepsOn).symm]
      exact registered d among sleepsOn

theorem Registered.woken_iff {key : String} (registered : Registered shared sleeping) :
    Registered (wake shared key) sleeping ↔ Unused shared key sleeping := by
  have lookup : ∀ k, (wake shared key).delayRegistry[k]? =
      if key = k then none else shared.delayRegistry[k]? := by
    intro k
    simp [wake, Std.ExtTreeMap.getElem?_erase]
  constructor
  · rintro after d member sleepsOn rfl
    have found := after d member sleepsOn
    rw [lookup, if_pos rfl] at found
    cases found
  · intro unused d member sleepsOn
    rw [lookup, if_neg (unused d member sleepsOn).symm]
    exact registered d member sleepsOn

theorem sleeping_awake {fs gs : List Frame} (awake : ∀ f ∈ fs, f.delay? = none) :
    (fs ++ gs).filterMap Frame.delay? = gs.filterMap Frame.delay? := by
  rw [List.filterMap_append, List.filterMap_eq_nil_iff.mpr awake, List.nil_append]

theorem sleeping_fewer {fs gs : List Frame} (fewer : fs ⊆ gs) :
    fs.filterMap Frame.delay? ⊆ gs.filterMap Frame.delay? := by
  intro d member
  obtain ⟨frame, among, sleeps⟩ := List.mem_filterMap.mp member
  exact List.mem_filterMap.mpr ⟨frame, fewer among, sleeps⟩

/-- Every wake handle was made before. -/
def HandlesMade (s : System) : Prop := ∀ d ∈ sleepingOf s.tasks, d.2 < s.shared.made

/-- A turn keeps delays registered exactly where it finds its key free. -/
theorem Registered.poll_iff {s : System} (registered : Registered s.shared (sleepingOf s.tasks))
    (made : HandlesMade s) (i : Nat) (answer : Answer) :
    Registered (step s (.poll i answer)).shared (sleepingOf (step s (.poll i answer)).tasks) ↔
      KeyFree s (.poll i answer) := by
  obtain ⟨frame, rest, top, whole, sharedEq, fewer, went⟩ | ⟨top, sharedEq, fewer⟩ := step_poll s i answer
  · have before : sleepingOf s.tasks ~ (frame :: rest).filterMap Frame.delay? := whole.filterMap _
    have others : rest.filterMap Frame.delay? ⊆ sleepingOf s.tasks := fun d member =>
      before.symm.subset (sleeping_fewer (List.subset_cons_self frame rest) member)
    simp only [KeyFree, top, Option.mem_some_iff, forall_eq', sharedEq]
    obtain ⟨ctx, secs, cancelKey, rfl, reacted⟩ | ⟨key, handle, rfl, reacted⟩ |
        ⟨free, awake, cancels⟩ := react_delays s.shared frame answer
    · have after := (went _ (by rw [reacted]; rfl)).filterMap Frame.delay?
      rw [reacted, sleepingOf, registered_perm after]
      exact ((registered.fewer others).started_iff _ fun d member => made d (others member)).trans
        (unused_perm before.symm)
    · have after := (went _ (by rw [reacted])).filterMap Frame.delay?
      rw [reacted, sleepingOf, registered_perm after, Frame.KeyFree,
        unused_perm (before.erase (key, handle))]
      simpa [Frame.delay?] using (registered.fewer others).woken_iff
    · refine iff_of_true ?_ (free _)
      have after := sleeping_fewer fewer.subset
      rw [sleeping_awake awake] at after
      exact (cancels.wakes ((registered.fewer others).fewer after)).1
  · simp only [KeyFree, top, Option.not_mem_none, false_implies, implies_true, iff_true, sharedEq]
    exact registered.fewer (sleeping_fewer fewer.subset)

theorem sleeping_begin (s : System) (run : RuleRun) : sleepingOf (begin s run) = sleepingOf s.tasks := by
  rw [sleepingOf, begin, framesOf, List.flatMap_append, List.filterMap_append]
  simp [executeActions, ForkJoin.Task.spawn, ForkJoin.Task.frames, Slot.frame?, Frame.delay?,
    sleepingOf, framesOf]

/-- A restart cancels every delay of its rule before its conditions are judged. -/
theorem restart_cancels (rule : Rule) (latest : Option Nat) (shared : Shared) :
    Cancels (fun key => decide (rule.runMode = .restart) && keyOfRule rule.id key) shared
      ((restartEffects rule).foldl (applyEffect latest) shared) := by
  unfold restartEffects
  split
  · rename_i restarts
    have cancels : ∀ between : Shared, between.delayRegistry = shared.delayRegistry →
        between.notified = shared.notified →
        Cancels (keyOfRule rule.id) shared (cancelDelaysOf between rule.id) := by
      intro between registry notified
      have after := cancelDelaysOf_cancels between rule.id
      refine ⟨fun key other => ?_, fun key handle isNamed found => ?_, fun handle member => ?_⟩
      · rw [after.kept key other, registry]
      · exact after.notifies key handle isNamed (registry ▸ found)
      · exact after.remembers handle (notified ▸ member)
    simp only [restarts, decide_true, Bool.true_and, List.foldl_cons, List.foldl_nil, applyEffect]
    cases latest with
    | none => exact cancels shared rfl rfl
    | some flag => exact cancels (exitRule shared flag) rfl rfl
  · rename_i other
    simp only [other, decide_false, Bool.false_and]
    exact .nothing rfl rfl

theorem checkMode_cancels (s : System) (rule : Rule) :
    Cancels (fun key => decide (rule.runMode = .restart) && keyOfRule rule.id key) s.shared
      (checkMode s rule).shared := by
  unfold checkMode
  simp only
  split
  · rename_i refused
    have other : rule.runMode ≠ .restart := by
      intro restarts
      simp [restarts, modeRefusal] at refused
    simp only [other, decide_false, Bool.false_and, entry_shared]
    exact .nothing rfl rfl
  · simp only [entry_shared]
    exact restart_cancels rule _ s.shared

/-- The tasks after an input other than a turn have the same sleeping delays. -/
theorem sleeping_step {s : System} {input : Input} (other : ∀ i answer, input ≠ .poll i answer) :
    sleepingOf (step s input).tasks = sleepingOf s.tasks := by
  cases input with
  | poll i answer => exact absurd rfl (other i answer)
  | check rule =>
    simp only [step]
    split
    · rfl
    · rw [checkMode_tasks]
  | admitRun =>
    simp only [step]
    split
    · rfl
    · simp only [admitRun]
      split
      · rfl
      · exact sleeping_begin s _
  | cancelOnFalse ruleId =>
    simp only [step]
    split <;> rfl
  | takeTurn run =>
    simp only [step, takeTurn]
    split
    · rfl
    · split
      · rfl
      · exact sleeping_begin s _
  | retire run => simp only [step, retire_tasks]
  | refuse | setRules | purge => rfl

/-- What an input other than a turn cancels. -/
theorem step_cancels {s : System} {input : Input} (other : ∀ i answer, input ≠ .poll i answer) :
    Cancels (fun key => cancelledBy s key input) s.shared (step s input).shared := by
  cases input with
  | poll i answer => exact absurd rfl (other i answer)
  | check rule =>
    cases busy : s.firing with
    | some firing => simpa [step, cancelledBy, busy] using Cancels.nothing rfl rfl
    | none => simpa [step, cancelledBy, busy] using checkMode_cancels s rule
  | cancelOnFalse ruleId =>
    cases busy : s.firing with
    | some firing => simpa [step, cancelledBy, busy] using Cancels.nothing rfl rfl
    | none => simpa [step, cancelledBy, busy] using cancelDelaysOf_cancels s.shared ruleId
  | admitRun =>
    simp only [step]
    split <;> exact .nothing rfl rfl
  | takeTurn run =>
    simp only [step, takeTurn_shared]
    exact .nothing rfl rfl
  | retire run =>
    simp only [step, retire_shared]
    exact .nothing rfl rfl
  | refuse | setRules | purge => exact .nothing rfl rfl

theorem Registered.step_iff {s : System} (registered : Registered s.shared (sleepingOf s.tasks))
    (made : HandlesMade s) (input : Input) :
    Registered (step s input).shared (sleepingOf (step s input).tasks) ↔ KeyFree s input := by
  by_cases turn : ∃ i answer, input = .poll i answer
  · obtain ⟨i, answer, rfl⟩ := turn
    exact registered.poll_iff made i answer
  · have other : ∀ i answer, input ≠ .poll i answer :=
      fun i answer same => turn ⟨i, answer, same⟩
    have free : KeyFree s input := by
      cases input with
      | poll i answer => exact absurd rfl (other i answer)
      | _ => trivial
    rw [sleeping_step other]
    exact iff_of_true ((step_cancels other).wakes registered).1 free

theorem Registered.reachable {s : System} (registered : Registered s.shared (sleepingOf s.tasks)) :
    DelaysReachable s := by
  refine ⟨registered, fun input d member isNamed => ?_⟩
  by_cases turn : ∃ i answer, input = .poll i answer
  · obtain ⟨i, answer, rfl⟩ := turn
    obtain ⟨frame, rest, top, _, sharedEq, _⟩ | ⟨top, _⟩ := step_poll s i answer
    · simp only [cancelledBy, top, Option.any_some] at isNamed
      obtain ⟨ctx, secs, cancelKey, rfl, _⟩ | ⟨key, handle, rfl, _⟩ | ⟨_, _, cancels⟩ :=
        react_delays s.shared frame answer
      · simp [Frame.named, namedBy] at isNamed
      · simp [Frame.named] at isNamed
      · rw [sharedEq]
        exact (cancels.wakes registered).2 d member isNamed
    · simp [cancelledBy, top] at isNamed
  · exact ((step_cancels fun i answer same => turn ⟨i, answer, same⟩).wakes registered).2 d member isNamed

/-! Handles are numbered as they are made, so that no two delays share one. -/

theorem HandlesMade.step {s : System} (made : HandlesMade s) (input : Input) :
    HandlesMade (step s input) := by
  have grows := (step_grows s input).1
  intro d member
  by_cases turn : ∃ i answer, input = .poll i answer
  · obtain ⟨i, answer, rfl⟩ := turn
    obtain ⟨frame, rest, _, whole, sharedEq, fewer, _⟩ | ⟨_, _, fewer⟩ := step_poll s i answer
    · obtain ⟨f, among, sleeps⟩ := List.mem_filterMap.mp member
      rcases List.mem_append.mp (fewer.subset among) with new | kept
      · rw [sharedEq]
        cases react_successor new with
        | sleep secs cancelKey fresh =>
          cases sleeps
          exact Nat.lt_succ_self _
        | _ => cases sleeps
      · have before := made d (List.mem_filterMap.mpr
          ⟨f, whole.symm.subset (List.mem_cons_of_mem _ kept), sleeps⟩)
        exact before.trans_le grows
    · exact (made d (sleeping_fewer fewer.subset member)).trans_le grows
  · rw [sleeping_step fun i answer same => turn ⟨i, answer, same⟩] at member
    exact (made d member).trans_le grows

def DelaysTracked (s : System) : Prop := Registered s.shared (sleepingOf s.tasks) ∧ HandlesMade s

theorem DelaysTracked.step_iff (s : System) (input : Input) (tracked : DelaysTracked s) :
    DelaysTracked (step s input) ↔ KeyFree s input := by
  rw [DelaysTracked, and_iff_left (tracked.2.step input)]
  exact tracked.1.step_iff tracked.2 input

theorem delaysTracked_start (rules : List Rule) : DelaysTracked (System.start rules) :=
  ⟨fun _ member => absurd member List.not_mem_nil, fun _ member => absurd member List.not_mem_nil⟩

/-- The runs in which every sleeping delay can always be reached, and every
cancellation reaches what it names, are those in which a delay starts or ends
only under a key that no other one sleeps on under. -/
theorem delays_reachable_iff (rules : List Rule) (inputs : List Input) :
    Runs.Always step DelaysReachable (System.start rules) inputs ↔
      Runs.EachStep step KeyFree (System.start rules) inputs := by
  rw [← Runs.always_iff_eachStep DelaysTracked.step_iff (delaysTracked_start rules) inputs]
  constructor
  · intro reachable
    have made := Runs.kept HandlesMade (fun s input made => made.step input)
      (delaysTracked_start rules).2 inputs
    exact (reachable.mono fun s reach => reach.1).and made
  · intro tracked
    exact tracked.mono fun s both => both.1.reachable

end Runs

/-! ## A light that goes off after a while -/

def offLater : Rule :=
  Rule.minimal ⟨1⟩ .manualTrigger [.delay 60 true (some "off"), .exitRule]

/-- The rule fires, and its run is taken up to its delay. -/
def firedUpToDelay (task : Nat) : List Input :=
  [.check offLater, .admitRun, .poll task {}, .poll task {}]

/-- Two runs sleep under one key: the first can no longer be cancelled. -/
theorem overlapping_delay_lost :
    ¬ Runs.Always step DelaysReachable (System.start [offLater])
      (firedUpToDelay 0 ++ firedUpToDelay 1) := by
  intro always
  have registered := always.last.1
  have sleeps : ((⟨1⟩ : Uuid).text ++ "/off", 1) ∈
      sleepingOf ((firedUpToDelay 0 ++ firedUpToDelay 1).foldl step (System.start [offLater])).tasks := by
    decide
  have found := registered _ sleeps (by decide)
  exact absurd found (by decide)

end HomeCore.Engine
