import HomeCore.Engine.Executor
import HomeCore.ForkJoin.Termination

/-! What one turn of the executor can do, and that every run ends: the rank of a
frame is the call depth it has left, then the actions it has left, then the
rounds of its loop. -/
namespace HomeCore.Engine
open ForkJoin hiding Task

/-- Every frame that a turn of another can leave behind. -/
inductive Successor (shared : Shared) : Frame → Frame → Prop
  | handedAt (step : RuleAction) (rest : List RuleAction) (goes : exiting shared ctx = false) :
      Successor shared (.ruleActions ctx (step :: rest)) (.action ctx step.action)
  | restAt (step : RuleAction) (rest : List RuleAction) :
      Successor shared (.ruleActions ctx (step :: rest)) (.ruleActions ctx rest)
  | handedInner (step : Action) (rest : List Action) (goes : exiting shared ctx = false) :
      Successor shared (.actions ctx (step :: rest)) (.action ctx step)
  | restInner (step : Action) (rest : List Action) :
      Successor shared (.actions ctx (step :: rest)) (.actions ctx rest)
  | branch (among : step ∈ steps) :
      Successor shared (.action ctx (.parallel steps)) (.action ctx step)
  | sleep (secs : Nat) (cancelKey : Option String) (fresh : Uuid) :
      Successor shared (.action ctx (.delay secs true cancelKey))
        (.sleeping (delayKey ctx cancelKey fresh) shared.made)
  | delayPause (secs : Nat) (cancelKey : Option String) :
      Successor shared (.action ctx (.delay secs false cancelKey)) .pause
  | untilStart (condition : String) (maxIterations intervalMs : Option Nat) (left delay : Nat) :
      Successor shared (.action ctx (.repeatUntil condition body maxIterations intervalMs))
        (.untilLoop ctx body left delay)
  | whileStart (condition : String) (maxIterations intervalMs : Option Nat) (left delay : Nat) :
      Successor shared (.action ctx (.repeatWhile condition body maxIterations intervalMs))
        (.whileLoop ctx body left delay)
  | countStart (count : Nat) (intervalMs : Option Nat) (delay : Nat) :
      Successor shared (.action ctx (.repeatCount count body intervalMs))
        (.countLoop ctx body count delay)
  | thenBody (condition : IfCheck) (elseIf : List (IfCheck × List Action)) (elseActions : List Action) :
      Successor shared (.action ctx (.conditional condition body elseIf elseActions)) (.actions ctx body)
  | elseIfStart (condition : IfCheck) (thenActions : List Action) :
      Successor shared (.action ctx (.conditional condition thenActions branches elseActions))
        (.elseIfs ctx branches elseActions)
  | alertStart (filter : AlertFilter) (alerts : List Alert) :
      Successor shared (.action ctx (.forEachAlert filter body)) (.alertLoop ctx alerts body)
  | otherwise (alertId : Option String) (timeoutSecs : Nat) :
      Successor shared (.action ctx (.waitAlertCleared alertId timeoutSecs body)) (.actions ctx body)
  | pingThen (host : String) (count timeoutMs : Option Nat) (elseActions : List Action)
      (responseEvent : Option String) :
      Successor shared (.action ctx (.pingHost host count timeoutMs body elseActions responseEvent))
        (.actions ctx body)
  | pingElse (host : String) (count timeoutMs : Option Nat) (thenActions : List Action)
      (responseEvent : Option String) :
      Successor shared (.action ctx (.pingHost host count timeoutMs thenActions body responseEvent))
        (.actions ctx body)
  | called (ruleId : Uuid) (target : Rule) (room : ctx.callDepth < maxCallDepth) :
      Successor shared (.action ctx (.runRuleActions ruleId))
        (.ruleActions ⟨ruleId, shared.made, ctx.callDepth + 1⟩ target.actions)
  | untilBody (left delay : Nat) :
      Successor shared (.untilLoop ctx body left delay) (.actions ctx body)
  | untilAsk (left delay : Nat) :
      Successor shared (.untilLoop ctx body left delay) (.untilCheck ctx body left delay)
  | untilPause (left delay : Nat) : Successor shared (.untilCheck ctx body left delay) .pause
  | untilNext (delay : Nat) (more : 1 < left) :
      Successor shared (.untilCheck ctx body left delay) (.untilLoop ctx body (left - 1) delay)
  | whileBody (left delay : Nat) :
      Successor shared (.whileLoop ctx body left delay) (.actions ctx body)
  | whilePause (left delay : Nat) : Successor shared (.whileLoop ctx body left delay) .pause
  | whileNext (delay : Nat) (more : 0 < left) :
      Successor shared (.whileLoop ctx body left delay) (.whileLoop ctx body (left - 1) delay)
  | countBody (left delay : Nat) :
      Successor shared (.countLoop ctx body left delay) (.actions ctx body)
  | countPause (left delay : Nat) : Successor shared (.countLoop ctx body left delay) .pause
  | countNext (delay : Nat) (more : 0 < left) :
      Successor shared (.countLoop ctx body left delay) (.countLoop ctx body (left - 1) delay)
  | elseBody (branches : List (IfCheck × List Action)) :
      Successor shared (.elseIfs ctx branches body) (.actions ctx body)
  | elseIfBody (check : IfCheck) (branches : List (IfCheck × List Action)) (elseActions : List Action) :
      Successor shared (.elseIfs ctx ((check, body) :: branches) elseActions) (.actions ctx body)
  | elseIfNext (branch : IfCheck × List Action) :
      Successor shared (.elseIfs ctx (branch :: branches) elseActions) (.elseIfs ctx branches elseActions)
  | alertBody (alerts : List Alert) :
      Successor shared (.alertLoop ctx alerts body) (.actions ctx body)
  | alertNext (alert : Alert) :
      Successor shared (.alertLoop ctx (alert :: alerts) body) (.alertLoop ctx alerts body)

section Inversion
variable {shared : Shared} {ctx : ExecutorContext} {answer : Answer} {f : Frame}

theorem mem_sleepFor {millis : Nat} (member : f ∈ sleepFor millis) : f = .pause := by
  unfold sleepFor at member
  split at member
  · exact List.mem_singleton.mp member
  · simp at member

theorem mem_executeOne {step : Action} {rest : Frame}
    (member : f ∈ (executeOne ctx step rest).frames) : f = .action ctx step ∨ f = rest := by
  unfold executeOne at member
  split at member
  · simp [Reaction.frames] at member
  · simpa [Reaction.frames] using member

theorem mem_scripted {next : Bool → Reaction Frame} (member : f ∈ (scripted answer next).frames) :
    ∃ said, f ∈ (next said).frames := by
  unfold scripted at member
  split at member
  · exact ⟨answer.holds, member⟩
  · simp [Reaction.frames] at member

theorem mem_ifPasses {check : IfCheck} {next : Bool → Reaction Frame}
    (member : f ∈ (ifPasses answer check next).frames) : ∃ said, f ∈ (next said).frames := by
  unfold ifPasses at member
  split at member
  · exact ⟨answer.holds, member⟩
  · simp [Reaction.frames] at member
  · simp [Reaction.frames] at member

theorem mem_runAny {steps : List Action} (member : f ∈ (runAny ctx steps).frames) :
    f = .actions ctx steps := by
  unfold runAny at member
  split at member
  · simp [Reaction.frames] at member
  · simpa [Reaction.frames] using member

theorem mem_ended (member : f ∈ (ended answer).frames) : False := by
  unfold ended at member
  split at member <;> simp [Reaction.frames] at member

theorem executeActionsAt_successor {steps : List RuleAction}
    (member : f ∈ (executeActionsAt shared ctx steps).frames) :
    Successor shared (.ruleActions ctx steps) f := by
  cases steps with
  | nil => simp [executeActionsAt, Reaction.frames] at member
  | cons step rest =>
    simp only [executeActionsAt] at member
    split at member
    · simp [Reaction.frames] at member
    · rename_i goes
      split at member
      · rcases mem_executeOne member with rfl | rfl
        · exact .handedAt step rest (Bool.not_eq_true _ ▸ goes)
        · exact .restAt step rest
      · split at member
        · simp [Reaction.frames] at member
        · simp only [Reaction.frames, List.mem_singleton] at member
          subst member
          exact .restAt step rest

theorem executeActionsInner_successor {steps : List Action}
    (member : f ∈ (executeActionsInner shared ctx steps).frames) :
    Successor shared (.actions ctx steps) f := by
  cases steps with
  | nil => simp [executeActionsInner, Reaction.frames] at member
  | cons step rest =>
    simp only [executeActionsInner] at member
    split at member
    · simp [Reaction.frames] at member
    · rename_i goes
      rcases mem_executeOne member with rfl | rfl
      · exact .handedInner step rest (Bool.not_eq_true _ ▸ goes)
      · exact .restInner step rest

theorem untilRound_successor {body : List Action} {left delay : Nat}
    (member : f ∈ (untilRound shared ctx body left delay).frames) :
    Successor shared (.untilLoop ctx body left delay) f := by
  unfold untilRound at member
  split at member
  · simp [Reaction.frames] at member
  · simp only [Reaction.frames, List.mem_cons, List.not_mem_nil, or_false] at member
    rcases member with rfl | rfl
    · exact .untilBody left delay
    · exact .untilAsk left delay

theorem untilChecked_successor {body : List Action} {left delay : Nat}
    (member : f ∈ (untilChecked ctx answer body left delay).frames) :
    Successor shared (.untilCheck ctx body left delay) f := by
  obtain ⟨said, member⟩ := mem_scripted member
  split at member
  · simp [Reaction.frames] at member
  · rename_i more
    simp only [Reaction.frames, List.mem_append, List.mem_singleton] at member
    rcases member with slept | rfl
    · rw [mem_sleepFor slept]
      exact .untilPause left delay
    · exact .untilNext delay (by omega)

theorem whileRound_successor {body : List Action} {left delay : Nat}
    (member : f ∈ (whileRound shared ctx answer body left delay).frames) :
    Successor shared (.whileLoop ctx body left delay) f := by
  unfold whileRound at member
  split at member
  · simp [Reaction.frames] at member
  · rename_i more
    obtain ⟨said, member⟩ := mem_scripted member
    split at member
    · simp only [Reaction.frames, List.mem_append, List.mem_singleton] at member
      rcases member with (rfl | slept) | rfl
      · exact .whileBody left delay
      · rw [mem_sleepFor slept]
        exact .whilePause left delay
      · exact .whileNext delay (by omega)
    · simp [Reaction.frames] at member

theorem countRound_successor {body : List Action} {left delay : Nat}
    (member : f ∈ (countRound shared ctx body left delay).frames) :
    Successor shared (.countLoop ctx body left delay) f := by
  unfold countRound at member
  split at member
  · simp [Reaction.frames] at member
  · rename_i more
    simp only [Reaction.frames, List.mem_append, List.mem_singleton] at member
    rcases member with (rfl | slept) | rfl
    · exact .countBody left delay
    · split at slept
      · rw [mem_sleepFor slept]
        exact .countPause left delay
      · simp at slept
    · exact .countNext delay (by omega)

theorem elseIfRound_successor {branches : List (IfCheck × List Action)} {elseActions : List Action}
    (member : f ∈ (elseIfRound shared ctx answer elseActions branches).frames) :
    Successor shared (.elseIfs ctx branches elseActions) f := by
  cases branches with
  | nil =>
    simp only [elseIfRound, Reaction.frames, List.mem_singleton] at member
    subst member
    exact .elseBody []
  | cons branch branches =>
    obtain ⟨check, body⟩ := branch
    simp only [elseIfRound] at member
    split at member
    · simp only [Reaction.frames, List.mem_singleton] at member
      subst member
      exact .elseBody _
    · obtain ⟨said, member⟩ := mem_ifPasses member
      split at member
      · simp only [Reaction.frames, List.mem_singleton] at member
        subst member
        exact .elseIfBody check branches elseActions
      · simp only [Reaction.frames, List.mem_singleton] at member
        subst member
        exact .elseIfNext (check, body)

theorem alertRound_successor {alerts : List Alert} {body : List Action}
    (member : f ∈ (alertRound shared ctx body alerts).frames) :
    Successor shared (.alertLoop ctx alerts body) f := by
  cases alerts with
  | nil => simp [alertRound, Reaction.frames] at member
  | cons alert alerts =>
    simp only [alertRound] at member
    split at member
    · simp [Reaction.frames] at member
    · simp only [Reaction.frames, List.mem_cons, List.not_mem_nil, or_false] at member
      rcases member with rfl | rfl
      · exact .alertBody _
      · exact .alertNext alert

theorem runRuleActions_successor {ruleId : Uuid}
    (member : f ∈ (runRuleActions shared ctx ruleId).2.frames) :
    Successor shared (.action ctx (.runRuleActions ruleId)) f := by
  unfold runRuleActions at member
  split at member
  · simp [Reaction.frames] at member
  · split at member
    · simp [Reaction.frames] at member
    · simp only [Reaction.frames, List.mem_singleton] at member
      subst member
      exact .called ruleId _ (by omega)

theorem runSingleAction_successor {step : Action}
    (member : f ∈ (runSingleAction shared ctx answer step).2.frames) :
    Successor shared (.action ctx step) f := by
  cases step with
  | parallel steps =>
    obtain ⟨branch, among, rfl⟩ := List.mem_map.mp member
    exact .branch among
  | delay secs cancelable cancelKey =>
    simp only [runSingleAction] at member
    split at member
    · rename_i isCancelable
      simp only [startDelay, Reaction.frames, List.mem_singleton] at member
      subst isCancelable member
      exact .sleep secs cancelKey answer.fresh
    · rename_i notCancelable
      simp only [Bool.not_eq_true, Reaction.frames, List.mem_singleton] at notCancelable member
      subst notCancelable member
      exact .delayPause secs cancelKey
  | repeatUntil condition body maxIterations intervalMs =>
    simp only [runSingleAction] at member
    split at member
    · simp [Reaction.frames] at member
    · simp only [Reaction.frames, List.mem_singleton] at member
      subst member
      exact .untilStart condition maxIterations intervalMs _ _
  | repeatWhile condition body maxIterations intervalMs =>
    simp only [runSingleAction] at member
    split at member
    · simp [Reaction.frames] at member
    · simp only [Reaction.frames, List.mem_singleton] at member
      subst member
      exact .whileStart condition maxIterations intervalMs _ _
  | repeatCount count body intervalMs =>
    rw [List.mem_singleton.mp member]
    exact .countStart count intervalMs _
  | conditional condition thenActions elseIf elseActions =>
    simp only [runSingleAction] at member
    obtain ⟨said, member⟩ := mem_ifPasses member
    split at member
    · rw [List.mem_singleton.mp member]
      exact .thenBody condition elseIf elseActions
    · rw [List.mem_singleton.mp member]
      exact .elseIfStart condition thenActions
  | cancelDelays key => cases key <;> simp [runSingleAction, Reaction.frames] at member
  | runRuleActions ruleId => exact runRuleActions_successor member
  | forEachAlert filter body =>
    rw [List.mem_singleton.mp member]
    exact .alertStart filter _
  | waitAlertCleared alertId timeoutSecs body =>
    simp only [runSingleAction] at member
    split at member
    · simp [Reaction.frames] at member
    · rw [mem_runAny member]
      exact .otherwise alertId timeoutSecs
  | pingHost host count timeoutMs thenActions elseActions responseEvent =>
    have ran := mem_runAny member
    split at ran
    · rw [ran]
      exact .pingThen host count timeoutMs elseActions responseEvent
    · rw [ran]
      exact .pingElse host count timeoutMs thenActions responseEvent
  | runScript script =>
    simp only [runSingleAction] at member
    split at member
    · simp [Reaction.frames] at member
    · exact (mem_ended member).elim
  | setDeviceState | publishMqtt | callService | fireEvent | setDeviceStatePerMode
  | restoreDeviceState | activateScenePerMode | fadeDevice | setMode | pressAlert | skipAlert
  | ignoreAlerts => exact (mem_ended member).elim
  | notify | stopRuleChain | exitRule | comment | waitForEvent | waitForExpression | setVariable
  | pauseRule | resumeRule | cancelRuleTimers | setPrivateBoolean | logMessage | captureDeviceState
  | delayPerMode | setHubVariable | acknowledgeAlert =>
    simp [runSingleAction, Reaction.frames] at member

theorem react_successor {frame : Frame} (member : f ∈ (react shared frame answer).2.frames) :
    Successor shared frame f := by
  cases frame with
  | ruleActions ctx steps => exact executeActionsAt_successor member
  | actions ctx steps => exact executeActionsInner_successor member
  | action ctx step => exact runSingleAction_successor member
  | sleeping key handle => simp [react, Reaction.frames] at member
  | pause => simp [react, Reaction.frames] at member
  | untilLoop ctx body left delay => exact untilRound_successor member
  | untilCheck ctx body left delay => exact untilChecked_successor member
  | whileLoop ctx body left delay => exact whileRound_successor member
  | countLoop ctx body left delay => exact countRound_successor member
  | elseIfs ctx branches elseActions => exact elseIfRound_successor member
  | alertLoop ctx alerts body => exact alertRound_successor member

end Inversion

/-! ## Effects -/

/-- Every change that a turn can make to what runs share. -/
inductive Effect (shared : Shared) : Shared → Prop
  | none : Effect shared shared
  | exit (flag : Nat) : Effect shared (exitRule shared flag)
  | cancel (key : String) : Effect shared (cancelDelay shared key)
  | cancelAll (ruleId : Uuid) : Effect shared (cancelDelaysOf shared ruleId)
  | delay (key : String) : Effect shared (startDelay shared key).1
  | wake (key : String) : Effect shared (wake shared key)
  | call : Effect shared { shared with made := shared.made + 1 }

theorem react_effect (shared : Shared) (frame : Frame) (answer : Answer) :
    Effect shared (react shared frame answer).1 := by
  cases frame with
  | action ctx step => cases step with
    | delay secs cancelable cancelKey => cases cancelable with
      | false => exact .none
      | true => exact .delay _
    | cancelDelays key => cases key with
      | none => exact .cancelAll ctx.ruleId
      | some k => exact .cancel _
    | cancelRuleTimers ruleId => exact .cancelAll _
    | exitRule => exact .exit ctx.exitFlag
    | runRuleActions ruleId =>
      simp only [react, runSingleAction, runRuleActions]
      split
      · exact .none
      · split
        · exact .none
        · exact .call
    | _ => exact .none
  | sleeping key handle => exact .wake key
  | _ => exact .none

theorem cancelDelay_kept (shared : Shared) (key : String) :
    (cancelDelay shared key).made = shared.made ∧ (cancelDelay shared key).exited = shared.exited := by
  unfold cancelDelay
  split <;> exact ⟨rfl, rfl⟩

theorem cancelDelaysOf_kept (shared : Shared) (ruleId : Uuid) :
    (cancelDelaysOf shared ruleId).made = shared.made ∧
      (cancelDelaysOf shared ruleId).exited = shared.exited := by
  unfold cancelDelaysOf
  induction shared.delayRegistry.keys.filter (keyOfRule ruleId) generalizing shared with
  | nil => exact ⟨rfl, rfl⟩
  | cons key keys ih =>
    rw [List.foldl_cons, (ih _).1, (ih _).2]
    exact cancelDelay_kept shared key

/-- Flags and handles are only ever added, and a set flag stays set. -/
theorem Effect.grows {shared shared' : Shared} (effect : Effect shared shared') :
    shared.made ≤ shared'.made ∧ shared.exited ⊆ shared'.exited := by
  cases effect with
  | none | wake => exact ⟨le_refl _, List.Subset.refl _⟩
  | exit flag => exact ⟨le_refl _, List.subset_cons_self _ _⟩
  | cancel key => simp [cancelDelay_kept]
  | cancelAll ruleId => simp [cancelDelaysOf_kept]
  | delay | call => exact ⟨Nat.le_succ _, List.Subset.refl _⟩

/-! ## Termination -/

def rankOf (depth size rounds : Nat) : ℕ ×ₗ (ℕ ×ₗ ℕ) :=
  toLex (maxCallDepth - depth, toLex (size, rounds))

section Ranks
variable {d s s' r r' : Nat}

theorem rank_of_size (smaller : s < s') : rankOf d s r < rankOf d s' r' :=
  Prod.Lex.toLex_lt_toLex.mpr (.inr ⟨rfl, Prod.Lex.toLex_lt_toLex.mpr (.inl smaller)⟩)

theorem rank_of_rounds (fewer : r < r') : rankOf d s r < rankOf d s r' :=
  Prod.Lex.toLex_lt_toLex.mpr (.inr ⟨rfl, Prod.Lex.toLex_lt_toLex.mpr (.inr ⟨rfl, fewer⟩)⟩)

theorem rank_of_depth (room : d < maxCallDepth) : rankOf (d + 1) s r < rankOf d s' r' :=
  Prod.Lex.toLex_lt_toLex.mpr (.inl (show maxCallDepth - (d + 1) < maxCallDepth - d by omega))

/-- Nothing left to do is below anything else. -/
theorem rank_of_nothing (something : 0 < s ∨ 0 < r) : rankOf maxCallDepth 0 0 < rankOf d s r := by
  simp only [rankOf, Prod.Lex.toLex_lt_toLex]
  omega

end Ranks

/-- What a frame has left to do. A loop is above its body by its rounds. -/
noncomputable def Frame.rank : Frame → ℕ ×ₗ (ℕ ×ₗ ℕ)
  | .ruleActions ctx steps => rankOf ctx.callDepth (sizeOf steps) 0
  | .actions ctx steps => rankOf ctx.callDepth (sizeOf steps) 0
  | .action ctx step => rankOf ctx.callDepth (sizeOf step) 0
  | .sleeping .. => rankOf maxCallDepth 0 0
  | .pause => rankOf maxCallDepth 0 0
  | .untilLoop ctx body left _ => rankOf ctx.callDepth (sizeOf body) (2 * left + 2)
  | .untilCheck ctx body left _ => rankOf ctx.callDepth (sizeOf body) (2 * left + 1)
  | .whileLoop ctx body left _ => rankOf ctx.callDepth (sizeOf body) (left + 1)
  | .countLoop ctx body left _ => rankOf ctx.callDepth (sizeOf body) (left + 1)
  | .elseIfs ctx branches elseActions => rankOf ctx.callDepth (sizeOf branches + sizeOf elseActions) 0
  | .alertLoop ctx alerts body => rankOf ctx.callDepth (sizeOf body) (alerts.length + 1)

theorem Successor.rank {shared : Shared} {frame f : Frame} (next : Successor shared frame f) :
    f.rank < frame.rank := by
  cases next with
  | handedAt step rest =>
    cases step
    exact rank_of_size (by simp; omega)
  | called ruleId target room => exact rank_of_depth room
  | sleep | delayPause => exact rank_of_nothing (.inl (by simp))
  | untilPause | whilePause | countPause => exact rank_of_nothing (.inr (by omega))
  | branch among =>
    have := List.sizeOf_lt_of_mem among
    exact rank_of_size (by simp; omega)
  | untilBody | whileBody | countBody | alertBody => exact rank_of_rounds (by omega)
  | untilAsk => exact rank_of_rounds (by omega)
  | untilNext delay more => exact rank_of_rounds (by omega)
  | whileNext delay more | countNext delay more => exact rank_of_rounds (by omega)
  | alertNext alert => exact rank_of_rounds (by simp)
  | elseBody branches =>
    exact rank_of_size (by cases branches <;> simp)
  | restAt | handedInner | restInner | untilStart | whileStart | countStart | thenBody | elseIfStart
  | alertStart | otherwise | pingThen | pingElse | elseIfBody | elseIfNext =>
    exact rank_of_size (by simp <;> omega)

theorem react_rank (shared : Shared) (frame : Frame) (answer : Answer) :
    ∀ f ∈ (react shared frame answer).2.frames, f.rank < frame.rank :=
  fun _ member => (react_successor member).rank

/-! ## Call depth -/

/-- What a turn leaves behind runs where its frame ran, or in a context made for
a call from there. -/
theorem Successor.ctx {shared : Shared} {frame f : Frame} (next : Successor shared frame f) :
    f.ctx? = none ∨ f.ctx? = frame.ctx? ∨
      ∃ ctx ruleId, frame = .action ctx (.runRuleActions ruleId) ∧ ctx.callDepth < maxCallDepth ∧
        f.ctx? = some ⟨ruleId, shared.made, ctx.callDepth + 1⟩ := by
  cases next with
  | called ruleId target room => exact .inr (.inr ⟨_, ruleId, rfl, room, rfl⟩)
  | sleep | delayPause | untilPause | whilePause | countPause => exact .inl rfl
  | _ => exact .inr (.inl rfl)

/-- A frame runs within the bound on calls. -/
def Frame.Shallow (frame : Frame) : Prop := ∀ ctx ∈ frame.ctx?, ctx.callDepth ≤ maxCallDepth

theorem Successor.shallow {shared : Shared} {frame f : Frame} (next : Successor shared frame f)
    (shallow : frame.Shallow) : f.Shallow := by
  intro ctx runs
  rcases next.ctx with nowhere | same | ⟨caller, ruleId, rfl, room, made⟩
  · rw [nowhere] at runs
    cases runs
  · exact shallow ctx (same ▸ runs)
  · rw [made] at runs
    cases runs
    exact room

theorem poll_shallow {shared shared' : Shared} {tasks tasks' : Machine} {i : Nat}
    {answer : Answer} (polled : poll react shared tasks i answer = some (shared', tasks'))
    (shallow : ∀ frame ∈ framesOf tasks, frame.Shallow) : ∀ frame ∈ framesOf tasks', frame.Shallow := by
  intro f member
  obtain ⟨_, frame, _, rest, _, _, _, whole, _, fewer, _⟩ | ⟨_, _, fewer⟩ := poll_frames polled
  · have before : ∀ g ∈ frame :: rest, g.Shallow := fun g among => shallow g (whole.mem_iff.mpr among)
    rcases List.mem_append.mp (fewer.subset member) with new | kept
    · exact (react_successor new).shallow (before frame List.mem_cons_self)
    · exact before f (List.mem_cons_of_mem _ kept)
  · exact shallow f (fewer.subset member)

/-! ## Executions -/

/-- A machine that an execution of the rule can be in, whatever the world and
other runs did to what they share at any point. -/
def Reaches (rule : Rule) (flag : Nat) (tasks : Machine) : Prop :=
  Relation.ReflTransGen (Turns react) [executeActions rule.id flag 0 rule.actions] tasks

theorem reaches_wired {rule : Rule} {flag : Nat} {tasks : Machine}
    (reached : Reaches rule flag tasks) : Wired tasks ∧ ∀ frame ∈ framesOf tasks, frame.Shallow := by
  induction reached with
  | refl =>
    constructor
    · intro i task handles found member
      rw [List.getElem?_singleton] at found
      split at found
      · cases found
        simp [executeActions, ForkJoin.Task.spawn] at member
      · cases found
    · intro frame member ctx runs
      simp only [framesOf, executeActions, ForkJoin.Task.spawn, ForkJoin.Task.frames, Slot.frame?, List.flatMap_cons,
        List.flatMap_nil, List.append_nil, List.filterMap_cons, List.filterMap_nil,
        List.mem_singleton] at member
      subst member
      cases runs
      exact Nat.zero_le _
  | tail _ turns ih =>
    obtain ⟨memory, i, answer, memory', polled⟩ := turns
    exact ⟨ih.1.after_poll polled, poll_shallow polled ih.2⟩

/-- Every execution of a rule's actions comes to an end. Its turns are taken in
any order, against any rules, flags and delays of the moment: no sequence of
turns is endless, a turn is possible until every task has ended, and no frame is
ever deeper in calls than the bound. -/
theorem execution_terminates (rule : Rule) (flag : Nat) :
    (∀ machines : ℕ → Machine,
      machines 0 = [executeActions rule.id flag 0 rule.actions] →
        ∃ n, ¬ Turns react (machines n) (machines (n + 1))) ∧
    ∀ tasks, Reaches rule flag tasks →
      ((∃ task ∈ tasks, task.ending = none) →
        ∀ shared answer, ∃ i, (poll react shared tasks i answer).isSome) ∧
      ∀ frame ∈ framesOf tasks, ∀ ctx ∈ frame.ctx?, ctx.callDepth ≤ maxCallDepth := by
  refine ⟨fun machines _ => ?_, fun tasks reached => ?_⟩
  · have : IsWellFounded Machine fun tasks' tasks => Turns react tasks tasks' :=
      ⟨turns_wellFounded react_rank⟩
    exact WellFounded.not_rel_apply_succ (r := fun tasks' tasks => Turns react tasks tasks') machines
  · obtain ⟨wired, shallow⟩ := reaches_wired reached
    refine ⟨?_, shallow⟩
    rintro ⟨task, member, running⟩ shared answer
    obtain ⟨k, found⟩ := List.mem_iff_getElem?.mp member
    exact wired.progress shared answer found running

end HomeCore.Engine
