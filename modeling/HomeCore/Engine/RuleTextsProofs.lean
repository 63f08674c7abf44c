import HomeCore.Engine.RuleTexts
import HomeCore.Engine.FireProofs
import HomeCore.Engine.RuleRunsProofs

/-! When showing a text crashes. A text that is cut to a number of bytes must have
a character end there; where every text of a rule does, nothing that evaluates,
describes or runs the rule panics over it. -/
namespace HomeCore.Engine
open ForkJoin hiding Task
open scoped List

/-! ## Cuts -/

theorem utf8ByteSize_ofList (cs : List Char) :
    (String.ofList cs).utf8ByteSize = (cs.map Char.utf8Size).sum := by
  induction cs with
  | nil => rfl
  | cons c rest ih =>
    rw [List.map_cons, List.sum_cons, ← ih, String.ofList_cons, String.utf8ByteSize_append,
      String.utf8ByteSize_singleton]

theorem cutAt_eq_none {n : Nat} {cs : List Char} : cutAt n cs = none ↔
    ∃ before c after, cs = before ++ c :: after ∧ (before.map Char.utf8Size).sum < n ∧
      n < (before.map Char.utf8Size).sum + c.utf8Size := by
  induction cs generalizing n with
  | nil =>
    cases n <;> simp [cutAt]
  | cons c rest ih =>
    cases n with
    | zero => simp [cutAt]
    | succ n =>
      rw [cutAt]
      split
      · rename_i fits
        rw [Option.map_eq_none_iff, ih]
        constructor
        · rintro ⟨before, d, after, rfl, starts, ends⟩
          refine ⟨c :: before, d, after, rfl, ?_, ?_⟩
          · simp only [List.map_cons, List.sum_cons]
            omega
          · simp only [List.map_cons, List.sum_cons]
            omega
        · rintro ⟨before, d, after, split, starts, ends⟩
          cases before with
          | nil =>
            cases split
            simp only [List.map_nil, List.sum_nil] at ends
            omega
          | cons b before =>
            cases split
            simp only [List.map_cons, List.sum_cons] at starts ends
            exact ⟨before, d, after, rfl, by omega, by omega⟩
      · -- the first character is the one that is cut
        refine iff_of_true rfl ⟨[], c, rest, rfl, by simp, ?_⟩
        simp only [List.map_nil, List.sum_nil]
        omega

theorem cutSplits_iff (n : Nat) (text : String) :
    cutSplits n text = true ↔ (Cut.mk n text).Straddled := by
  simp only [cutSplits, Bool.and_eq_true, decide_eq_true_eq, Option.isNone_iff_eq_none, cutAt_eq_none,
    Cut.Straddled, and_iff_right_iff_imp]
  rintro ⟨before, c, after, split, _, ends⟩
  rw [← String.ofList_toList (s := text), utf8ByteSize_ofList, split, List.map_append, List.sum_append,
    List.map_cons, List.sum_cons]
  omega

theorem shown_panics (n : Nat) (text : String) :
    shown n text = .error .panicked ↔ (Cut.mk n text).Straddled := by
  rw [← cutSplits_iff, cutSplits, shown]
  by_cases longer : n < text.utf8ByteSize
  · cases cut : cutAt n text.toList <;> simp [longer]
  · simp [longer]

theorem snippet_eq_shown (script : String) : snippet script = shown 80 script := by
  unfold snippet shown
  by_cases longer : 80 < script.utf8ByteSize
  · have cut : ¬ script.utf8ByteSize ≤ 80 := by omega
    cases cutAt 80 script.toList <;> simp only [if_neg cut, if_pos longer]
  · have whole : script.utf8ByteSize ≤ 80 := by omega
    simp only [if_pos whole, if_neg longer]

/-! ## Parts -/

theorem partsOfActions_eq (actions : List Action) :
    partsOfActions actions = actions.flatMap Action.parts := by
  induction actions with
  | nil => rfl
  | cons a rest ih => rw [partsOfActions, ih, List.flatMap_cons]

theorem mem_parts_self (condition : Condition) : condition ∈ condition.parts := by
  cases condition <;> simp [Condition.parts]

theorem action_mem_parts (action : Action) : action ∈ action.parts := by
  cases action <;> simp [Action.parts]

mutual

theorem parts_trans : ∀ {c p q : Condition}, p ∈ c.parts → q ∈ p.parts → q ∈ c.parts
  | .not condition, p, q, isPart, inside => by
    rw [Condition.parts] at isPart ⊢
    rcases List.mem_cons.mp isPart with rfl | deeper
    · rwa [Condition.parts] at inside
    · exact List.mem_cons_of_mem _ (parts_trans deeper inside)
  | .and conditions, p, q, isPart, inside => by
    rw [Condition.parts] at isPart ⊢
    rcases List.mem_cons.mp isPart with rfl | deeper
    · rwa [Condition.parts] at inside
    · exact List.mem_cons_of_mem _ (partsOf_trans deeper inside)
  | .or conditions, p, q, isPart, inside => by
    rw [Condition.parts] at isPart ⊢
    rcases List.mem_cons.mp isPart with rfl | deeper
    · rwa [Condition.parts] at inside
    · exact List.mem_cons_of_mem _ (partsOf_trans deeper inside)
  | .xor conditions, p, q, isPart, inside => by
    rw [Condition.parts] at isPart ⊢
    rcases List.mem_cons.mp isPart with rfl | deeper
    · rwa [Condition.parts] at inside
    · exact List.mem_cons_of_mem _ (partsOf_trans deeper inside)
  | .deviceState .., p, q, isPart, inside
  | .timeWindow .., p, q, isPart, inside
  | .scriptExpression .., p, q, isPart, inside
  | .timeElapsed .., p, q, isPart, inside
  | .deviceLastChange .., p, q, isPart, inside
  | .privateBooleanIs .., p, q, isPart, inside
  | .hubVariable .., p, q, isPart, inside
  | .modeIs .., p, q, isPart, inside
  | .calendarActive .., p, q, isPart, inside
  | .alertActive .., p, q, isPart, inside
  | .noAlertActive .., p, q, isPart, inside
  | .triggerAlertActive, p, q, isPart, inside => by
    simp only [Condition.parts, List.mem_singleton] at isPart
    exact isPart ▸ inside

theorem partsOf_trans : ∀ {cs : List Condition} {p q : Condition},
    p ∈ partsOfConditions cs → q ∈ p.parts → q ∈ partsOfConditions cs
  | [], p, q, isPart, inside => by simp [partsOfConditions] at isPart
  | c :: rest, p, q, isPart, inside => by
    rw [partsOfConditions] at isPart ⊢
    rcases List.mem_append.mp isPart with first | later
    · exact List.mem_append_left _ (parts_trans first inside)
    · exact List.mem_append_right _ (partsOf_trans later inside)

end

/-! ## Conditions -/

/-- Some script among these conditions is cut inside a character. -/
def ScriptStraddled (conditions : List Condition) : Prop :=
  ∃ script, .scriptExpression script ∈ conditions ∧ (Cut.mk 80 script).Straddled

theorem ScriptStraddled.mono {few more : List Condition} (subset : few ⊆ more)
    (straddled : ScriptStraddled few) : ScriptStraddled more := by
  obtain ⟨script, member, cut⟩ := straddled
  exact ⟨script, subset member, cut⟩

theorem scriptTrace_panics (world : World) (snapshot : Std.ExtTreeMap String AttrMap) (script : String) :
    scriptTrace world snapshot script = .error .panicked ↔ (Cut.mk 80 script).Straddled := by
  rw [← shown_panics, ← snippet_eq_shown, scriptTrace]
  cases shows : snippet script with
  | error failure =>
    obtain rfl := snippet_error shows
    simp [bind, Except.bind]
  | ok text =>
    cases world.evalCondition script { devices := snapshot, hubVars := world.hubVars } with
    | error message => simp [bind, Except.bind]
    | ok result => simp [bind, Except.bind, decided]

mutual

theorem evaluateOne_panics (ask : Asking) : ∀ {condition : Condition},
    evaluateOne ask condition = .error .panicked → ScriptStraddled condition.parts
  | .scriptExpression script, panics => by
    rw [evaluateOne] at panics
    exact ⟨script, mem_parts_self _, (scriptTrace_panics _ _ script).mp panics⟩
  | .not condition, panics => by
    simp only [evaluateOne, Outcome.bind_error, decided_ok, and_false, exists_false, or_false] at panics
    exact (evaluateOne_panics ask panics).mono (List.subset_cons_self _ _)
  | .and conditions, panics => by
    simp only [evaluateOne, Outcome.bind_error, decided_ok, and_false, exists_false, or_false] at panics
    exact (evaluateAnd_panics ask panics).mono (List.subset_cons_self _ _)
  | .or conditions, panics => by
    simp only [evaluateOne, Outcome.bind_error, decided_ok, and_false, exists_false, or_false] at panics
    exact (evaluateOr_panics ask panics).mono (List.subset_cons_self _ _)
  | .xor conditions, panics => by
    simp only [evaluateOne, Outcome.bind_error, decided_ok, and_false, exists_false, or_false] at panics
    exact (evaluateXor_panics ask panics).mono (List.subset_cons_self _ _)
  | .deviceState .., panics => ((evaluateOne_raises ask _).mp ⟨_, panics⟩).elim
  | .timeWindow .., panics => ((evaluateOne_raises ask _).mp ⟨_, panics⟩).elim
  | .timeElapsed .., panics => ((evaluateOne_raises ask _).mp ⟨_, panics⟩).elim
  | .deviceLastChange .., panics => ((evaluateOne_raises ask _).mp ⟨_, panics⟩).elim
  | .privateBooleanIs .., panics => ((evaluateOne_raises ask _).mp ⟨_, panics⟩).elim
  | .hubVariable .., panics => ((evaluateOne_raises ask _).mp ⟨_, panics⟩).elim
  | .modeIs .., panics => ((evaluateOne_raises ask _).mp ⟨_, panics⟩).elim
  | .calendarActive .., panics => ((evaluateOne_raises ask _).mp ⟨_, panics⟩).elim
  | .alertActive .., panics => ((evaluateOne_raises ask _).mp ⟨_, panics⟩).elim
  | .noAlertActive .., panics => ((evaluateOne_raises ask _).mp ⟨_, panics⟩).elim
  | .triggerAlertActive, panics => ((evaluateOne_raises ask _).mp ⟨_, panics⟩).elim

theorem evaluateAnd_panics (ask : Asking) : ∀ {conditions : List Condition},
    evaluateAnd ask conditions = .error .panicked → ScriptStraddled (partsOfConditions conditions)
  | [], panics => by simp [evaluateAnd] at panics
  | c :: rest, panics => by
    rw [evaluateAnd, Outcome.bind_error] at panics
    rcases panics with first | ⟨trace, _, later⟩
    · exact (evaluateOne_panics ask first).mono (List.subset_append_left _ _)
    · split at later
      · exact (evaluateAnd_panics ask later).mono (List.subset_append_right _ _)
      · cases later

theorem evaluateOr_panics (ask : Asking) : ∀ {conditions : List Condition},
    evaluateOr ask conditions = .error .panicked → ScriptStraddled (partsOfConditions conditions)
  | [], panics => by simp [evaluateOr] at panics
  | c :: rest, panics => by
    rw [evaluateOr, Outcome.bind_error] at panics
    rcases panics with first | ⟨trace, _, later⟩
    · exact (evaluateOne_panics ask first).mono (List.subset_append_left _ _)
    · split at later
      · cases later
      · exact (evaluateOr_panics ask later).mono (List.subset_append_right _ _)

theorem evaluateXor_panics (ask : Asking) : ∀ {conditions : List Condition},
    evaluateXor ask conditions = .error .panicked → ScriptStraddled (partsOfConditions conditions)
  | [], panics => by simp [evaluateXor] at panics
  | c :: rest, panics => by
    rw [evaluateXor, Outcome.bind_error] at panics
    rcases panics with first | ⟨trace, _, later⟩
    · exact (evaluateOne_panics ask first).mono (List.subset_append_left _ _)
    · rw [Outcome.bind_error] at later
      rcases later with others | ⟨count, _, counted⟩
      · exact (evaluateXor_panics ask others).mono (List.subset_append_right _ _)
      · cases counted

end

theorem evaluateConditions_panics (ask : Asking) {conditions : List Condition}
    (panics : evaluateConditions ask conditions = .error .panicked) :
    ScriptStraddled (conditions.flatMap Condition.parts) := by
  induction conditions with
  | nil => cases panics
  | cons c rest ih =>
    rw [evaluateConditions, Outcome.bind_error] at panics
    rcases panics with first | ⟨trace, _, later⟩
    · exact (evaluateOne_panics ask first).mono (List.subset_append_left _ _)
    · split at later
      · rw [Outcome.bind_error] at later
        rcases later with others | ⟨traces, _, done⟩
        · exact (ih others).mono (List.subset_append_right _ _)
        · cases done
      · cases later

theorem fire_panics {texts : Texts} {world : World} {rule : Rule} {tctx : TriggerContext} {run : Run}
    (panics : (fire texts world rule tctx run).result = .error .panicked) :
    ScriptStraddled (rule.conditions.flatMap Condition.parts) := by
  have gate : ∀ expr, expressionGate world tctx run expr ≠ .error .panicked := by
    intro expr
    unfold expressionGate
    split
    · simp
    · split <;> simp
  unfold fire at panics
  split at panics
  · cases panics
  · split at panics
    · cases panics
    · split at panics
      · rename_i failed
        cases panics
        exact absurd failed (gate _)
      · cases panics
      · split at panics
        · rename_i failed
          cases panics
          exact absurd failed (gate _)
        · cases panics
        · split at panics
          · cases panics
          · unfold fireJudged judgedConditions at panics
            split at panics
            · rename_i failed
              cases panics
              split at failed
              · exact evaluateConditions_panics _ failed
              · cases failed
            · split at panics <;> cases panics

/-! ## Actions -/

/-- Some text of these actions is cut inside a character. -/
def TextStraddled (actions : List Action) : Prop :=
  ∃ action ∈ actions, ∃ cut ∈ action.cuts, cut.Straddled

theorem TextStraddled.mono {few more : List Action} (subset : few ⊆ more)
    (straddled : TextStraddled few) : TextStraddled more := by
  obtain ⟨action, member, cut⟩ := straddled
  exact ⟨action, subset member, cut⟩

theorem actionDescription_panics (texts : ActionTexts) (world : World) (action : Action) :
    actionDescription texts world action = .error .panicked ↔ describePanics action = true := by
  cases action with
  | runScript script => rw [describePanics, cutSplits_iff, ← shown_panics, actionDescription]
  | notify channel message title =>
    simp only [describePanics, cutSplits_iff, ← shown_panics, actionDescription, Outcome.bind_error,
      Outcome.pure_error, and_false, exists_false, or_false]
  | waitForExpression expression =>
    simp only [describePanics, cutSplits_iff, ← shown_panics, actionDescription, Outcome.bind_error,
      Outcome.pure_error, and_false, exists_false, or_false]
  | _ => simp [actionDescription, describePanics]

theorem describePanics_straddled {action : Action} (panics : describePanics action = true) :
    ∃ cut ∈ action.cuts, cut.Straddled := by
  cases action with
  | runScript script => exact ⟨_, List.mem_cons_self, (cutSplits_iff _ _).mp panics⟩
  | notify channel message title => exact ⟨_, List.mem_cons_self, (cutSplits_iff _ _).mp panics⟩
  | waitForExpression expression => exact ⟨_, List.mem_cons_self, (cutSplits_iff _ _).mp panics⟩
  | _ => cases panics

theorem ended_panics {answer : Answer} (calm : answer.outcome ≠ .panicked) :
    ended answer ≠ .abort .panicked := by
  unfold ended
  cases outcome : answer.outcome with
  | ok => simp
  | failed => simp
  | panicked => exact absurd outcome calm

theorem ifPasses_panics {answer : Answer} (calm : answer.outcome ≠ .panicked) {check : IfCheck}
    {next : Bool → Reaction Frame} (goes : ∀ passes, next passes ≠ .abort .panicked) :
    ifPasses answer check next ≠ .abort .panicked := by
  unfold ifPasses
  split
  · exact goes _
  · simp
  · intro aborts
    exact calm (Reaction.abort.inj aborts)

theorem scripted_panics {answer : Answer} {next : Bool → Reaction Frame}
    (goes : ∀ said, next said ≠ .abort .panicked) : scripted answer next ≠ .abort .panicked := by
  unfold scripted
  split
  · exact goes _
  · simp

theorem runSingleAction_panics {shared : Shared} {ctx : ExecutorContext} {answer : Answer}
    (calm : answer.outcome ≠ .panicked) {action : Action}
    (panics : (runSingleAction shared ctx answer action).2 = .abort .panicked) :
    ∃ cut ∈ action.cuts, cut.Straddled := by
  cases action with
  | repeatUntil condition =>
    simp only [runSingleAction] at panics
    split at panics
    · rename_i splits
      exact ⟨_, List.mem_cons_self, (cutSplits_iff _ _).mp splits⟩
    · cases panics
  | repeatWhile condition =>
    simp only [runSingleAction] at panics
    split at panics
    · rename_i splits
      exact ⟨_, List.mem_cons_self, (cutSplits_iff _ _).mp splits⟩
    · cases panics
  | runScript script =>
    simp only [runSingleAction] at panics
    split at panics
    · rename_i splits
      exact ⟨_, List.mem_cons_of_mem _ List.mem_cons_self, (cutSplits_iff _ _).mp splits⟩
    · exact absurd panics (ended_panics calm)
  | conditional condition thenActions elseIf elseActions =>
    simp only [runSingleAction] at panics
    refine absurd panics (ifPasses_panics calm fun passes => ?_)
    split <;> simp
  | runRuleActions ruleId =>
    simp only [runSingleAction, runRuleActions] at panics
    split at panics
    · cases panics
    · split at panics <;> cases panics
  | delay secs cancelable cancelKey =>
    cases cancelable <;> cases panics
  | cancelDelays key =>
    cases key <;> cases panics
  | waitAlertCleared alertId timeoutSecs otherwise =>
    simp only [runSingleAction] at panics
    split at panics <;> cases panics
  | setDeviceState | publishMqtt | callService | fireEvent | setDeviceStatePerMode
  | restoreDeviceState | activateScenePerMode | fadeDevice | setMode | pressAlert | skipAlert
  | ignoreAlerts => exact absurd panics (ended_panics calm)
  | _ => cases panics

/-! ## Frames -/

/-- The actions that a frame has left. -/
def Frame.parts : Frame → List Action
  | .ruleActions _ steps => steps.flatMap fun step => step.action.parts
  | .actions _ steps => steps.flatMap Action.parts
  | .action _ step => step.parts
  | .sleeping .. => []
  | .pause => []
  | .untilLoop _ body _ _ => body.flatMap Action.parts
  | .untilCheck _ body _ _ => body.flatMap Action.parts
  | .whileLoop _ body _ _ => body.flatMap Action.parts
  | .countLoop _ body _ _ => body.flatMap Action.parts
  | .elseIfs _ branches elseActions => partsOfBranches branches ++ elseActions.flatMap Action.parts
  | .alertLoop _ _ body => body.flatMap Action.parts

theorem executeOne_panics {ctx : ExecutorContext} {action : Action} {rest : Frame}
    (panics : executeOne ctx action rest = .abort .panicked) : TextStraddled action.parts := by
  unfold executeOne at panics
  split at panics
  · rename_i describes
    exact ⟨action, action_mem_parts action, describePanics_straddled describes⟩
  · cases panics

/-- A turn panics over a text of its frame, or because the world did. -/
theorem react_panics {shared : Shared} {frame : Frame} {answer : Answer}
    (calm : answer.outcome ≠ .panicked) (panics : (react shared frame answer).2 = .abort .panicked) :
    TextStraddled frame.parts := by
  cases frame with
  | ruleActions ctx steps =>
    simp only [react] at panics
    cases steps with
    | nil => cases panics
    | cons step rest =>
      have first : step.action.parts ⊆ Frame.parts (.ruleActions ctx (step :: rest)) :=
        List.subset_append_left _ _
      rw [executeActionsAt] at panics
      split at panics
      · cases panics
      · split at panics
        · exact (executeOne_panics panics).mono first
        · split at panics
          · rename_i describes
            exact TextStraddled.mono first
              ⟨step.action, action_mem_parts _, describePanics_straddled describes.2⟩
          · cases panics
  | actions ctx steps =>
    simp only [react] at panics
    cases steps with
    | nil => cases panics
    | cons step rest =>
      rw [executeActionsInner] at panics
      split at panics
      · cases panics
      · exact (executeOne_panics panics).mono (List.subset_append_left _ _)
  | action ctx step => exact ⟨step, action_mem_parts step, runSingleAction_panics calm panics⟩
  | sleeping key handle => cases panics
  | pause => cases panics
  | untilLoop ctx body left delay =>
    simp only [react, untilRound] at panics
    split at panics <;> cases panics
  | untilCheck ctx body left delay =>
    simp only [react] at panics
    refine absurd panics (scripted_panics fun done => ?_)
    split <;> simp
  | whileLoop ctx body left delay =>
    simp only [react, whileRound] at panics
    split at panics
    · cases panics
    · refine absurd panics (scripted_panics fun passes => ?_)
      split <;> simp
  | countLoop ctx body left delay =>
    simp only [react, countRound] at panics
    split at panics <;> cases panics
  | elseIfs ctx branches elseActions =>
    simp only [react] at panics
    cases branches with
    | nil => cases panics
    | cons branch rest =>
      rw [elseIfRound] at panics
      split at panics
      · cases panics
      · refine absurd panics (ifPasses_panics calm fun passes => ?_)
        split <;> simp
  | alertLoop ctx alerts body =>
    simp only [react] at panics
    cases alerts with
    | nil => cases panics
    | cons alert rest =>
      rw [alertRound] at panics
      split at panics <;> cases panics

/-- A frame that is left behind has actions of the one before, or of a rule that it called. -/
theorem react_parts {shared : Shared} {frame f : Frame} {answer : Answer}
    (member : f ∈ (react shared frame answer).2.frames) :
    f.parts ⊆ frame.parts ∨ ∃ target ∈ shared.rules, f.parts = target.actionParts := by
  cases react_successor member with
  | called ruleId target room =>
    right
    simp only [react, runSingleAction, runRuleActions, if_neg (Nat.not_le.mpr room)] at member
    split at member
    · cases member
    · rename_i found isFound
      simp only [Reaction.frames, List.mem_singleton] at member
      exact ⟨found, List.mem_of_find?_eq_some isFound, by rw [member]; rfl⟩
  | branch among =>
    left
    intro action inside
    simp only [Frame.parts, Action.parts, partsOfActions_eq]
    exact List.mem_cons_of_mem _ (List.mem_flatMap.mpr ⟨_, among, inside⟩)
  | restAt | restInner => exact .inl (List.subset_append_right _ _)
  | handedAt | handedInner => exact .inl (List.subset_append_left _ _)
  | sleep | delayPause | untilPause | whilePause | countPause => exact .inl (List.nil_subset _)
  | untilBody | untilAsk | untilNext | whileBody | whileNext | countBody | countNext | alertBody
  | alertNext => exact .inl (List.Subset.refl _)
  | elseBody => exact .inl (List.subset_append_right _ _)
  | elseIfBody check branches elseActions =>
    left
    simp only [Frame.parts, partsOfBranches, partsOfActions_eq]
    exact fun action inside => List.mem_append_left _ (List.mem_append_left _ inside)
  | elseIfNext branch =>
    left
    simp only [Frame.parts, partsOfBranches]
    intro action inside
    rcases List.mem_append.mp inside with later | otherwise
    · exact List.mem_append_left _ (List.mem_append_right _ later)
    · exact List.mem_append_right _ otherwise
  | thenBody condition elseIf elseActions =>
    left
    simp only [Frame.parts, Action.parts, partsOfActions_eq]
    intro action inside
    exact List.mem_cons_of_mem _ (List.mem_append_left _ (List.mem_append_left _ inside))
  | elseIfStart condition thenActions =>
    left
    simp only [Frame.parts, Action.parts, partsOfActions_eq]
    intro action inside
    rw [List.append_assoc]
    exact List.mem_cons_of_mem _ (List.mem_append_right _ inside)
  | pingThen | pingElse | untilStart | whileStart | countStart | alertStart | otherwise =>
    left
    simp only [Frame.parts, Action.parts, partsOfActions_eq]
    intro action inside
    simp [inside]

/-! ## Runs -/

theorem cancelDelaysOf_rules (shared : Shared) (ruleId : Uuid) :
    (cancelDelaysOf shared ruleId).rules = shared.rules := by
  unfold cancelDelaysOf
  induction shared.delayRegistry.keys.filter (keyOfRule ruleId) generalizing shared with
  | nil => rfl
  | cons key keys ih =>
    rw [List.foldl_cons, ih, cancelDelay]
    split <;> rfl

theorem Effect.rules {shared shared' : Shared} (effect : Effect shared shared') :
    shared'.rules = shared.rules := by
  cases effect with
  | cancel key =>
    unfold cancelDelay
    split <;> rfl
  | cancelAll ruleId => exact cancelDelaysOf_rules shared ruleId
  | _ => rfl

theorem checkMode_rules (s : System) (rule : Rule) :
    (checkMode s rule).shared.rules = s.shared.rules := by
  unfold checkMode restartEffects
  simp only
  split
  · rw [entry_shared]
  · split
    · simp only [List.foldl_cons, List.foldl_nil, applyEffect, cancelDelaysOf_rules, entry_shared]
      cases ((entry s rule.id).1.counters[(entry s rule.id).2]?.getD {}).latest <;> rfl
    · simp

/-- The rules that an input brings in are among these. -/
def Loads (rules : List Rule) (_ : System) : Input → Prop
  | .check rule => rule ∈ rules
  | .setRules loaded => loaded ⊆ rules
  | _ => True

/-- The turn ends in a panic that the world did not answer with. -/
def CutPanics (s : System) : Input → Prop
  | .poll i answer => answer.outcome ≠ .panicked ∧ endingOf s.tasks i = none ∧
    endingOf (step s (.poll i answer)).tasks i = some .panicked
  | _ => False

/-- Whatever is left to do anywhere is an action of these rules. -/
structure OfRules (rules : List Rule) (s : System) : Prop where
  loaded : s.shared.rules ⊆ rules
  firing : ∀ firing ∈ s.firing, firing.1 ∈ rules
  runs : ∀ run ∈ s.runs, ∃ rule ∈ rules, run.actions = rule.actions
  frames : ∀ frame ∈ framesOf s.tasks, frame.parts ⊆ rules.flatMap Rule.actionParts

section Steps
variable {rules : List Rule} {s : System} {input : Input}

theorem OfRules.loaded_step (ofRules : OfRules rules s) (loads : Loads rules s input) :
    (step s input).shared.rules ⊆ rules := by
  have same := ofRules.loaded
  cases input with
  | check rule =>
    simp only [step]
    split
    · exact same
    · rwa [checkMode_rules]
  | admitRun =>
    simp only [step]
    split <;> exact same
  | cancelOnFalse ruleId =>
    simp only [step]
    split
    · exact same
    · rwa [cancelDelaysOf_rules]
  | takeTurn run => simpa only [step, takeTurn_shared] using same
  | poll i answer =>
    obtain ⟨frame, _, _, _, sharedEq, _⟩ | ⟨_, sharedEq, _⟩ := step_poll s i answer
    · rwa [sharedEq, (react_effect s.shared frame answer).rules]
    · rwa [sharedEq]
  | retire run => simpa only [step, retire_shared] using same
  | setRules loaded => exact loads
  | refuse | purge => exact same

theorem OfRules.firing_step (ofRules : OfRules rules s) (loads : Loads rules s input) :
    ∀ firing ∈ (step s input).firing, firing.1 ∈ rules := by
  rintro ⟨rule, counter⟩ fires
  rcases step_firing fires with ⟨before, _⟩ | ⟨rfl, _⟩
  · exact ofRules.firing (rule, counter) before
  · exact loads

theorem OfRules.runs_step (ofRules : OfRules rules s) :
    ∀ run ∈ (step s input).runs, ∃ rule ∈ rules, run.actions = rule.actions := by
  intro run member
  have moves := step_moves s input
  generalize step s input = s' at moves member
  cases moves with
  | same runs => exact ofRules.runs run (runs ▸ member)
  | check rule =>
    rw [checkMode_runs] at member
    exact ofRules.runs run member
  | @admitRun rule counter firing =>
    rcases List.mem_append.mp member with old | new
    · exact ofRules.runs run old
    · cases List.mem_singleton.mp new
      exact ⟨rule, ofRules.firing (rule, counter) firing, rfl⟩
  | takeTurn found =>
    rcases List.mem_or_eq_of_mem_set member with old | rfl
    · exact ofRules.runs run old
    · obtain ⟨rule, isRule, actions⟩ := ofRules.runs _ (List.mem_of_getElem? found)
      exact ⟨rule, isRule, actions⟩
  | retire found =>
    rcases List.mem_or_eq_of_mem_set member with old | rfl
    · exact ofRules.runs run old
    · obtain ⟨rule, isRule, actions⟩ := ofRules.runs _ (List.mem_of_getElem? found)
      exact ⟨rule, isRule, actions⟩
  | drop | purge => exact ofRules.runs run member

/-- What a run that begins adds to the frames. -/
theorem OfRules.frames_begin (ofRules : OfRules rules s) {run : RuleRun}
    (isRun : ∃ rule ∈ rules, run.actions = rule.actions) :
    ∀ frame ∈ framesOf (begin s run), frame.parts ⊆ rules.flatMap Rule.actionParts := by
  intro frame member
  simp only [begin, framesOf, List.flatMap_append, List.flatMap_cons, List.flatMap_nil,
    List.append_nil, List.mem_append] at member
  rcases member with old | new
  · exact ofRules.frames frame old
  · simp only [executeActions, ForkJoin.Task.spawn, ForkJoin.Task.frames, List.filterMap_cons,
      List.filterMap_nil, Slot.frame?, List.mem_singleton] at new
    subst new
    obtain ⟨rule, isRule, actions⟩ := isRun
    intro action inside
    refine List.mem_flatMap.mpr ⟨rule, isRule, ?_⟩
    simpa only [Frame.parts, actions, Rule.actionParts] using inside

theorem OfRules.frames_step (ofRules : OfRules rules s) :
    ∀ frame ∈ framesOf (step s input).tasks, frame.parts ⊆ rules.flatMap Rule.actionParts := by
  have same := ofRules.frames
  cases input with
  | check rule =>
    simp only [step]
    split
    · exact same
    · rwa [checkMode_tasks]
  | admitRun =>
    simp only [step]
    split
    · exact same
    · rename_i rule counter firing
      simp only [admitRun]
      split
      · exact same
      · exact ofRules.frames_begin ⟨rule, ofRules.firing (rule, counter) firing, rfl⟩
  | cancelOnFalse ruleId =>
    simp only [step]
    split <;> exact same
  | takeTurn i =>
    simp only [step, takeTurn]
    split
    · exact same
    · rename_i run found
      split
      · exact same
      · exact ofRules.frames_begin (ofRules.runs run (List.mem_of_getElem? found))
  | poll i answer =>
    intro f member
    obtain ⟨frame, rest, _, whole, _, fewer, _⟩ | ⟨_, _, fewer⟩ := step_poll s i answer
    · have before : ∀ g ∈ frame :: rest, g.parts ⊆ rules.flatMap Rule.actionParts :=
        fun g among => same g (whole.mem_iff.mpr among)
      rcases List.mem_append.mp (fewer.subset member) with new | kept
      · rcases react_parts new with within | ⟨target, isLoaded, parts⟩
        · exact List.Subset.trans within (before frame List.mem_cons_self)
        · intro action inside
          exact List.mem_flatMap.mpr ⟨target, ofRules.loaded isLoaded, parts ▸ inside⟩
      · exact before f (List.mem_cons_of_mem _ kept)
    · exact same f (fewer.subset member)
  | retire i => simpa only [step, retire_tasks] using same
  | refuse | setRules | purge => exact same

theorem OfRules.step (ofRules : OfRules rules s) (loads : Loads rules s input) :
    OfRules rules (step s input) where
  loaded := ofRules.loaded_step loads
  firing := ofRules.firing_step loads
  runs := ofRules.runs_step
  frames := ofRules.frames_step

/-- Only a text that is cut inside a character makes a turn panic. -/
theorem OfRules.no_panics (ofRules : OfRules rules s)
    (whole : ¬ TextStraddled (rules.flatMap Rule.actionParts)) (input : Input) : ¬ CutPanics s input := by
  cases input with
  | poll i answer =>
    rintro ⟨calm, running, panicked⟩
    simp only [Engine.step] at panicked
    split at panicked
    · rw [running] at panicked
      cases panicked
    · rename_i shared tasks polled
      obtain ⟨task, frame, below, found, top, aborts⟩ := poll_panicked polled panicked
      have member : frame ∈ framesOf s.tasks := by
        refine List.mem_flatMap.mpr ⟨task, List.mem_of_getElem? found, ?_⟩
        rw [frames_top top]
        exact List.mem_cons_self
      exact whole ((react_panics calm aborts).mono (ofRules.frames frame member))
  | _ => exact id

end Steps

theorem ofRules_start (rules : List Rule) : OfRules rules (System.start rules) where
  loaded := List.Subset.refl _
  firing := fun _ fires => by cases fires
  runs := fun _ member => absurd member List.not_mem_nil
  frames := fun _ member => absurd member List.not_mem_nil

/-! ## Whole rules -/

/-- Nothing that evaluates, fires, describes or runs these rules takes a slice
inside a character. -/
structure NeverCutsCharacters (rules : List Rule) : Prop where
  conditions : ∀ rule ∈ rules, ∀ condition ∈ rule.conditionParts, ∀ ask,
    evaluateOne ask condition ≠ .error .panicked
  firings : ∀ rule ∈ rules, ∀ texts world tctx run,
    (fire texts world rule tctx run).result ≠ .error .panicked
  descriptions : ∀ rule ∈ rules, ∀ action ∈ rule.actionParts, ∀ texts world,
    actionDescription texts world action ≠ .error .panicked
  actions : ∀ rule ∈ rules, ∀ action ∈ rule.actionParts, ∀ shared ctx answer,
    answer.outcome ≠ .panicked → (runSingleAction shared ctx answer action).2 ≠ .abort .panicked
  runs : ∀ inputs, Runs.EachStep step (Loads rules) (System.start rules) inputs →
    Runs.EachStep step (fun s input => ¬ CutPanics s input) (System.start rules) inputs

theorem conditionParts_trans {rule : Rule} {c p : Condition} (isPart : c ∈ rule.conditionParts)
    (inside : p ∈ c.parts) : p ∈ rule.conditionParts := by
  rcases List.mem_append.mp isPart with own | asked
  · obtain ⟨top, isTop, within⟩ := List.mem_flatMap.mp own
    exact List.mem_append_left _ (List.mem_flatMap.mpr ⟨top, isTop, parts_trans within inside⟩)
  · obtain ⟨top, isTop, within⟩ := List.mem_flatMap.mp asked
    exact List.mem_append_right _ (List.mem_flatMap.mpr ⟨top, isTop, parts_trans within inside⟩)

theorem cut_of_script {rule : Rule} (straddled : ScriptStraddled rule.conditionParts) :
    ∃ cut ∈ rule.cuts, cut.Straddled := by
  obtain ⟨script, member, cut⟩ := straddled
  exact ⟨_, List.mem_append_left _ (List.mem_flatMap.mpr ⟨_, member, List.mem_singleton_self _⟩), cut⟩

theorem cut_of_text {rule : Rule} (straddled : TextStraddled rule.actionParts) :
    ∃ cut ∈ rule.cuts, cut.Straddled := by
  obtain ⟨action, member, cut, among, isStraddled⟩ := straddled
  exact ⟨cut, List.mem_append_right _ (List.mem_flatMap.mpr ⟨action, member, among⟩), isStraddled⟩

/-- A straddled text of an action makes its description panic, or its run. -/
theorem action_panics {action : Action} {cut : Cut} (among : cut ∈ action.cuts)
    (straddled : cut.Straddled) (shared : Shared) (ctx : ExecutorContext) (answer : Answer) :
    describePanics action = true ∨ (runSingleAction shared ctx answer action).2 = .abort .panicked := by
  cases action with
  | runScript script =>
    simp only [Action.cuts, List.mem_cons, List.not_mem_nil, or_false] at among
    rcases among with rfl | rfl
    · exact .inl ((cutSplits_iff _ _).mpr straddled)
    · simp [runSingleAction, (cutSplits_iff _ _).mpr straddled]
  | notify channel message title =>
    cases List.mem_singleton.mp among
    exact .inl ((cutSplits_iff _ _).mpr straddled)
  | waitForExpression expression =>
    cases List.mem_singleton.mp among
    exact .inl ((cutSplits_iff _ _).mpr straddled)
  | repeatUntil condition =>
    cases List.mem_singleton.mp among
    simp [runSingleAction, (cutSplits_iff _ _).mpr straddled]
  | repeatWhile condition =>
    cases List.mem_singleton.mp among
    simp [runSingleAction, (cutSplits_iff _ _).mpr straddled]
  | _ => cases among

theorem neverCuts_of_whole {rules : List Rule}
    (whole : ∀ rule ∈ rules, ∀ cut ∈ rule.cuts, ¬ cut.Straddled) : NeverCutsCharacters rules where
  conditions := by
    intro rule isRule condition isPart ask panics
    obtain ⟨cut, among, straddled⟩ := cut_of_script
      ((evaluateOne_panics ask panics).mono fun p inside => conditionParts_trans isPart inside)
    exact whole rule isRule cut among straddled
  firings := by
    intro rule isRule texts world tctx run panics
    obtain ⟨cut, among, straddled⟩ := cut_of_script
      ((fire_panics panics).mono (List.subset_append_left _ _))
    exact whole rule isRule cut among straddled
  descriptions := by
    intro rule isRule action isPart texts world panics
    obtain ⟨cut, among, straddled⟩ := cut_of_text ⟨action, isPart,
      describePanics_straddled ((actionDescription_panics texts world action).mp panics)⟩
    exact whole rule isRule cut among straddled
  actions := by
    intro rule isRule action isPart shared ctx answer calm panics
    obtain ⟨cut, among, straddled⟩ := cut_of_text ⟨action, isPart, runSingleAction_panics calm panics⟩
    exact whole rule isRule cut among straddled
  runs := by
    intro inputs loads
    have throughout := Runs.invariant (OfRules rules) (fun s input ofRules loads => ofRules.step loads)
      (ofRules_start rules) loads
    refine throughout.eachStep fun s input ofRules => ofRules.no_panics ?_ input
    rintro ⟨action, member, straddled⟩
    obtain ⟨rule, isRule, isPart⟩ := List.mem_flatMap.mp member
    obtain ⟨cut, among, isStraddled⟩ := cut_of_text ⟨action, isPart, straddled⟩
    exact whole rule isRule cut among isStraddled

/-- No text of these rules crashes anything, wherever it is evaluated, described
or run, if and only if no character of a text that is cut straddles the cut. -/
theorem texts_never_cut_iff (rules : List Rule) :
    NeverCutsCharacters rules ↔ ∀ rule ∈ rules, ∀ cut ∈ rule.cuts, ¬ cut.Straddled := by
  refine ⟨fun never rule isRule cut among straddled => ?_, neverCuts_of_whole⟩
  rcases List.mem_append.mp among with ofCondition | ofAction
  · obtain ⟨condition, isPart, cuts⟩ := List.mem_flatMap.mp ofCondition
    cases condition with
    | scriptExpression script =>
      cases List.mem_singleton.mp cuts
      let ask : Asking := ⟨⟨fun _ => "", fun _ => "", fun _ => "", fun _ => "", id⟩, quietWorld, ⟨0⟩, ∅, none⟩
      refine never.conditions rule isRule _ isPart ask ?_
      rw [evaluateOne]
      exact (scriptTrace_panics _ _ script).mpr straddled
    | _ => cases cuts
  · obtain ⟨action, isPart, cuts⟩ := List.mem_flatMap.mp ofAction
    let shared : Shared := (System.start rules).shared
    rcases action_panics cuts straddled shared ⟨⟨0⟩, 0, 0⟩ {} with describes | runs
    · refine never.descriptions rule isRule action isPart ⟨fun _ => "", fun _ => ""⟩ quietWorld ?_
      exact (actionDescription_panics _ _ action).mpr describes
    · exact never.actions rule isRule action isPart shared _ {} (by simp) runs

/-- Fifty-nine letters and then one of two bytes. -/
def longNote : String := String.ofList (List.replicate 59 'a' ++ ['é', '!'])

/-- A rule with such a message panics whenever it is described. -/
theorem notification_text_panics :
    ¬ NeverCutsCharacters [Rule.minimal ⟨1⟩ .manualTrigger [.notify "all" longNote none]] := by
  intro never
  refine never.descriptions _ List.mem_cons_self (.notify "all" longNote none)
    (by simp [Rule.actionParts, Rule.minimal, Action.parts])
    ⟨fun _ => "", fun _ => ""⟩ quietWorld ?_
  rw [actionDescription_panics]
  decide

end HomeCore.Engine
