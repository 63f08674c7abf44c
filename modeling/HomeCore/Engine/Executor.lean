import HomeCore.Engine.Conditions
import HomeCore.ForkJoin

/-! The action executor. Every place where a run can be suspended is a frame, so
that runs of one rule, the branches of its parallel steps and the steps of other
rules interleave between any two of them. What a device, a script or a service
does with a step is the world's answer. -/
namespace HomeCore.Engine
open ForkJoin hiding Task

/-- How deep rules may run each other's actions. -/
def maxCallDepth : Nat := 10

/-- What the executor reads of a run's context, with the call depth it passes
along. Flags are shared objects, so they are known by their number. -/
structure ExecutorContext where
  ruleId : Uuid
  exitFlag : Nat
  callDepth : Nat
  deriving DecidableEq

/-- What all runs share. -/
structure Shared where
  /-- How many flags and wake handles have been made so far. -/
  made : Nat
  /-- The exit flags that are set. -/
  exited : List Nat
  delayRegistry : Std.ExtTreeMap String Nat
  /-- The wake handles that have been notified. -/
  notified : List Nat
  rules : List Rule

/-- What the world says when a step asks it something. -/
structure Answer where
  /-- How a service, a script or a check ended. -/
  outcome : Ending := .ok
  /-- What a script, a check, a ping or a wait said. -/
  holds : Bool := false
  /-- The alerts that are active. -/
  alerts : List Alert := []
  /-- `Uuid::new_v4`. -/
  fresh : Uuid := ⟨0⟩

/-- The rest of what a task has to do, up to the next point where it can be
suspended. -/
inductive Frame where
  /-- The loop of `execute_actions_at`. -/
  | ruleActions (ctx : ExecutorContext) (actions : List RuleAction)
  /-- The loop of `execute_actions_inner`. -/
  | actions (ctx : ExecutorContext) (actions : List Action)
  /-- `run_single_action`, not yet begun. -/
  | action (ctx : ExecutorContext) (action : Action)
  /-- A delay that can be cancelled. -/
  | sleeping (key : String) (handle : Nat)
  /-- A sleep that cannot. -/
  | pause
  | untilLoop (ctx : ExecutorContext) (body : List Action) (left delay : Nat)
  | untilCheck (ctx : ExecutorContext) (body : List Action) (left delay : Nat)
  | whileLoop (ctx : ExecutorContext) (body : List Action) (left delay : Nat)
  | countLoop (ctx : ExecutorContext) (body : List Action) (left delay : Nat)
  | elseIfs (ctx : ExecutorContext) (branches : List (IfCheck × List Action))
      (elseActions : List Action)
  | alertLoop (ctx : ExecutorContext) (alerts : List Alert) (body : List Action)

/-- Every task there is: of the runs, and of the branches they spawned. -/
abbrev Machine := List (ForkJoin.Task Frame)

/-- Cutting the text after `n` bytes splits a character, which panics. -/
def cutSplits (n : Nat) (text : String) : Bool :=
  n < text.utf8ByteSize && (cutAt n text.toList).isNone

/-- `action_description` shows the beginning of some texts. -/
def describePanics : Action → Bool
  | .runScript script => cutSplits 60 script
  | .notify _ message _ => cutSplits 60 message
  | .waitForExpression expression .. => cutSplits 60 expression
  | _ => false

/-! ## Delays -/

/-- The key a delay is registered under. -/
def delayKey (ctx : ExecutorContext) (cancelKey : Option String) (fresh : Uuid) : String :=
  match cancelKey with
  | some k => ctx.ruleId.text ++ "/" ++ k
  | none => ctx.ruleId.text ++ "/auto_" ++ fresh.text

/-- The key is one of the rule's. -/
def keyOfRule (ruleId : Uuid) (key : String) : Bool :=
  (ruleId.text ++ "/").toList.isPrefixOf key.toList

/-- Take the handle under a key out of the registry and notify it. -/
def cancelDelay (shared : Shared) (key : String) : Shared :=
  match shared.delayRegistry[key]? with
  | none => shared
  | some handle =>
    { shared with
      delayRegistry := shared.delayRegistry.erase key
      notified := handle :: shared.notified }

def cancelDelaysOf (shared : Shared) (ruleId : Uuid) : Shared :=
  (shared.delayRegistry.keys.filter (keyOfRule ruleId)).foldl cancelDelay shared

def startDelay (shared : Shared) (key : String) : Shared × Reaction Frame :=
  ({ shared with
      made := shared.made + 1
      delayRegistry := shared.delayRegistry.insert key shared.made },
    .go [.sleeping key shared.made])

/-- The delay is over, by its time or by its handle: whatever is registered
under its key goes. -/
def wake (shared : Shared) (key : String) : Shared :=
  { shared with delayRegistry := shared.delayRegistry.erase key }

def exitRule (shared : Shared) (flag : Nat) : Shared := { shared with exited := flag :: shared.exited }

/-! ## Steps -/

section Steps
variable (shared : Shared) (ctx : ExecutorContext) (answer : Answer)

def exiting : Bool := shared.exited.contains ctx.exitFlag

/-- `execute_one`: the action is described, then handed over. -/
def executeOne (action : Action) (rest : Frame) : Reaction Frame :=
  if describePanics action then .abort .panicked else .go [.action ctx action, rest]

/-- One round of `execute_actions_at`. A disabled action is described for the
trace, which only the context of the run itself keeps. -/
def executeActionsAt : List RuleAction → Reaction Frame
  | [] => .go []
  | step :: rest =>
    if exiting shared ctx then .go []
    else if step.enabled then executeOne ctx step.action (.ruleActions ctx rest)
    else if ctx.callDepth = 0 ∧ describePanics step.action = true then .abort .panicked
    else .go [.ruleActions ctx rest]

/-- One round of `execute_actions_inner`. -/
def executeActionsInner : List Action → Reaction Frame
  | [] => .go []
  | action :: rest =>
    if exiting shared ctx then .go [] else executeOne ctx action (.actions ctx rest)

/-- A step that ends as the world says. -/
def ended : Reaction Frame :=
  match answer.outcome with
  | .ok => .go []
  | ending => .abort ending

/-- A script runs on a thread of its own: its panic is an error here. -/
def scripted (next : Bool → Reaction Frame) : Reaction Frame :=
  match answer.outcome with
  | .ok => next answer.holds
  | _ => .abort .failed

def ifPasses (check : IfCheck) (next : Bool → Reaction Frame) : Reaction Frame :=
  match check, answer.outcome with
  | _, .ok => next answer.holds
  | .script _, _ => .abort .failed
  | .check _, ending => .abort ending

/-- Run these actions, where there are any. -/
def runAny (actions : List Action) : Reaction Frame :=
  .go (if actions.isEmpty then [] else [.actions ctx actions])

def sleepFor (millis : Nat) : List Frame := if 0 < millis then [.pause] else []

/-- The alerts a filter selects, the one waiting longest first. -/
def selectedAlerts (filter : AlertFilter) : List Alert :=
  (answer.alerts.filter filter.selects).insertionSort fun a b => a.raisedAt ≤ b.raisedAt

def untilRound (body : List Action) (left delay : Nat) : Reaction Frame :=
  if left = 0 ∨ exiting shared ctx = true then .go []
  else .go [.actions ctx body, .untilCheck ctx body left delay]

def untilChecked (body : List Action) (left delay : Nat) : Reaction Frame :=
  scripted answer fun done =>
    if done ∨ left ≤ 1 then .go [] else .go (sleepFor delay ++ [.untilLoop ctx body (left - 1) delay])

def whileRound (body : List Action) (left delay : Nat) : Reaction Frame :=
  if exiting shared ctx = true ∨ left = 0 then .go []
  else scripted answer fun passes =>
    if passes then
      .go ([.actions ctx body] ++ sleepFor delay ++ [.whileLoop ctx body (left - 1) delay])
    else .go []

def countRound (body : List Action) (left delay : Nat) : Reaction Frame :=
  if left = 0 ∨ exiting shared ctx = true then .go []
  else
    .go ([.actions ctx body] ++ (if 1 < left then sleepFor delay else []) ++
      [.countLoop ctx body (left - 1) delay])

/-- An exit ends the search, and the `else` actions are then the ones to run. -/
def elseIfRound (elseActions : List Action) : List (IfCheck × List Action) → Reaction Frame
  | [] => .go [.actions ctx elseActions]
  | (check, body) :: branches =>
    if exiting shared ctx then .go [.actions ctx elseActions]
    else ifPasses answer check fun passes =>
      if passes then .go [.actions ctx body] else .go [.elseIfs ctx branches elseActions]

def alertRound (body : List Action) : List Alert → Reaction Frame
  | [] => .go []
  | _ :: alerts =>
    if exiting shared ctx then .go [] else .go [.actions ctx body, .alertLoop ctx alerts body]

/-- A called rule runs in a context of its own, with a flag that nobody else holds. -/
def runRuleActions (ruleId : Uuid) : Shared × Reaction Frame :=
  if maxCallDepth ≤ ctx.callDepth then (shared, .go [])
  else match shared.rules.find? (·.id = ruleId) with
    | none => (shared, .go [])
    | some target =>
      ({ shared with made := shared.made + 1 },
        .go [.ruleActions ⟨ruleId, shared.made, ctx.callDepth + 1⟩ target.actions])

/-- `run_single_action`. -/
def runSingleAction : Action → Shared × Reaction Frame
  | .parallel actions => (shared, .fork (actions.map (.action ctx)))
  | .delay _ cancelable cancelKey =>
    if cancelable then startDelay shared (delayKey ctx cancelKey answer.fresh)
    else (shared, .go [.pause])
  | .repeatUntil condition body maxIterations intervalMs =>
    (shared, if cutSplits 60 condition then .abort .panicked
      else .go [.untilLoop ctx body (maxIterations.getD 100) (intervalMs.getD 0)])
  | .repeatWhile condition body maxIterations intervalMs =>
    (shared, if cutSplits 60 condition then .abort .panicked
      else .go [.whileLoop ctx body (maxIterations.getD 100) (intervalMs.getD 0)])
  | .repeatCount count body intervalMs => (shared, .go [.countLoop ctx body count (intervalMs.getD 0)])
  | .conditional condition thenActions elseIf elseActions =>
    (shared, ifPasses answer condition fun passes =>
      if passes then .go [.actions ctx thenActions] else .go [.elseIfs ctx elseIf elseActions])
  | .exitRule => (exitRule shared ctx.exitFlag, .go [])
  | .cancelDelays (some k) => (cancelDelay shared (ctx.ruleId.text ++ "/" ++ k), .go [])
  | .cancelDelays none => (cancelDelaysOf shared ctx.ruleId, .go [])
  | .cancelRuleTimers ruleId => (cancelDelaysOf shared (ruleId.getD ctx.ruleId), .go [])
  | .runRuleActions ruleId => runRuleActions shared ctx ruleId
  | .forEachAlert filter body => (shared, .go [.alertLoop ctx (selectedAlerts answer filter) body])
  | .waitAlertCleared _ _ otherwise => (shared, if answer.holds then .go [] else runAny ctx otherwise)
  | .pingHost _ _ _ thenActions elseActions _ =>
    (shared, runAny ctx (if answer.holds then thenActions else elseActions))
  | .runScript script => (shared, if cutSplits 80 script then .abort .panicked else ended answer)
  | .setDeviceState .. => (shared, ended answer)
  | .publishMqtt .. => (shared, ended answer)
  | .callService .. => (shared, ended answer)
  | .fireEvent .. => (shared, ended answer)
  | .setDeviceStatePerMode .. => (shared, ended answer)
  | .restoreDeviceState .. => (shared, ended answer)
  | .activateScenePerMode .. => (shared, ended answer)
  | .fadeDevice .. => (shared, ended answer)
  | .setMode .. => (shared, ended answer)
  | .pressAlert .. => (shared, ended answer)
  | .skipAlert .. => (shared, ended answer)
  | .ignoreAlerts .. => (shared, ended answer)
  | .notify .. => (shared, .go [])
  | .stopRuleChain => (shared, .go [])
  | .comment .. => (shared, .go [])
  | .waitForEvent .. => (shared, .go [])
  | .waitForExpression .. => (shared, .go [])
  | .setVariable .. => (shared, .go [])
  | .pauseRule .. => (shared, .go [])
  | .resumeRule .. => (shared, .go [])
  | .setPrivateBoolean .. => (shared, .go [])
  | .logMessage .. => (shared, .go [])
  | .captureDeviceState .. => (shared, .go [])
  | .delayPerMode .. => (shared, .go [])
  | .setHubVariable .. => (shared, .go [])
  | .acknowledgeAlert .. => (shared, .go [])

end Steps

/-- One turn of the frame on top of a task. -/
def react (shared : Shared) (frame : Frame) (answer : Answer) : Shared × Reaction Frame :=
  match frame with
  | .ruleActions ctx actions => (shared, executeActionsAt shared ctx actions)
  | .actions ctx actions => (shared, executeActionsInner shared ctx actions)
  | .action ctx action => runSingleAction shared ctx answer action
  | .sleeping key _ => (wake shared key, .go [])
  | .pause => (shared, .go [])
  | .untilLoop ctx body left delay => (shared, untilRound shared ctx body left delay)
  | .untilCheck ctx body left delay => (shared, untilChecked ctx answer body left delay)
  | .whileLoop ctx body left delay => (shared, whileRound shared ctx answer body left delay)
  | .countLoop ctx body left delay => (shared, countRound shared ctx body left delay)
  | .elseIfs ctx branches elseActions => (shared, elseIfRound shared ctx answer elseActions branches)
  | .alertLoop ctx alerts body => (shared, alertRound shared ctx body alerts)

/-- The task of a run that is about to begin. -/
def executeActions (ruleId : Uuid) (flag owner : Nat) (actions : List RuleAction) :
    ForkJoin.Task Frame :=
  .spawn owner (.ruleActions ⟨ruleId, flag, 0⟩ actions)

/-- The context a frame runs in. -/
def Frame.ctx? : Frame → Option ExecutorContext
  | .ruleActions ctx _ => some ctx
  | .actions ctx _ => some ctx
  | .action ctx _ => some ctx
  | .sleeping .. => none
  | .pause => none
  | .untilLoop ctx .. => some ctx
  | .untilCheck ctx .. => some ctx
  | .whileLoop ctx .. => some ctx
  | .countLoop ctx .. => some ctx
  | .elseIfs ctx .. => some ctx
  | .alertLoop ctx .. => some ctx

end HomeCore.Engine
