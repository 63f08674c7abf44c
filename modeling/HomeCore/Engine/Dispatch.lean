import HomeCore.Engine.RuleRuns

/-! The engine's loop over events, one firing after another, with the runs of rules and a reload
going on between any two of its steps. -/
namespace HomeCore.Engine

/-! ## One firing -/

/-- How far a firing comes before the mode of its rule is checked. -/
inductive Gate where
  | passed
  /-- Turned away, with the rule's delays cancelled or not. -/
  | refused (cancels : Bool)
  | raised
  deriving DecidableEq

section Firing
variable (texts : Texts) (world : World) (rule : Rule) (tctx : TriggerContext) (run : Run)

def gate : Gate :=
  if run = .event ∧ world.pauseState rule.id = true then .refused false
  else match cooldownRemaining world rule run with
  | some _ => .refused false
  | none => match expressionGate world tctx run rule.requiredExpression with
    | .error _ => .raised
    | .ok false => .refused rule.cancelOnFalse
    | .ok true => match expressionGate world tctx run rule.triggerCondition with
      | .error _ => .raised
      | .ok false => .refused false
      | .ok true => .passed

/-- How the firing goes on once its conditions are judged. -/
def verdict : Input :=
  match judgedConditions texts world rule tctx run with
  | .ok traces => if conditionsPassed rule run traces then .admitRun else .refuse
  | .error _ => .refuse

/-- No further rule is fired for the event: the rule stops the chain, or its conditions could not be
judged. -/
def endsTheEvent : Bool :=
  match judgedConditions texts world rule tctx run with
  | .ok traces => conditionsPassed rule run traces && stopsTheChain rule
  | .error _ => true

end Firing

/-! ## The loop -/

structure Dispatcher where
  system : System
  /-- The rules that the event being handled is still to start. -/
  due : List Selected
  /-- The one whose conditions are being judged. -/
  current : Option Selected

def Dispatcher.start (rules : List Rule) : Dispatcher := ⟨System.start rules, [], none⟩

inductive DispatchInput where
  | receive (world : World) (event : Event)
  /-- The next rule that is due is fired, up to its conditions. -/
  | next (world : World)
  | judge (world : World)
  /-- A step of a run, or a reload. -/
  | other (input : Input)

/-- Steps that only the loop itself makes. -/
def Input.ofLoop : Input → Bool
  | .check _ | .refuse | .admitRun | .cancelOnFalse _ => true
  | _ => false

namespace Dispatcher
variable (wire : Wire) (texts : Texts)

def receive (d : Dispatcher) (world : World) (event : Event) : Dispatcher :=
  if d.current.isSome || !d.due.isEmpty then d
  else { d with
    due := (selectRules wire world d.system.shared.rules event).filter fun selected =>
      !selected.deferred }

def fireNext (d : Dispatcher) (world : World) : Dispatcher :=
  match d.current, d.due with
  | none, selected :: rest =>
    match gate world selected.rule selected.tctx selected.run with
    | .passed =>
      let system := Engine.step d.system (.check selected.rule)
      { system, due := rest, current := system.firing.map fun _ => selected }
    | .refused true =>
      { d with system := Engine.step d.system (.cancelOnFalse selected.rule.id), due := rest }
    | .refused false => { d with due := rest }
    | .raised => { d with due := [] }
  | _, _ => d

def judge (d : Dispatcher) (world : World) : Dispatcher :=
  match d.current with
  | none => d
  | some ⟨rule, tctx, _, run⟩ =>
    { system := Engine.step d.system (verdict texts world rule tctx run)
      due := if endsTheEvent texts world rule tctx run then [] else d.due
      current := none }

def step (d : Dispatcher) : DispatchInput → Dispatcher
  | .receive world event => d.receive wire world event
  | .next world => d.fireNext world
  | .judge world => d.judge texts world
  | .other input => if input.ofLoop then d else { d with system := Engine.step d.system input }

end Dispatcher
end HomeCore.Engine
