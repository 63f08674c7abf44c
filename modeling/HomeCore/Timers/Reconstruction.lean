import HomeCore.Timers.Manager

/-! The timers that a process finds when it starts. A running one goes on for what is left of its
length, and one with nothing left is fired at once. -/
namespace HomeCore
namespace TimerSystem

/-- A timer as the process starts with it, and whether it was fired at once. -/
structure Reconstructed where
  timer : TimerSystem
  fires : Bool

/-- `reconstruct_timers`, for one timer. The countdowns of the process before are gone with it. -/
def reconstructTimers (now : DateTime) (record : Option TimerRecord) : Reconstructed :=
  match record with
  | none => ⟨start now none, false⟩
  | some dev =>
    if dev.status = some .running then
      let durationSecs := dev.durationSecs.getD 0
      let remainingSecs : Nat := match dev.startedAt with
        | some started => durationSecs - TimerRecord.elapsed now started
        | none => durationSecs
      let repeats := dev.repeats.getD false
      if 0 < remainingSecs then
        ⟨{ (start now (some dev)).setTask 0
            ⟨durationSecs, repeats, false, false, .sleeping (now + remainingSecs * second)⟩ with
          spawned := 1
          handle := some 0 }, false⟩
      else ⟨start now (some (dev.withState now .finished {})), true⟩
    else ⟨start now (some dev), false⟩

/-- What happens to a timer over several processes. -/
inductive ProcessEvent where
  | timer (event : TimerEvent)
  /-- The process stops, and starts again so many nanoseconds later. -/
  | restart (downtime : Nat)
  deriving DecidableEq

def outlive (timer : TimerSystem) : ProcessEvent → TimerSystem
  | .timer event => timer.react event
  | .restart downtime => (reconstructTimers (timer.now + downtime) timer.record).timer

/-- A countdown that is alive and sleeps until then. -/
def CountsDown (timer : TimerSystem) (task : TimerTask) (wakeAt : DateTime) : Prop :=
  ∃ id, timer.tasks id = some task ∧ task.alive = true ∧ task.phase = .sleeping wakeAt

/-- After a restart a running timer is fired if its countdown would have woken by then, or has a
countdown that wakes when the one before would have, early or late by at most `slack`; and a
repeating one goes on repeating, at its usual length. -/
def Transparent (slack : Int) (timer : TimerSystem) (downtime : Nat) : Prop :=
  ∀ record ∈ timer.record, record.status = some .running →
    ∀ task wakeAt, timer.CountsDown task wakeAt →
      let again := reconstructTimers (timer.now + downtime) timer.record
      if again.fires then
        wakeAt ≤ timer.now + downtime + slack ∧
          (task.repeats = false → ∀ fired ∈ again.timer.record, fired.status = some .finished) ∧
          (task.repeats = true → ∃ next wakesNext, again.timer.CountsDown next wakesNext ∧
            next.repeats = true ∧ next.durationSecs = task.durationSecs)
      else ∃ next wakesNext, again.timer.CountsDown next wakesNext ∧
        wakeAt - slack ≤ wakesNext ∧ wakesNext ≤ wakeAt + slack ∧ next.repeats = task.repeats ∧
          (task.repeats = true → next.durationSecs = task.durationSecs)

def RestartsTransparent (slack : Int) (timer : TimerSystem) : ProcessEvent → Prop
  | .timer _ => True
  | .restart downtime => timer.Transparent slack downtime

/-- Where the length on record is over, the countdown's time is up too and it does not repeat.
Where it is not, it is over when the countdown wakes, but for the part of a second that the time
is past the start and for `slack`; and it is the usual length of a countdown that repeats. -/
def tellsOf (slack now : Int) (started : DateTime) (duration : Nat) (wakeAt : DateTime)
    (task : TimerTask) : Bool :=
  let due := started + duration * second
  if due ≤ now then decide (wakeAt ≤ now + slack) && !task.repeats
  else
    let wakes := due + (now - started) % second
    decide (wakeAt - slack ≤ wakes) && decide (wakes ≤ wakeAt + slack) &&
      (!task.repeats || duration == task.durationSecs)

/-- The record of a running timer tells of its countdown when the process starts again. -/
def recovers (slack : Int) (timer : TimerSystem) : ProcessEvent → Bool
  | .timer _ => true
  | .restart downtime => match timer.record, timer.handle.bind timer.tasks with
    | some record, some task =>
      match record.status, task.phase, record.startedAt, record.durationSecs with
      | some .running, .sleeping wakeAt, some started, some duration =>
        tellsOf slack (timer.now + downtime) started duration wakeAt task
      | _, _, _, _ => true
    | _, _ => true

end TimerSystem
end HomeCore
