import HomeCore.Plugins.SupervisorProofs

/-! Stop means stopped. A supervisor that was told to stop launches nothing until it is told to
start again, unless it was told while it waited out a back-off. -/
namespace HomeCore.Plugins

namespace Supervisor

/-- The command that is taken from the channel at the event. -/
def received (s : Supervisor) : Event → Option PluginCommand
  | .receive _ => if s.listens then s.channel.head? else none
  | _ => none

/-- A Stop is taken during a back-off, and ends it. -/
def swallowsStop (s : Supervisor) (event : Event) : Bool :=
  s.phase == .backingOff && s.received event == some .stop

end Supervisor

/-- The supervisor beside what was asked of it and what it did since. -/
structure StopWatch where
  supervisor : Supervisor
  /-- The last command it received is a Stop. -/
  toldToStop : Bool
  /-- The processes launched since the last command. -/
  launchedSince : Nat
  /-- Somebody else wrote the record since the supervisor came to rest. -/
  overwritten : Bool

namespace StopWatch
open Supervisor

def start (entry : PluginProcess) (record : Option PluginRecord) : StopWatch :=
  ⟨begin entry record, false, 0, false⟩

/-- The supervisor comes to rest where its child has ended for a Stop. -/
def comesToRest (w : StopWatch) (event : Event) : Bool :=
  (w.supervisor.step event).phase == .stopped && w.supervisor.phase != .stopped

def step (w : StopWatch) (event : Event) : StopWatch where
  supervisor := w.supervisor.step event
  toldToStop := (w.supervisor.received event).elim w.toldToStop (· == .stop)
  launchedSince := (w.supervisor.received event).elim w.launchedSince (fun _ => 0) +
    ((w.supervisor.step event).nextPid - w.supervisor.nextPid)
  overwritten := match event with
    | .writeRecord _ => true
    | _ => w.overwritten && !w.comesToRest event

/-- Told to stop, it launches nothing, and its record says so once no child is left to end. -/
structure StopMeansStopped (w : StopWatch) : Prop where
  launchesNothing : w.toldToStop = true → w.launchedSince = 0
  recorded : w.toldToStop = true → w.supervisor.held = none → w.overwritten = false →
    ∀ record ∈ w.supervisor.record, record.status = "stopped"
  backoff : minBackoff ≤ w.supervisor.backoffSecs ∧ w.supervisor.backoffSecs ≤ maxBackoff

end StopWatch

namespace Supervisor
variable {s : Supervisor}

/-- It has come to rest, or will once its child has ended. -/
def Resting (s : Supervisor) : Prop :=
  match s.phase with
  | .disabled | .stopped | .returned | .asked _ _ .stop | .killed _ _ .stop => True
  | _ => False

def RecordsStopped (s : Supervisor) : Prop := ∀ record ∈ s.record, record.status = "stopped"

/-- What a step does to the phase, to the processes launched and to the status of one that is at
rest. -/
inductive Turn (s : Supervisor) (event : Event) (s' : Supervisor) : Prop where
  | stays (phase : s'.phase = s.phase) (launched : s'.nextPid = s.nextPid)
      (record : s'.record = s.record ∨ ∃ record, event = .writeRecord record)
      (received : ∀ command ∈ s.received event, command = .stop ∧ s.Resting)
  /-- It is told to go on, or goes on by itself. -/
  | goesOn (received : ∀ command ∈ s.received event, command ≠ .stop) (awake : s.Resting →
      s.received event ≠ none) (running : s'.phase ≠ .stopped ∧ s'.phase ≠ .disabled)
  /-- A Stop ends the back-off. -/
  | swallows (phase : s.phase = .backingOff) (received : s.received event = some .stop)
      (launching : s'.phase = .launching)
  /-- A child is asked to end, or killed, for a Stop. -/
  | stopping (child : Child) (startedAt : Nat)
      (received : ∀ command ∈ s.received event, command = .stop)
      (phase : s'.phase = .asked child startedAt .stop ∨ s'.phase = .killed child startedAt .stop)
      (launched : s'.nextPid = s.nextPid)
  | stopped (received : s.received event = none) (phase : s'.phase = .stopped)
      (notYet : s.phase ≠ .stopped) (launched : s'.nextPid = s.nextPid) (recorded : s'.RecordsStopped)
  /-- At rest, it returns. -/
  | returns (received : s.received event = none) (wasAtRest : s.phase = .disabled ∨ s.phase = .stopped)
      (phase : s'.phase = .returned) (launched : s'.nextPid = s.nextPid) (record : s'.record = s.record)

theorem setStatus_recorded (status : String) :
    ∀ record ∈ (s.setStatus status).record, record.status = status := by
  rw [setStatus]
  intro record isRecord
  split at isRecord
  · next absent => rw [absent] at isRecord; cases isRecord
  · next found =>
    split at isRecord
    · next same =>
      rw [found, Option.mem_some_iff] at isRecord
      rw [← isRecord, same]
    · rw [Option.mem_some_iff] at isRecord
      rw [← isRecord]

@[simp] theorem setStatus_nextPid (status : String) : (s.setStatus status).nextPid = s.nextPid := by
  rw [setStatus]
  split
  · rfl
  · split <;> rfl

theorem childStopped_turn {event : Event} (received : s.received event = none) {child : Child}
    {startedAt : Nat} {cause : Cause}
    (phase : s.phase = .asked child startedAt cause ∨ s.phase = .killed child startedAt cause) :
    Turn s event (s.childStopped startedAt cause) := by
  have notReceived : ∀ command ∈ s.received event, command ≠ .stop := by
    rw [received]
    intro command none
    cases none
  cases cause with
  | stop =>
    have notYet : s.phase ≠ .stopped := by rcases phase with phase | phase <;> rw [phase] <;> simp
    exact .stopped received rfl notYet (setStatus_nextPid "stopped") (setStatus_recorded "stopped")
  | restart | channelClosed | shutdown =>
    refine .goesOn notReceived (fun resting => ?_) (by simp [childStopped, ended])
    rcases phase with phase | phase <;> simp [Resting, phase] at resting

theorem killChild_turn {event : Event} {child : Child} {startedAt : Nat} {cause : Cause} (asks : Bool)
    (running : s.phase = .running child startedAt)
    (stop : cause = .stop → ∀ command ∈ s.received event, command = .stop)
    (other : cause ≠ .stop → ∀ command ∈ s.received event, command ≠ .stop) :
    Turn s event (s.killChild child startedAt cause asks) := by
  by_cases isStop : cause = .stop
  · refine .stopping child startedAt (stop isStop) ?_ rfl
    rw [killChild, isStop]
    cases asks
    · exact .inr rfl
    · exact .inl rfl
  · refine .goesOn (other isStop) (fun resting => ?_) ?_
    · simp [Resting, running] at resting
    · rw [killChild]
      cases asks <;> simp

theorem waited_turn {event : Event} (received : s.received event = none) :
    Turn s event s.waited := by
  have noCommand : ∀ command ∈ s.received event, command ≠ .stop := by simp [received]
  rw [waited]
  split
  · next child startedAt running =>
    refine .goesOn noCommand (fun resting => ?_) (by simp [ended])
    simp [Resting, running] at resting
  · next phase => exact childStopped_turn received (.inl phase)
  · next phase => exact childStopped_turn received (.inr phase)
  · exact .stays rfl rfl (.inl rfl) (by simp [received])

/-- A command that is taken where the supervisor listens. -/
theorem takeCommand_turn {event : Event} {command : PluginCommand} {rest : List PluginCommand}
    (listening : s.listens = true) (received : s.received event = some command) (asks : Bool) :
    Turn s event ({ s with channel := rest }.takeCommand asks command) := by
  cases phase : s.phase with
  | backingOff =>
    cases command with
    | stop => exact .swallows phase received rfl
    | start | restart =>
      refine .goesOn (by simp [received]) (fun resting => ?_) (by simp [takeCommand])
      simp [Resting, phase] at resting
  | disabled | stopped =>
    cases command with
    | stop => exact .stays phase.symm rfl (.inl rfl) (by simp [received, Resting, phase])
    | start | restart =>
      exact .goesOn (by simp [received]) (fun _ => by simp [received]) (by simp [takeCommand])
  | running child startedAt =>
    cases command with
    | stop =>
      refine .stopping child startedAt (by simp [received]) ?_ rfl
      cases asks
      · exact .inr rfl
      · exact .inl rfl
    | start | restart =>
      refine .goesOn (by simp [received]) (fun resting => ?_) ?_
      · simp [Resting, phase] at resting
      · cases asks <;> simp [takeCommand, killChild]
  | launching | asked _ _ _ | killed _ _ _ | returned => simp [listens, phase] at listening

theorem Leaves.turn {event : Event} {cause : Cause} {asks : Bool} {s' : Supervisor}
    (leaves : s.Leaves cause asks s') (received : s.received event = none) (notStop : cause ≠ .stop) :
    Turn s event s' := by
  have noCommand : ∀ command ∈ s.received event, command ≠ .stop := by simp [received]
  cases leaves with
  | returns resting =>
    rcases resting with phase | phase | phase
    · exact .returns received (.inl phase) rfl rfl rfl
    · exact .returns received (.inr phase) rfl rfl rfl
    · refine .goesOn noCommand (fun resting => ?_) (by simp)
      simp [Resting, phase] at resting
  | kills running => exact killChild_turn asks running (fun isStop => absurd isStop notStop) fun _ => noCommand
  | stays => exact .stays rfl rfl (.inl rfl) (by simp [received])

theorem receive_turn (s : Supervisor) (asks : Bool) : Turn s (.receive asks) (s.receive asks) := by
  rw [receive]
  by_cases listening : s.listens = true
  · rw [if_neg (by simp [listening])]
    cases channel : s.channel with
    | cons command rest =>
      exact takeCommand_turn listening (by simp [received, listening, channel]) asks
    | nil =>
      have received : s.received (.receive asks) = none := by simp [received, channel]
      have stays : Turn s (.receive asks) s := .stays rfl rfl (.inl rfl) (by simp [received])
      dsimp only
      split
      · exact (takeEnd_leaves s asks).turn received (by decide)
      · exact stays
  · rw [if_pos (by simpa using listening)]
    exact .stays rfl rfl (.inl rfl) (by simp [received, listening])

theorem timeout_turn (s : Supervisor) : Turn s .timeout s.timeout := by
  have received : s.received .timeout = none := rfl
  rw [timeout]
  split
  · next child startedAt cause phase =>
    by_cases isStop : cause = .stop
    · exact .stopping child startedAt (by simp [received]) (.inr (by rw [isStop])) rfl
    · refine .goesOn (by simp [received]) (fun resting => ?_) (by simp)
      cases cause <;> simp_all [Resting]
  · next phase => exact childStopped_turn received (.inr phase)
  · next phase =>
    refine .goesOn (by simp [received]) (fun resting => ?_) (by simp)
    simp [Resting, phase] at resting
  · exact .stays rfl rfl (.inl rfl) (by simp [received])

theorem step_turn (s : Supervisor) (event : Event) : Turn s event (s.step event) := by
  cases event with
  | tick nanos | send command | closeChannel | requestShutdown | dropShutdown | exits child =>
    exact .stays rfl rfl (.inl rfl) (by simp [received])
  | writeRecord record => exact .stays rfl rfl (.inr ⟨record, rfl⟩) (by simp [received])
  | launch spawns =>
    rw [step]
    split
    · next launching =>
      refine .goesOn (by simp [received]) (fun resting => ?_) ?_
      · simp [Resting, launching] at resting
      · rw [launch]
        split
        · simp
        · dsimp only
          split <;> simp
    · exact .stays rfl rfl (.inl rfl) (by simp [received])
  | receive asks => exact receive_turn s asks
  | noticeShutdown asks => exact (noticeShutdown_leaves s asks).turn rfl (by decide)
  | reaped =>
    rw [step]
    split
    · exact .stays rfl rfl (.inl rfl) (by simp [received])
    · exact waited_turn rfl
  | waitFails => exact waited_turn rfl
  | timeout => exact timeout_turn s

/-! ## The back-off -/

def BackoffBounded (s : Supervisor) : Prop :=
  minBackoff ≤ s.backoffSecs ∧ s.backoffSecs ≤ maxBackoff

theorem doubled_bounded {backoffSecs : Nat} (atLeast : minBackoff ≤ backoffSecs) :
    minBackoff ≤ doubled backoffSecs ∧ doubled backoffSecs ≤ maxBackoff := by
  simp only [doubled, minBackoff, maxBackoff] at atLeast ⊢
  omega

theorem minBackoff_bounded : minBackoff ≤ minBackoff ∧ minBackoff ≤ maxBackoff := by decide

@[simp] theorem setStatus_backoff (status : String) :
    (s.setStatus status).backoffSecs = s.backoffSecs := by
  rw [setStatus]
  split
  · rfl
  · split <;> rfl

theorem BackoffBounded.of_eq {s' : Supervisor} (bounded : BackoffBounded s)
    (same : s'.backoffSecs = s.backoffSecs) : BackoffBounded s' := by
  rw [BackoffBounded, same]
  exact bounded

theorem ended_bounded (bounded : BackoffBounded s) (startedAt : Nat) :
    BackoffBounded (s.ended startedAt) := by
  rw [BackoffBounded, ended]
  dsimp only
  split
  · exact minBackoff_bounded
  · exact doubled_bounded bounded.1

theorem childStopped_bounded (bounded : BackoffBounded s) (startedAt : Nat) (cause : Cause) :
    BackoffBounded (s.childStopped startedAt cause) := by
  cases cause with
  | stop => exact bounded.of_eq (setStatus_backoff "stopped")
  | restart =>
    have reset : BackoffBounded { s with backoffSecs := minBackoff } := minBackoff_bounded
    exact ended_bounded reset startedAt
  | channelClosed => exact bounded
  | shutdown => exact bounded.of_eq (setStatus_backoff "stopped")

theorem waited_bounded (bounded : BackoffBounded s) : BackoffBounded s.waited := by
  rw [waited]
  split
  · exact ended_bounded bounded _
  · exact childStopped_bounded bounded _ _
  · exact childStopped_bounded bounded _ _
  · exact bounded

theorem launch_bounded (bounded : BackoffBounded s) (spawns : Bool) :
    BackoffBounded (s.launch spawns) := by
  rw [launch]
  split
  · exact bounded
  dsimp only
  split
  · exact bounded.of_eq (setStatus_backoff "starting")
  · refine doubled_bounded ?_
    change minBackoff ≤ (s.setStatus "starting").backoffSecs
    rw [setStatus_backoff]
    exact bounded.1

theorem takeCommand_bounded (bounded : BackoffBounded s) (asks : Bool) (command : PluginCommand) :
    BackoffBounded (s.takeCommand asks command) := by
  simp only [takeCommand]
  split
  all_goals first | exact bounded | exact minBackoff_bounded

theorem Leaves.bounded {cause : Cause} {asks : Bool} {s' : Supervisor} (leaves : s.Leaves cause asks s')
    (bounded : BackoffBounded s) : BackoffBounded s' := by
  cases leaves <;> exact bounded

theorem receive_bounded (bounded : BackoffBounded s) (asks : Bool) :
    BackoffBounded (s.receive asks) := by
  rw [receive]
  split
  · exact bounded
  split
  · next rest _ =>
    have taken : BackoffBounded { s with channel := rest } := bounded
    exact takeCommand_bounded taken asks _
  · split
    · exact (takeEnd_leaves s asks).bounded bounded
    · exact bounded

theorem step_bounded (bounded : BackoffBounded s) (event : Event) :
    BackoffBounded (s.step event) := by
  cases event with
  | tick nanos => exact bounded
  | send command => exact bounded
  | closeChannel => exact bounded
  | requestShutdown => exact bounded
  | dropShutdown => exact bounded
  | writeRecord record => exact bounded
  | exits child => exact bounded
  | launch spawns =>
    rw [step]
    split
    · exact launch_bounded bounded spawns
    · exact bounded
  | receive asks => exact receive_bounded bounded asks
  | noticeShutdown asks => exact (noticeShutdown_leaves s asks).bounded bounded
  | reaped =>
    rw [step]
    split
    · exact bounded
    · exact waited_bounded bounded
  | waitFails => exact waited_bounded bounded
  | timeout =>
    rw [step, timeout]
    split
    · exact bounded
    · exact childStopped_bounded bounded _ _
    · exact bounded
    · exact bounded

theorem begin_bounded (entry : PluginProcess) (record : Option PluginRecord) :
    BackoffBounded (begin entry record) := by
  rw [begin]
  dsimp only
  split
  · exact minBackoff_bounded
  · refine BackoffBounded.of_eq ?_ (setStatus_backoff "stopped")
    exact minBackoff_bounded

theorem Resting.of_phase {s' : Supervisor} (resting : s.Resting) (same : s'.phase = s.phase) :
    s'.Resting := by
  rw [Resting, same]
  exact resting

/-- Nobody is listened to once the supervisor has returned. -/
theorem received_returned (returned : s.phase = .returned) (event : Event) :
    s.received event = none := by
  cases event <;> simp [received, listens, returned]

theorem begin_settled (entry : PluginProcess) (record : Option PluginRecord)
    (disabled : (begin entry record).phase = .disabled) : (begin entry record).RecordsStopped := by
  rw [begin] at disabled ⊢
  dsimp only at disabled ⊢
  split at disabled
  · cases disabled
  · next off =>
    rw [if_neg off]
    exact setStatus_recorded "stopped"

end Supervisor

namespace StopWatch
open Supervisor

/-- What a watch in order knows: told to stop, the supervisor rests, and the record of one that has
come to rest says so. -/
structure Minds (w : StopWatch) : Prop where
  resting : w.toldToStop = true → w.supervisor.Resting
  launched : w.toldToStop = true → w.launchedSince = 0
  recorded : w.supervisor.phase = .disabled ∨ w.supervisor.phase = .stopped ∨
    (w.toldToStop = true ∧ w.supervisor.phase = .returned) → w.overwritten = false →
    w.supervisor.RecordsStopped
  bounded : w.supervisor.BackoffBounded

section Step
variable {w : StopWatch} {event : Event}

theorem Minds.stopMeansStopped (minds : Minds w) : StopMeansStopped w where
  launchesNothing := minds.launched
  recorded := by
    intro told held own
    refine minds.recorded ?_ own
    have resting := minds.resting told
    cases phase : w.supervisor.phase with
    | disabled => exact .inl rfl
    | stopped => exact .inr (.inl rfl)
    | returned => exact .inr (.inr ⟨told, rfl⟩)
    | launching | backingOff | running _ _ => simp [Resting, phase] at resting
    | asked _ _ _ | killed _ _ _ => simp [Supervisor.held, phase] at held
  backoff := minds.bounded

theorem told_of_none (none : w.supervisor.received event = none) :
    (w.step event).toldToStop = w.toldToStop := by
  change (w.supervisor.received event).elim w.toldToStop (· == .stop) = _
  rw [none, Option.elim_none]

theorem not_told {command : PluginCommand} (some : w.supervisor.received event = some command)
    (other : command ≠ .stop) : (w.step event).toldToStop = false := by
  change (w.supervisor.received event).elim w.toldToStop (· == .stop) = _
  rw [some, Option.elim_some]
  exact beq_eq_false_iff_ne.mpr other

theorem not_overwritten (own : (w.step event).overwritten = false)
    (notNow : w.comesToRest event = false) :
    w.overwritten = false ∧ ∀ record, event ≠ .writeRecord record := by
  cases event with
  | writeRecord record => cases own
  | _ => exact ⟨by simpa [step, notNow] using own, by simp⟩

/-- Where no process is launched, what was launched since the last command grows no further. -/
theorem launchedSince_step (minds : Minds w)
    (launched : (w.supervisor.step event).nextPid = w.supervisor.nextPid)
    (told : (w.step event).toldToStop = true) : (w.step event).launchedSince = 0 := by
  cases received : w.supervisor.received event with
  | none =>
    rw [told_of_none received] at told
    simp only [step, received, Option.elim_none, launched, Nat.sub_self, minds.launched told]
  | some command => simp only [step, received, Option.elim_some, launched, Nat.sub_self]

theorem minds_step (minds : Minds w) (safe : w.supervisor.swallowsStop event = false) :
    Minds (w.step event) := by
  have bounded : (w.step event).supervisor.BackoffBounded := step_bounded minds.bounded event
  have turn : Turn w.supervisor event (w.step event).supervisor := step_turn w.supervisor event
  cases turn with
  | stays phase launched record received =>
    have notNow : w.comesToRest event = false := by
      have phase : (w.supervisor.step event).phase = w.supervisor.phase := phase
      simp [comesToRest, phase]
    refine ⟨fun told => ?_, launchedSince_step minds launched, fun atRest own => ?_, bounded⟩
    · cases isReceived : w.supervisor.received event with
      | none =>
        rw [told_of_none isReceived] at told
        exact (minds.resting told).of_phase phase
      | some command => exact (received command isReceived).2.of_phase phase
    · obtain ⟨wasOwn, noWrite⟩ := not_overwritten own notNow
      have recorded : w.supervisor.RecordsStopped := by
        refine minds.recorded ?_ wasOwn
        rw [phase] at atRest
        rcases atRest with disabled | stopped | ⟨told, returned⟩
        · exact .inl disabled
        · exact .inr (.inl stopped)
        · rw [told_of_none (received_returned returned event)] at told
          exact .inr (.inr ⟨told, returned⟩)
      rcases record with same | ⟨written, isWrite⟩
      · rw [RecordsStopped, same]
        exact recorded
      · exact absurd isWrite (noWrite written)
  | goesOn received awake running =>
    have notTold : (w.step event).toldToStop = false := by
      cases isReceived : w.supervisor.received event with
      | none =>
        rw [told_of_none isReceived, ← Bool.not_eq_true]
        exact fun told => awake (minds.resting told) isReceived
      | some command => exact not_told isReceived (received command isReceived)
    have impossible : (w.step event).toldToStop ≠ true := by simp [notTold]
    refine ⟨fun told => absurd told impossible, fun told => absurd told impossible, ?_, bounded⟩
    rintro (disabled | stopped | ⟨told, _⟩)
    · exact absurd disabled running.2
    · exact absurd stopped running.1
    · exact absurd told impossible
  | swallows phase received launching => simp [swallowsStop, phase, received] at safe
  | stopping child startedAt received phase launched =>
    refine ⟨fun _ => ?_, launchedSince_step minds launched, ?_, bounded⟩
    · rcases phase with phase | phase <;> simp [Resting, phase]
    · rcases phase with phase | phase <;> simp [phase]
  | stopped received phase notYet launched recorded =>
    refine ⟨fun _ => by simp [Resting, phase], launchedSince_step minds launched, fun _ _ => recorded,
      bounded⟩
  | returns received wasAtRest phase launched record =>
    refine ⟨fun _ => by simp [Resting, phase], launchedSince_step minds launched, fun _ own => ?_,
      bounded⟩
    have notNow : w.comesToRest event = false := by
      have phase : (w.supervisor.step event).phase = .returned := phase
      simp [comesToRest, phase]
    have recorded := minds.recorded (wasAtRest.imp_right .inl) (not_overwritten own notNow).1
    rw [RecordsStopped, record]
    exact recorded

end Step

theorem minds_start (entry : PluginProcess) (record : Option PluginRecord) :
    Minds (start entry record) where
  resting := by simp [start]
  launched := by simp [start]
  recorded := by
    rintro (disabled | stopped | ⟨told, _⟩) _
    · exact begin_settled entry record disabled
    · simp only [start, begin] at stopped
      split at stopped <;> simp at stopped
    · cases told
  bounded := begin_bounded entry record

/-- In every run in which no Stop is taken during a back-off, a supervisor that was told to stop
launches nothing until it is told to start again, and its record says that it is stopped. -/
theorem stop_means_stopped (entry : PluginProcess) (record : Option PluginRecord)
    (events : List Event)
    (safe : Runs.EachStep step (fun w event => w.supervisor.swallowsStop event = false)
      (start entry record) events) :
    Runs.Always step StopMeansStopped (start entry record) events := by
  have always : Runs.Always step Minds (start entry record) events :=
    Runs.invariant Minds (fun w event minds safe => minds_step minds safe)
      (minds_start entry record) safe
  exact always.mono fun w minds => minds.stopMeansStopped

/-! ## A Stop while the Z-Wave plugin runs, and one while it crashes -/

def stoppedWhileRunning : List Event :=
  [.launch true, .send .stop, .receive true, .exits (zwaveChild 0), .reaped, .send .stop,
    .receive true, .send .start, .receive true, .launch true]

theorem zwave_stops_while_running : Runs.Always step StopMeansStopped
    (start zwave (some ⟨"active", 0, none, none⟩)) stoppedWhileRunning := by
  refine stop_means_stopped zwave _ stoppedWhileRunning ?_
  decide

def stoppedDuringBackoff : List Event :=
  [.launch true, .exits (zwaveChild 0), .reaped, .send .stop, .receive true, .launch true]

/-- The Stop only cuts the back-off short, and the plugin is launched again. -/
theorem zwave_launched_after_stop : ¬ Runs.Always step StopMeansStopped
    (start zwave (some ⟨"active", 0, none, none⟩)) stoppedDuringBackoff := by
  intro always
  have none := (Runs.Always.last always).launchesNothing (by decide)
  exact absurd none (by decide)

end StopWatch
end HomeCore.Plugins
