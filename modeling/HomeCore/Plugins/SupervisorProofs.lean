import HomeCore.Plugins.Supervisor

/-! One process of a plugin at a time. The only one that lives is the one whose handle the
supervisor holds, as long as it never lets the handle of a living child go. -/
namespace HomeCore.Plugins.Supervisor
variable {s : Supervisor}

structure OneProcess (s : Supervisor) : Prop where
  atMostOne : s.alive.length ≤ 1
  noneLeft : s.phase = .returned → s.alive = []

/-- The event makes the supervisor let go of a child that lives: it takes a Start while its child
runs, a `wait` fails, or a killed child outlives the grace period. -/
def dropsLiving (s : Supervisor) : Event → Bool
  | .receive _ => s.heldLives && match s.phase with
    | .running _ _ => s.channel.head? == some .start
    | _ => false
  | .waitFails => s.heldLives
  | .timeout => s.heldLives && match s.phase with
    | .killed _ _ _ => true
    | _ => false
  | _ => false

/-- Nothing lives but the child that is held. -/
def OnlyHeld (s : Supervisor) : Prop := s.alive = [] ∨ ∃ child, s.held = some child ∧ s.alive = [child]

theorem OnlyHeld.oneProcess (only : OnlyHeld s) : OneProcess s := by
  rcases only with none | ⟨child, held, one⟩
  · exact ⟨by rw [none]; exact Nat.zero_le 1, fun _ => none⟩
  · refine ⟨by rw [one]; exact Nat.le_refl 1, fun returned => ?_⟩
    rw [Supervisor.held, returned] at held
    cases held

/-- A held child that does not live leaves nothing alive. -/
theorem OnlyHeld.none_alive (only : OnlyHeld s) (gone : s.heldLives = false) : s.alive = [] := by
  rcases only with none | ⟨child, held, one⟩
  · exact none
  · simp [heldLives, held, one] at gone

theorem OnlyHeld.of_none {s' : Supervisor} (none : s.alive = []) (same : s'.alive = s.alive) :
    OnlyHeld s' := .inl (same.trans none)

/-- The handle stays where it is, and no process is begun. -/
theorem OnlyHeld.keep (only : OnlyHeld s) {s' : Supervisor} (held : s'.held = s.held)
    (alive : s'.alive = s.alive) : OnlyHeld s' := by
  unfold OnlyHeld
  rw [held, alive]
  exact only

@[simp] theorem setStatus_alive (status : String) : (s.setStatus status).alive = s.alive := by
  unfold setStatus
  split
  · rfl
  · split <;> rfl

theorem ended_alive (startedAt : Nat) : (s.ended startedAt).alive = s.alive := by
  unfold ended
  exact setStatus_alive "offline"

theorem childStopped_alive (startedAt : Nat) (cause : Cause) :
    (s.childStopped startedAt cause).alive = s.alive := by
  cases cause with
  | stop => exact setStatus_alive "stopped"
  | restart => exact ended_alive startedAt
  | channelClosed => rfl
  | shutdown => exact setStatus_alive "stopped"

theorem waited_alive : s.waited.alive = s.alive := by
  unfold waited
  split
  · exact ended_alive _
  · exact childStopped_alive _ _
  · exact childStopped_alive _ _
  · rfl

theorem killChild_held {child : Child} {startedAt : Nat} (running : s.phase = .running child startedAt)
    (cause : Cause) (asks : Bool) : (s.killChild child startedAt cause asks).held = s.held := by
  unfold killChild held
  rw [running]
  cases asks <;> rfl

/-- Where no child is held, nothing lives, whatever the supervisor turns to next. -/
theorem OnlyHeld.unheld (only : OnlyHeld s) (none : s.held = none) : s.alive = [] := by
  refine only.none_alive ?_
  rw [heldLives, none]
  rfl

theorem launch_onlyHeld (only : OnlyHeld s) (launching : s.phase = .launching) (spawns : Bool) :
    OnlyHeld (s.launch spawns) := by
  have none : s.alive = [] := only.unheld (by rw [held, launching])
  unfold launch
  split
  · exact .of_none none rfl
  dsimp only
  split
  · refine .inr ⟨_, rfl, ?_⟩
    change _ :: ((s.setStatus "starting").recordRestart).alive = _
    rw [recordRestart, setStatus_alive, none]
  · refine .of_none none ?_
    change (((s.setStatus "starting").recordRestart).setStatus "offline").alive = _
    rw [setStatus_alive, recordRestart, setStatus_alive]

theorem takeCommand_onlyHeld (only : OnlyHeld s) (asks : Bool) (command : PluginCommand)
    (safe : s.heldLives = true → ∀ child startedAt, s.phase = .running child startedAt →
      command ≠ .start) : OnlyHeld (s.takeCommand asks command) := by
  unfold takeCommand
  split
  · next disabled => exact .of_none (only.unheld (by rw [held, disabled])) rfl
  · next disabled => exact .of_none (only.unheld (by rw [held, disabled])) rfl
  · next running => exact only.keep (killChild_held running .stop asks) rfl
  · next running => exact only.keep (killChild_held running .restart asks) rfl
  · next child startedAt running =>
    refine .of_none (only.none_alive ?_) rfl
    rw [← Bool.not_eq_true]
    exact fun lives => safe lives child startedAt running rfl
  · next stopped => exact .of_none (only.unheld (by rw [held, stopped])) rfl
  · next stopped => exact .of_none (only.unheld (by rw [held, stopped])) rfl
  · next backingOff => exact .of_none (only.unheld (by rw [held, backingOff])) rfl
  · exact only

/-- With nothing left to wait for it returns, or has its child end first. -/
inductive Leaves (s : Supervisor) (cause : Cause) (asks : Bool) : Supervisor → Prop where
  | returns (resting : s.phase = .disabled ∨ s.phase = .stopped ∨ s.phase = .backingOff) :
      Leaves s cause asks { s with phase := .returned }
  | kills {child startedAt} (running : s.phase = .running child startedAt) :
      Leaves s cause asks (s.killChild child startedAt cause asks)
  | stays : Leaves s cause asks s

theorem takeEnd_leaves (s : Supervisor) (asks : Bool) : s.Leaves .channelClosed asks (s.takeEnd asks) := by
  rw [takeEnd]
  split
  · next disabled => exact .returns (.inl disabled)
  · next stopped => exact .returns (.inr (.inl stopped))
  · next backingOff => exact .returns (.inr (.inr backingOff))
  · next running => exact .kills running
  · exact .stays

theorem noticeShutdown_leaves (s : Supervisor) (asks : Bool) :
    s.Leaves .shutdown asks (s.noticeShutdown asks) := by
  rw [noticeShutdown]
  split
  · exact .stays
  split
  · next disabled => exact .returns (.inl disabled)
  · next stopped => exact .returns (.inr (.inl stopped))
  · next backingOff => exact .returns (.inr (.inr backingOff))
  · next running => exact .kills running
  · exact .stays

theorem Leaves.onlyHeld {cause : Cause} {asks : Bool} {s' : Supervisor} (leaves : s.Leaves cause asks s')
    (only : OnlyHeld s) : OnlyHeld s' := by
  cases leaves with
  | returns resting =>
    refine .of_none (only.unheld ?_) rfl
    rcases resting with phase | phase | phase <;> rw [held, phase]
  | kills running => exact only.keep (killChild_held running cause asks) rfl
  | stays => exact only

theorem receive_onlyHeld (only : OnlyHeld s) (asks : Bool)
    (safe : s.dropsLiving (.receive asks) = false) : OnlyHeld (s.receive asks) := by
  unfold receive
  split
  · exact only
  split
  · next command rest channel =>
    have taken : OnlyHeld { s with channel := rest } := only.keep rfl rfl
    refine takeCommand_onlyHeld taken asks command ?_
    intro lives child startedAt running isStart
    have lives : s.heldLives = true := lives
    have running : s.phase = .running child startedAt := running
    simp [dropsLiving, lives, running, channel, isStart] at safe
  · split
    · exact (takeEnd_leaves s asks).onlyHeld only
    · exact only

theorem timeout_onlyHeld (only : OnlyHeld s) (safe : s.dropsLiving .timeout = false) :
    OnlyHeld s.timeout := by
  unfold timeout
  split
  · next asked => exact only.keep (by rw [held, held, asked]) rfl
  · next killed =>
    refine .of_none (only.none_alive ?_) (childStopped_alive _ _)
    rw [dropsLiving, killed, Bool.and_true] at safe
    exact safe
  · next backingOff => exact .of_none (only.unheld (by rw [held, backingOff])) rfl
  · exact only

theorem step_onlyHeld (only : OnlyHeld s) (event : Event) (safe : s.dropsLiving event = false) :
    OnlyHeld (s.step event) := by
  cases event with
  | tick nanos => exact only.keep rfl rfl
  | send command => exact only.keep rfl rfl
  | closeChannel => exact only.keep rfl rfl
  | requestShutdown => exact only.keep rfl rfl
  | dropShutdown => exact only.keep rfl rfl
  | writeRecord record => exact only.keep rfl rfl
  | exits child =>
    rcases only with none | ⟨held, isHeld, one⟩
    · exact .inl (by simp [step, none])
    · by_cases same : held = child
      · exact .inl (by simp [step, one, same])
      · refine .inr ⟨held, isHeld, ?_⟩
        change s.alive.erase child = [held]
        rw [one, List.erase_cons_tail (by simpa using same), List.erase_nil]
  | launch spawns =>
    simp only [step]
    split
    · next launching => exact launch_onlyHeld only launching spawns
    · exact only
  | receive asks => exact receive_onlyHeld only asks safe
  | noticeShutdown asks => exact (noticeShutdown_leaves s asks).onlyHeld only
  | reaped =>
    simp only [step]
    split
    · exact only
    · next gone => exact .of_none (only.none_alive (by simpa using gone)) waited_alive
  | waitFails => exact .of_none (only.none_alive safe) waited_alive
  | timeout => exact timeout_onlyHeld only safe

/-- One process at a time, and none left behind, in every run in which the supervisor never lets
go of a living child. -/
theorem one_process_at_a_time (entry : PluginProcess) (record : Option PluginRecord)
    (events : List Event)
    (safe : Runs.EachStep step (fun s event => s.dropsLiving event = false) (begin entry record)
      events) : Runs.Always step OneProcess (begin entry record) events := by
  have begun : OnlyHeld (begin entry record) := by
    refine .inl ?_
    unfold begin
    dsimp only
    split
    · rfl
    · exact setStatus_alive "stopped"
  have always : Runs.Always step OnlyHeld (begin entry record) events :=
    Runs.invariant OnlyHeld (fun s event only safe => step_onlyHeld only event safe) begun safe
  exact always.mono fun s only => only.oneProcess

/-! ## The Z-Wave plugin -/

def zwave : PluginProcess := ⟨"plugin.zwave", "hc-zwave", "zwave.toml", true⟩

def zwaveChild (pid : Nat) : Child := ⟨pid, "hc-zwave", "zwave.toml"⟩

/-- It is restarted, does not stop when asked and is killed, and after the back-off it is stopped
for a shutdown. -/
def restartedThenShutDown : List Event :=
  [.launch true, .send .restart, .receive true, .timeout, .exits (zwaveChild 0), .reaped, .timeout,
    .launch true, .requestShutdown, .noticeShutdown true, .exits (zwaveChild 1), .reaped]

theorem zwave_restarted_then_shut_down :
    Runs.Always step OneProcess (begin zwave none) restartedThenShutDown ∧
      (restartedThenShutDown.foldl step (begin zwave none)).phase = .returned := by
  refine ⟨one_process_at_a_time zwave none restartedThenShutDown ?_, ?_⟩
  all_goals decide

/-- A Start comes while the plugin runs. -/
def startedTwice : List Event := [.launch true, .send .start, .receive true, .launch true]

theorem zwave_runs_twice : ¬ Runs.Always step OneProcess (begin zwave none) startedTwice := by
  intro always
  have one := (Runs.Always.last always).atMostOne
  exact absurd one (by decide)

end HomeCore.Plugins.Supervisor
