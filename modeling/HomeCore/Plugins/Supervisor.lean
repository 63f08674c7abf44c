import HomeCore.Runs

/-! The supervisor of one plugin's process, one await at a time: commands wait in its channel,
the process may end whenever it will, and the operating system answers a `wait` or lets a grace
period pass. -/
namespace HomeCore.Plugins

def minBackoff : Nat := 2

def maxBackoff : Nat := 60

/-- In nanoseconds, as the clock is. A run at least this long is a healthy one. -/
def healthyUptime : Nat := 60 * 1000000000

inductive PluginCommand where
  | start
  | stop
  | restart
  deriving DecidableEq

/-- A resolved plugin entry ready for launching. -/
structure PluginProcess where
  id : String
  binary : String
  config : String
  enabled : Bool

/-- What the supervisor reads and writes of the plugin's record. -/
structure PluginRecord where
  status : String
  restartCount : Nat
  binaryPath : Option String
  configPath : Option String
  deriving DecidableEq

/-- A `PluginStatusChanged` event; going offline is announced as `PluginOffline` too. -/
structure StatusChanged where
  status : String
  previousStatus : String
  deriving DecidableEq

structure Child where
  pid : Nat
  binary : String
  config : String
  deriving DecidableEq

/-- Why a child is being stopped, which decides what follows. -/
inductive Cause where
  | stop
  | restart
  | channelClosed
  | shutdown
  deriving DecidableEq

/-- Where the supervisor is: the await it stands at, and the child whose handle it holds. -/
inductive Phase where
  /-- Not enabled: waits for a first Start. -/
  | disabled
  /-- At the top of its loop. -/
  | launching
  | running (child : Child) (startedAt : Nat)
  /-- Asked to stop with SIGTERM, with the grace period running. -/
  | asked (child : Child) (startedAt : Nat) (cause : Cause)
  /-- Sent SIGKILL, with another grace period running. -/
  | killed (child : Child) (startedAt : Nat) (cause : Cause)
  | stopped
  | backingOff
  | returned
  deriving DecidableEq

structure Supervisor where
  entry : PluginProcess
  now : Nat
  phase : Phase
  backoffSecs : Nat
  channel : List PluginCommand
  /-- Every sender of the channel is gone. -/
  channelClosed : Bool
  shutdown : Bool
  /-- The sender of the shutdown signal is gone. -/
  shutdownDropped : Bool
  record : Option PluginRecord
  published : List StatusChanged
  nextPid : Nat
  /-- The plugin's processes that live, whether or not the supervisor still has their handle. -/
  alive : List Child

inductive Event where
  | tick (nanos : Nat)
  | send (command : PluginCommand)
  | closeChannel
  | requestShutdown
  | dropShutdown
  /-- Something else changes the plugin's record. -/
  | writeRecord (record : Option PluginRecord)
  /-- A process of the plugin ends, by itself or by a signal. -/
  | exits (child : Child)
  /-- The top of the loop: the process is spawned, or fails to. -/
  | launch (spawns : Bool)
  /-- A command is taken from the channel, or its end is noticed. Where the child is to be
  stopped for it, SIGTERM can be sent to it or not. -/
  | receive (asks : Bool)
  | noticeShutdown (asks : Bool)
  /-- `wait` answers: the child has ended, or the call failed. -/
  | reaped
  | waitFails
  /-- The grace period of a stop, or the back-off, has passed. -/
  | timeout
  deriving DecidableEq

namespace Supervisor

def setStatus (s : Supervisor) (status : String) : Supervisor :=
  match s.record with
  | none => s
  | some record =>
    if record.status = status then s
    else { s with
      record := some { record with status }
      published := s.published ++ [⟨status, record.status⟩] }

def recordRestart (s : Supervisor) : Supervisor :=
  { s with record := s.record.map fun record =>
      { record with restartCount := record.restartCount + 1 } }

/-- An upgrade rewrites the record, and the next launch is of what it says. -/
def nextChild (s : Supervisor) : Child where
  pid := s.nextPid
  binary := (s.record.bind (·.binaryPath)).getD s.entry.binary
  config := (s.record.bind (·.configPath)).getD s.entry.config

def doubled (backoffSecs : Nat) : Nat := min (backoffSecs * 2) maxBackoff

/-- One turn of the loop up to its first await. -/
def launch (s : Supervisor) (spawns : Bool) : Supervisor :=
  if s.shutdown then { s with phase := .returned }
  else
    let s := (s.setStatus "starting").recordRestart
    if spawns then { s with
      phase := .running s.nextChild s.now
      nextPid := s.nextPid + 1
      alive := s.nextChild :: s.alive }
    else { s.setStatus "offline" with
      backoffSecs := doubled s.backoffSecs
      phase := .backingOff }

/-- The process ended, as far as the supervisor knows: it is launched again after the back-off. -/
def ended (s : Supervisor) (startedAt : Nat) : Supervisor :=
  { s.setStatus "offline" with
    backoffSecs := if healthyUptime ≤ s.now - startedAt then minBackoff else doubled s.backoffSecs
    phase := .backingOff }

/-- `kill_child` begins: the child is asked first, and killed at once where it cannot be. -/
def killChild (s : Supervisor) (child : Child) (startedAt : Nat) (cause : Cause) (asks : Bool) :
    Supervisor :=
  { s with phase := if asks then .asked child startedAt cause else .killed child startedAt cause }

/-- `kill_child` is done. -/
def childStopped (s : Supervisor) (startedAt : Nat) : Cause → Supervisor
  | .stop => { s.setStatus "stopped" with phase := .stopped }
  | .restart => { s with backoffSecs := minBackoff }.ended startedAt
  | .channelClosed => { s with phase := .returned }
  | .shutdown => { s.setStatus "stopped" with phase := .returned }

def takeCommand (s : Supervisor) (asks : Bool) (command : PluginCommand) : Supervisor :=
  match s.phase, command with
  | .disabled, .start | .disabled, .restart => { s with phase := .launching }
  | .running child startedAt, .stop => s.killChild child startedAt .stop asks
  | .running child startedAt, .restart => s.killChild child startedAt .restart asks
  -- Already running: the loop goes round, and the child's handle is dropped with it.
  | .running _ _, .start => { s with phase := .launching }
  | .stopped, .start | .stopped, .restart =>
    { s with phase := .launching, backoffSecs := minBackoff }
  -- A Stop ends the back-off like any other command.
  | .backingOff, _ => { s with phase := .launching }
  | _, _ => s

/-- The channel has no command and no sender any more. -/
def takeEnd (s : Supervisor) (asks : Bool) : Supervisor :=
  match s.phase with
  | .disabled | .stopped | .backingOff => { s with phase := .returned }
  | .running child startedAt => s.killChild child startedAt .channelClosed asks
  | _ => s

/-- Whether it waits for commands where it is. -/
def listens (s : Supervisor) : Bool :=
  match s.phase with
  | .disabled | .running _ _ | .stopped | .backingOff => true
  | _ => false

def receive (s : Supervisor) (asks : Bool) : Supervisor :=
  if !s.listens then s
  else match s.channel with
    | command :: rest => { s with channel := rest }.takeCommand asks command
    | [] => if s.channelClosed then s.takeEnd asks else s

def noticeShutdown (s : Supervisor) (asks : Bool) : Supervisor :=
  if !(s.shutdown || s.shutdownDropped) then s
  else match s.phase with
    | .disabled | .stopped | .backingOff => { s with phase := .returned }
    | .running child startedAt => s.killChild child startedAt .shutdown asks
    | _ => s

/-- `wait` answers, rightly or not. -/
def waited (s : Supervisor) : Supervisor :=
  match s.phase with
  | .running _ startedAt => s.ended startedAt
  | .asked _ startedAt cause | .killed _ startedAt cause => s.childStopped startedAt cause
  | _ => s

def timeout (s : Supervisor) : Supervisor :=
  match s.phase with
  | .asked child startedAt cause => { s with phase := .killed child startedAt cause }
  | .killed _ startedAt cause => s.childStopped startedAt cause
  | .backingOff => { s with phase := .launching }
  | _ => s

/-- The child whose handle the supervisor holds. -/
def held (s : Supervisor) : Option Child :=
  match s.phase with
  | .running child _ | .asked child _ _ | .killed child _ _ => some child
  | _ => none

def heldLives (s : Supervisor) : Bool := s.held.any (· ∈ s.alive)

def step (s : Supervisor) : Event → Supervisor
  | .tick nanos => { s with now := s.now + nanos }
  | .send command => { s with channel := s.channel ++ [command] }
  | .closeChannel => { s with channelClosed := true }
  | .requestShutdown => { s with shutdown := true }
  | .dropShutdown => { s with shutdownDropped := true }
  | .writeRecord record => { s with record }
  | .exits child => { s with alive := s.alive.erase child }
  | .launch spawns => if s.phase = .launching then s.launch spawns else s
  | .receive asks => s.receive asks
  | .noticeShutdown asks => s.noticeShutdown asks
  -- `wait` does not answer that a living child has ended.
  | .reaped => if s.heldLives then s else s.waited
  | .waitFails => s.waited
  | .timeout => s.timeout

def begin (entry : PluginProcess) (record : Option PluginRecord) : Supervisor :=
  let s : Supervisor :=
    { entry, now := 0, phase := .launching, backoffSecs := minBackoff, channel := [],
      channelClosed := false, shutdown := false, shutdownDropped := false, record,
      published := [], nextPid := 0, alive := [] }
  if entry.enabled then s else { s.setStatus "stopped" with phase := .disabled }

end Supervisor
end HomeCore.Plugins
