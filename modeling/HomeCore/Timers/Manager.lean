import HomeCore.Types.Device
import HomeCore.Runs

/-! The timer manager and the countdown tasks it spawns, for one timer: timers share
nothing but the maps they are keyed in. A command is handled in steps, one for each
await, and a task that expires takes its own steps between them. -/
namespace HomeCore

inductive TimerStatus where
  | idle
  | running
  | paused
  | cancelled
  | finished
  deriving DecidableEq

/-- The attributes of a timer that the manager reads or writes, none where one is
missing or of another type. -/
structure TimerRecord where
  status : Option TimerStatus
  startedAt : Option DateTime
  durationSecs : Option Nat
  remainingSecs : Option Nat
  defaultSecs : Option Nat
  repeats : Option Bool
  label : Option String
  deriving DecidableEq

inductive TimerCommand where
  | start (durationSecs : Option Nat) (label : Option String) (repeats : Option Bool)
  | pause
  | resume
  | cancel
  | restart
  | extend (durationSecs : Nat)
  deriving DecidableEq

/-- Attributes to merge over those of a record. -/
structure TimerExtra where
  startedAt : Option DateTime := none
  durationSecs : Option Nat := none
  remainingSecs : Option Nat := none
  defaultSecs : Option Nat := none
  repeats : Option Bool := none
  label : Option String := none
  deriving DecidableEq

structure TimerSpawn where
  remainingSecs : Nat
  durationSecs : Nat
  repeats : Bool
  deriving DecidableEq

/-- What a command comes to once it has read what it needs. A countdown is spawned
only for a timer that is set running. -/
structure TimerPlan where
  cancels : Bool
  status : TimerStatus
  extra : TimerExtra
  spawns : Option TimerSpawn
  spawnsRunning : spawns.isSome = true → status = .running

namespace TimerRecord

/-- The effect of `set_state`. -/
def withState (record : TimerRecord) (now : DateTime) (status : TimerStatus) (extra : TimerExtra) :
    TimerRecord where
  status := some status
  startedAt := extra.startedAt.or (if status = .running then some now else record.startedAt)
  durationSecs := extra.durationSecs.or record.durationSecs
  remainingSecs := extra.remainingSecs.or record.remainingSecs
  defaultSecs := extra.defaultSecs.or record.defaultSecs
  repeats := extra.repeats.or record.repeats
  label := extra.label.or record.label

def fired (record : TimerRecord) : TimerRecord :=
  { record with status := some .finished, remainingSecs := some 0 }

/-- A cycle someone extended is over: the next is the usual length. -/
def repeated (record : TimerRecord) (now : DateTime) (durationSecs : Nat) : TimerRecord :=
  { record with
    status := some .running
    startedAt := some now
    remainingSecs := some durationSecs
    durationSecs := some durationSecs }

/-- The whole seconds since `started`. -/
def elapsed (now started : DateTime) : Nat := ((now - started).tdiv second).toNat

def computeRemaining (record : TimerRecord) (now : DateTime) : Nat :=
  match record.startedAt with
  | some started => record.durationSecs.getD 0 - elapsed now started
  | none => record.durationSecs.getD 0

end TimerRecord

/-- A sum of 64-bit counts of seconds. -/
def addSecs (a b : Nat) : Nat := (a + b) % 2 ^ 64

namespace TimerPlan

def rests (cancels : Bool) (status : TimerStatus) (extra : TimerExtra) : TimerPlan where
  cancels := cancels
  status := status
  extra := extra
  spawns := none
  spawnsRunning := nofun

def runs (cancels : Bool) (extra : TimerExtra) (spawn : TimerSpawn) : TimerPlan where
  cancels := cancels
  status := .running
  extra := extra
  spawns := some spawn
  spawnsRunning _ := rfl

end TimerPlan

/-- What `handle_cmd` decides from the record, and from the usual length that the
registered task was spawned with; none where it returns at once. -/
def TimerCommand.plan (now : DateTime) (record : Option TimerRecord) (usual : Option Nat) :
    TimerCommand → Option TimerPlan
  | .start durationSecs label repeats =>
    let ownSecs := record.bind fun r => r.defaultSecs.or r.durationSecs
    match (durationSecs.or ownSecs).filter (0 < ·) with
    | none => none
    | some secs =>
      let repeats := (repeats.or (record.bind (·.repeats))).getD false
      some (.runs true
        { durationSecs := some secs
          remainingSecs := some secs
          repeats := some repeats
          defaultSecs := ownSecs
          label := label }
        ⟨secs, secs, repeats⟩)
  | .pause =>
    if usual.isNone then none
    else
      let remaining := (record.map (·.computeRemaining now)).getD 0
      some (.rests true .paused { remainingSecs := some remaining })
  | .resume => match record with
    | none => none
    | some r =>
      if r.status ≠ some .paused then none
      else
        let remaining := r.remainingSecs.getD 0
        let duration := r.durationSecs.getD remaining
        if 0 < remaining then
          let ran := duration - remaining
          some (.runs false
            { startedAt := some (now - ran * second)
              remainingSecs := some remaining }
            ⟨remaining, duration, r.repeats.getD false⟩)
        else some (.rests false .finished {})
  | .extend more => match record with
    | none => none
    | some r =>
      let duration := r.durationSecs.getD 0
      match r.status with
      | some .running =>
        let left := addSecs (r.computeRemaining now) more
        some (.runs true
          { durationSecs := some (addSecs duration more)
            remainingSecs := some left
            startedAt := r.startedAt }
          ⟨left, usual.getD duration, r.repeats.getD false⟩)
      | some .paused =>
        some (.rests false .paused
          { durationSecs := some (addSecs duration more)
            remainingSecs := some (addSecs (r.remainingSecs.getD 0) more) })
      | _ => none
  | .cancel => some (.rests true .cancelled {})
  | .restart =>
    match usual.or (record.map fun r => r.durationSecs.getD 0) with
    | none => none
    | some secs =>
      if secs = 0 then none
      else some (.runs true { remainingSecs := some secs }
        ⟨secs, secs, (record.bind (·.repeats)).getD false⟩)

/-! ## Tasks -/

/-- Where a countdown task is. A step that reads the record and the one that writes
it back are apart. -/
inductive TimerPhase where
  | sleeping (wakeAt : DateTime)
  | firing
  | fireWrites (seen : Option TimerRecord)
  | resetting
  | resetWrites (seen : Option TimerRecord)
  | removing
  | ended
  deriving DecidableEq

structure TimerTask where
  durationSecs : Nat
  repeats : Bool
  /-- Its channel holds a cancel. -/
  told : Bool
  /-- Its channel has no sender any more. -/
  closed : Bool
  phase : TimerPhase
  deriving DecidableEq

/-- Its sleep is over and its work is not. -/
def TimerTask.expiring (task : TimerTask) : Bool :=
  match task.phase with
  | .sleeping _ => false
  | .ended => false
  | _ => true

/-- Once it listens to its channel it ends. -/
def TimerTask.cut (task : TimerTask) : Bool := task.told || task.closed

def TimerTask.cutOff (task : TimerTask) (cancels : Bool) : TimerTask :=
  { task with told := task.told || cancels, closed := true }

def TimerTask.alive (task : TimerTask) : Bool := task.phase ≠ .ended && !task.cut

/-- The next step of the command in hand. -/
inductive TimerStage where
  | cancelTask (plan : TimerPlan)
  | readState (plan : TimerPlan)
  | writeState (plan : TimerPlan) (seen : Option TimerRecord)
  | spawnTask (spawn : TimerSpawn)
  | register (task : Nat)

structure TimerSystem where
  now : DateTime
  /-- None where the store has no such device. -/
  record : Option TimerRecord
  tasks : Nat → Option TimerTask
  /-- How many tasks have been spawned. -/
  spawned : Nat
  /-- The task whose handle is in the map. -/
  handle : Option Nat
  command : Option (TimerCommand × TimerStage)
  /-- The last command that was handled to its end. -/
  processed : Option TimerCommand

inductive TimerInput where
  | tick (nanos : Nat)
  /-- The manager takes the next command and reads what it needs. -/
  | receive (command : TimerCommand)
  /-- The command in hand goes on. -/
  | proceed
  /-- A task goes on, or wakes when its time is up. -/
  | work (task : Nat)
  /-- A task takes the cancel, or finds its channel closed, and ends. -/
  | stop (task : Nat)
  deriving DecidableEq

namespace TimerSystem

def setTask (timer : TimerSystem) (id : Nat) (task : TimerTask) : TimerSystem :=
  { timer with tasks := fun other => if other = id then some task else timer.tasks other }

/-- The record is written back as it was seen, edited; one that was not found is not
written. -/
def writeBack (timer : TimerSystem) (seen : Option TimerRecord) (edit : TimerRecord → TimerRecord) :
    TimerSystem :=
  { timer with record := (seen.map edit).or timer.record }

/-- The handle leaves the map and its sender goes with it, after a cancel where one
is sent. -/
def dropHandle (timer : TimerSystem) (cancels : Bool) : TimerSystem :=
  match timer.handle with
  | none => timer
  | some id =>
    { timer with
      handle := none
      tasks := fun other =>
        if other = id then (timer.tasks id).map (·.cutOff cancels) else timer.tasks other }

/-- The usual length the registered task was spawned with. -/
def usual (timer : TimerSystem) : Option Nat :=
  (timer.handle.bind timer.tasks).map (·.durationSecs)

def receive (timer : TimerSystem) (command : TimerCommand) : TimerSystem :=
  match timer.command with
  | some _ => timer
  | none => match command.plan timer.now timer.record timer.usual with
    | none => { timer with processed := some command }
    | some plan =>
      { timer with
        command := some (command, if plan.cancels then .cancelTask plan else .readState plan) }

def finish (timer : TimerSystem) (command : TimerCommand) : TimerSystem :=
  { timer with command := none, processed := some command }

def proceed (timer : TimerSystem) : TimerSystem :=
  match timer.command with
  | none => timer
  | some (command, .cancelTask plan) =>
    { timer.dropHandle true with command := some (command, .readState plan) }
  | some (command, .readState plan) =>
    { timer with command := some (command, .writeState plan timer.record) }
  | some (command, .writeState plan seen) =>
    let written := timer.writeBack seen (·.withState timer.now plan.status plan.extra)
    match plan.spawns with
    | none => written.finish command
    | some spawn => { written with command := some (command, .spawnTask spawn) }
  | some (command, .spawnTask spawn) =>
    { timer.setTask timer.spawned
        { durationSecs := spawn.durationSecs
          repeats := spawn.repeats
          told := false
          closed := false
          phase := .sleeping (timer.now + spawn.remainingSecs * second) } with
      spawned := timer.spawned + 1
      command := some (command, .register timer.spawned) }
  | some (command, .register id) => { timer.dropHandle false with handle := some id }.finish command

def work (timer : TimerSystem) (id : Nat) : TimerSystem :=
  match timer.tasks id with
  | none => timer
  | some task => match task.phase with
    | .sleeping wakeAt =>
      -- a cancel may wait in the channel: of two ready branches either may be taken
      if wakeAt ≤ timer.now then timer.setTask id { task with phase := .firing } else timer
    | .firing => timer.setTask id { task with phase := .fireWrites timer.record }
    | .fireWrites seen =>
      (timer.writeBack seen (·.fired)).setTask id
        { task with phase := if task.repeats then .resetting else .removing }
    | .resetting => timer.setTask id { task with phase := .resetWrites timer.record }
    | .resetWrites seen =>
      (timer.writeBack seen (·.repeated timer.now task.durationSecs)).setTask id
        { task with phase := .sleeping (timer.now + task.durationSecs * second) }
    | .removing => (timer.dropHandle false).setTask id { task with phase := .ended }
    | .ended => timer

def stop (timer : TimerSystem) (id : Nat) : TimerSystem :=
  match timer.tasks id with
  | none => timer
  | some task => match task.phase with
    | .sleeping _ => if task.cut then timer.setTask id { task with phase := .ended } else timer
    | _ => timer

def step (timer : TimerSystem) : TimerInput → TimerSystem
  | .tick nanos => { timer with now := timer.now + nanos }
  | .receive command => timer.receive command
  | .proceed => timer.proceed
  | .work id => timer.work id
  | .stop id => timer.stop id

def start (now : DateTime) (record : Option TimerRecord) : TimerSystem where
  now := now
  record := record
  tasks _ := none
  spawned := 0
  handle := none
  command := none
  processed := none

/-- One command handled with nothing in between: five steps are as many as one has. -/
def handleCmd (timer : TimerSystem) (command : TimerCommand) : TimerSystem :=
  (timer.receive command).proceed.proceed.proceed.proceed.proceed

/-- A countdown ends with nothing in between: because its time is up, or because its
channel says so. -/
def expire (timer : TimerSystem) (id : Nat) : TimerSystem :=
  if (timer.tasks id).any (·.cut) then timer.stop id
  else ((((timer.work id).work id).work id).work id).work id

end TimerSystem

/-- What happens to a timer whose commands and expiries each run to their end. -/
inductive TimerEvent where
  | tick (nanos : Nat)
  | command (command : TimerCommand)
  | expire (task : Nat)
  deriving DecidableEq

namespace TimerSystem

def react (timer : TimerSystem) : TimerEvent → TimerSystem
  | .tick nanos => { timer with now := timer.now + nanos }
  | .command command => timer.handleCmd command
  | .expire id => timer.expire id

/-- The record and the tasks agree: a timer recorded as running has a countdown that
wakes when the record says, late by at most `slack`, and one recorded as at rest has
none. -/
structure Agrees (slack : Int) (timer : TimerSystem) : Prop where
  running : ∀ record ∈ timer.record, record.status = some .running →
    ∃ id task wakeAt started duration, timer.tasks id = some task ∧ task.alive = true ∧
      task.phase = .sleeping wakeAt ∧ record.startedAt = some started ∧
      record.durationSecs = some duration ∧ started + duration * second ≤ wakeAt ∧
      wakeAt ≤ started + duration * second + slack
  resting : ∀ record ∈ timer.record,
    record.status ∈ [some .idle, some .paused, some .cancelled, some .finished] →
    ∀ id task, timer.tasks id = some task → task.alive = false

/-- A restart finds the record as long as the countdown it replaces, and an extension
finds a sum that fits and a time that is not up and is a whole number of seconds past
the start, but for `slack`. -/
def kept (slack : Int) (timer : TimerSystem) : TimerEvent → Bool
  | .command .restart => match timer.usual, timer.record with
    | some usual, some record => record.durationSecs == some usual
    | _, _ => true
  | .command (.extend more) => timer.record.all fun record =>
    let duration := record.durationSecs.getD 0
    match record.status with
    | some .running => duration + more < 2 ^ 64 && record.startedAt.all fun started =>
        TimerRecord.elapsed timer.now started ≤ duration && (timer.now - started) % second ≤ slack
    | some .paused => duration + more < 2 ^ 64
    | _ => true
  | _ => true

/-! ## Commands against expiries -/

/-- After a cancel the timer stays cancelled until the next command, and a countdown
keeps its handle from when its command is handled until it ends or a command cancels it. -/
structure CommandsWin (timer : TimerSystem) : Prop where
  cancelled : timer.command = none → timer.processed = some .cancel →
    ∀ record ∈ timer.record, record.status = some .cancelled
  registered : ∀ id task, timer.tasks id = some task → task.phase ≠ .ended →
    task.told = false → (∀ command, timer.command ≠ some (command, .register id)) →
    timer.handle = some id

/-- No command takes the handle of a countdown that is expiring, and a countdown that
was sent a cancel takes it before its time is up. -/
def clear (timer : TimerSystem) : TimerInput → Bool
  | .proceed => match timer.command with
    | some (_, .cancelTask _) => (timer.handle.bind timer.tasks).all (!·.expiring)
    | _ => true
  | .work id => (timer.tasks id).all fun task => match task.phase with
    | .sleeping wakeAt => !task.told || timer.now < wakeAt
    | _ => true
  | _ => true

end TimerSystem
end HomeCore
