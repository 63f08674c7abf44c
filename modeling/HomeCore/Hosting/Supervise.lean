import HomeCore.Hysteresis
import HomeCore.Runs

/-! The supervisor of one plugin in a runtime, one await at a time: it launches the plugin again and
again, waits longer after each short run, and reports when the plugin starts or stops crash-looping. -/
namespace HomeCore.Hosting

def minBackoff : Nat := 2

def maxBackoff : Nat := 60

/-- In nanoseconds, as the clock is. A run at least this long is a healthy one. -/
def healthyUptime : Nat := 60 * 1000000000

/-- How many short runs in a row are a crash loop. -/
def crashLoopThreshold : Nat := 3

def doubled (backoff : Nat) : Nat := min (backoff * 2) maxBackoff

/-- Next backoff after a process exits. -/
def nextBackoff (current uptime : Nat) : Nat :=
  if healthyUptime ≤ uptime then minBackoff else doubled current

/-- Where the supervisor stands. -/
inductive Post where
  /-- At the top of its loop. -/
  | launching
  | running (startedAt : Nat)
  /-- Told to stop, with a child that is given time to exit. -/
  | stopping
  /-- Sleeping, and then with the backoff doubled or as it is. -/
  | waiting (doubles : Bool)
  | finished
  deriving DecidableEq

/-- How an attempt at running the plugin went. -/
inductive Attempt where
  | unspawned
  | ran (uptime : Nat)
  deriving DecidableEq

def Attempt.isShort : Attempt → Bool
  | .unspawned => true
  | .ran uptime => decide (uptime < healthyUptime)

structure Supervisor where
  now : Nat
  post : Post
  backoff : Nat
  consecutiveFailures : Nat
  reported : Bool
  shutdown : Bool
  /-- What `on_crash_loop` was called with. -/
  reports : List Bool
  /-- The attempts that have ended, the last one first, which no step reads. -/
  attempts : List Attempt
  /-- The lengths of the sleeps, the last one first. -/
  slept : List Nat

inductive SupervisorEvent where
  | tick (nanos : Nat)
  | requestShutdown
  /-- The top of the loop: the process is spawned, or fails to. -/
  | launch (spawns : Bool)
  | exits
  | noticeShutdown
  /-- The child is gone, or the time it was given is over. -/
  | stopped
  /-- The sleep is over. -/
  | wakes
  deriving DecidableEq

namespace Supervisor

def start (now : Nat) : Supervisor := ⟨now, .launching, minBackoff, 0, false, false, [], [], []⟩

/-- A short run more, reported once there are enough of them. -/
def countFailure (s : Supervisor) : Supervisor :=
  let failures := s.consecutiveFailures + 1
  if crashLoopThreshold ≤ failures && !s.reported then
    { s with consecutiveFailures := failures, reported := true, reports := s.reports ++ [true] }
  else { s with consecutiveFailures := failures }

/-- A healthy run ends a crash loop. -/
def recover (s : Supervisor) : Supervisor :=
  if s.reported then
    { s with consecutiveFailures := 0, reported := false, reports := s.reports ++ [false] }
  else { s with consecutiveFailures := 0 }

/-- What follows an attempt that could not even spawn. -/
def spawnFailed (s : Supervisor) : Supervisor :=
  let s := s.countFailure
  { s with post := .waiting true, attempts := .unspawned :: s.attempts, slept := s.backoff :: s.slept }

def exited (s : Supervisor) (uptime : Nat) : Supervisor :=
  let s := if healthyUptime ≤ uptime then s.recover else s.countFailure
  let backoff := nextBackoff s.backoff uptime
  { s with backoff, post := .waiting false, attempts := .ran uptime :: s.attempts, slept := backoff :: s.slept }

def step (s : Supervisor) : SupervisorEvent → Supervisor
  | .tick nanos => { s with now := s.now + nanos }
  | .requestShutdown => { s with shutdown := true }
  | .launch spawns => match s.post with
    | .launching =>
      if s.shutdown then { s with post := .finished }
      else if spawns then { s with post := .running s.now }
      else s.spawnFailed
    | _ => s
  | .exits => match s.post with
    | .running startedAt => s.exited (s.now - startedAt)
    | _ => s
  | .noticeShutdown =>
    if s.shutdown then match s.post with
      | .running _ => { s with post := .stopping }
      | .waiting _ => { s with post := .finished }
      | _ => s
    else s
  | .stopped => match s.post with
    | .stopping => { s with post := .finished }
    | _ => s
  | .wakes => match s.post with
    | .waiting doubles =>
      { s with post := .launching, backoff := if doubles then doubled s.backoff else s.backoff }
    | _ => s

/-! ## What the attempts make of the waits and of the reports -/

/-- Short attempts since the last healthy run. -/
def streak : List Attempt → Nat
  | [] => 0
  | attempt :: earlier => if attempt.isShort then streak earlier + 1 else 0

def backoffAfter (failures : Nat) : Nat := min (2 ^ (failures + 1)) maxBackoff

/-- How long the supervisor waits after each attempt, in view of the attempts before it. -/
def waitsAfter : List Attempt → List Nat
  | [] => []
  | .unspawned :: earlier => backoffAfter (streak earlier) :: waitsAfter earlier
  | .ran uptime :: earlier => backoffAfter (streak (.ran uptime :: earlier)) :: waitsAfter earlier

theorem streak_short {uptime : Nat} {earlier : List Attempt} (short : ¬ healthyUptime ≤ uptime) :
    streak (.ran uptime :: earlier) = streak earlier + 1 := by
  simp [streak, Attempt.isShort, Nat.lt_of_not_le short]

theorem streak_healthy {uptime : Nat} {earlier : List Attempt} (healthy : healthyUptime ≤ uptime) :
    streak (.ran uptime :: earlier) = 0 := by
  simp [streak, Attempt.isShort, Nat.not_lt.mpr healthy]

theorem doubled_backoffAfter (failures : Nat) : doubled (backoffAfter failures) = backoffAfter (failures + 1) := by
  have power : 2 ^ (failures + 1 + 1) = 2 ^ (failures + 1) * 2 := Nat.pow_succ 2 (failures + 1)
  simp only [doubled, backoffAfter, power]
  generalize 2 ^ (failures + 1) = waited
  simp only [maxBackoff]
  omega

/-- The notice stands exactly while the attempts are a crash loop, and the backoff counts them. -/
structure Counted (s : Supervisor) : Prop where
  logged : Hysteresis.Logged true s.reports s.reported
  failures : s.consecutiveFailures = streak s.attempts
  reported : s.reported = decide (crashLoopThreshold ≤ streak s.attempts)
  waits : s.slept = waitsAfter s.attempts

/-- The backoff counts the failures; after a failure to spawn it is one doubling behind until the sleep
is over, and once the supervisor ends nothing reads it. -/
def BackoffCounts (s : Supervisor) : Prop :=
  match s.post with
  | .waiting true => doubled s.backoff = backoffAfter s.consecutiveFailures
  | .stopping => True
  | .finished => True
  | _ => s.backoff = backoffAfter s.consecutiveFailures

theorem start_counted (now : Nat) : (start now).Counted where
  logged := .nil
  failures := rfl
  reported := rfl
  waits := rfl

variable {s : Supervisor}

/-- A failure counted, as it is seen from outside. -/
theorem countFailure_eq (failures : s.consecutiveFailures = streak s.attempts)
    (reported : s.reported = decide (crashLoopThreshold ≤ streak s.attempts))
    (logged : Hysteresis.Logged true s.reports s.reported) : ∃ reports,
    s.countFailure = { s with
      consecutiveFailures := streak s.attempts + 1
      reported := decide (crashLoopThreshold ≤ streak s.attempts + 1)
      reports } ∧
    Hysteresis.Logged true reports (decide (crashLoopThreshold ≤ streak s.attempts + 1)) := by
  obtain ⟨now, post, backoff, _, stands, shutdown, log, attempts, slept⟩ := s
  dsimp only at failures reported logged ⊢
  subst failures
  simp only [countFailure]
  cases stands with
  | true =>
    have already : crashLoopThreshold ≤ streak attempts := of_decide_eq_true reported.symm
    have still : decide (crashLoopThreshold ≤ streak attempts + 1) = true := decide_eq_true (by omega)
    simp only [still, Bool.not_true, Bool.and_false, Bool.false_eq_true, if_false]
    exact ⟨log, rfl, logged⟩
  | false =>
    by_cases many : crashLoopThreshold ≤ streak attempts + 1
    · simp only [many, decide_true, Bool.not_false, Bool.and_true, if_true]
      exact ⟨log ++ [true], rfl, logged.switchOn⟩
    · simp only [many, decide_false, Bool.not_false, Bool.and_true, Bool.false_eq_true, if_false]
      exact ⟨log, rfl, logged⟩

theorem recover_eq (logged : Hysteresis.Logged true s.reports s.reported) : ∃ reports,
    s.recover = { s with consecutiveFailures := 0, reported := false, reports } ∧
    Hysteresis.Logged true reports false := by
  obtain ⟨now, post, backoff, failures, stands, shutdown, log, attempts, slept⟩ := s
  dsimp only at logged ⊢
  simp only [recover]
  cases stands with
  | true => exact ⟨log ++ [false], rfl, logged.switchOff (by decide)⟩
  | false => exact ⟨log, rfl, logged⟩

theorem spawnFailed_counted (counted : s.Counted) (backoff : s.backoff = backoffAfter s.consecutiveFailures) :
    s.spawnFailed.Counted ∧ s.spawnFailed.BackoffCounts := by
  obtain ⟨reports, same, logged⟩ := countFailure_eq counted.failures counted.reported counted.logged
  rw [spawnFailed, same]
  refine ⟨⟨logged, rfl, rfl, ?_⟩, ?_⟩
  · simp only [waitsAfter, backoff, counted.failures, counted.waits]
  · simp only [BackoffCounts, backoff, counted.failures, doubled_backoffAfter]

theorem exited_counted (counted : s.Counted) (backoff : s.backoff = backoffAfter s.consecutiveFailures)
    (uptime : Nat) : (s.exited uptime).Counted ∧ (s.exited uptime).BackoffCounts := by
  rw [exited]
  by_cases healthy : healthyUptime ≤ uptime
  · obtain ⟨reports, same, logged⟩ := recover_eq counted.logged
    simp only [if_pos healthy, same, nextBackoff]
    refine ⟨⟨logged, ?_, ?_, ?_⟩, ?_⟩
    · rw [streak_healthy healthy]
    · rw [streak_healthy healthy]
      rfl
    · rw [waitsAfter, streak_healthy healthy, counted.waits]
      rfl
    · rfl
  · obtain ⟨reports, same, logged⟩ := countFailure_eq counted.failures counted.reported counted.logged
    have next : doubled s.backoff = backoffAfter (streak s.attempts + 1) := by
      rw [backoff, counted.failures, doubled_backoffAfter]
    simp only [if_neg healthy, same, nextBackoff]
    refine ⟨⟨logged, ?_, ?_, ?_⟩, ?_⟩
    · rw [streak_short healthy]
    · rw [streak_short healthy]
    · rw [waitsAfter, streak_short healthy, counted.waits, next]
    · exact next

theorem step_counted (s : Supervisor) (event : SupervisorEvent) (sound : s.Counted ∧ s.BackoffCounts) :
    (s.step event).Counted ∧ (s.step event).BackoffCounts := by
  obtain ⟨counted, counts⟩ := sound
  have still (now : Nat) (shutdown : Bool) (post : Post) (backoff : Nat) :
      ({ s with now, shutdown, post, backoff } : Supervisor).Counted :=
    ⟨counted.logged, counted.failures, counted.reported, counted.waits⟩
  cases event with
  | tick nanos => exact ⟨still _ _ _ _, counts⟩
  | requestShutdown => exact ⟨still _ _ _ _, counts⟩
  | launch spawns =>
    rw [step]
    split
    next atTop =>
      have backoff : s.backoff = backoffAfter s.consecutiveFailures := by
        rwa [BackoffCounts, atTop] at counts
      split
      · exact ⟨still _ _ _ _, trivial⟩
      split
      · exact ⟨still _ _ _ _, backoff⟩
      · exact spawnFailed_counted counted backoff
    next => exact ⟨counted, counts⟩
  | exits =>
    rw [step]
    split
    next startedAt isRunning =>
      refine exited_counted counted ?_ _
      rwa [BackoffCounts, isRunning] at counts
    next => exact ⟨counted, counts⟩
  | noticeShutdown =>
    rw [step]
    split
    · split
      · exact ⟨still _ _ _ _, trivial⟩
      · exact ⟨still _ _ _ _, trivial⟩
      · exact ⟨counted, counts⟩
    · exact ⟨counted, counts⟩
  | stopped =>
    rw [step]
    split
    next => exact ⟨still _ _ _ _, trivial⟩
    next => exact ⟨counted, counts⟩
  | wakes =>
    rw [step]
    split
    next doubles isWaiting =>
      refine ⟨still _ _ _ _, ?_⟩
      rw [BackoffCounts, isWaiting] at counts
      cases doubles with
      | true => exact counts
      | false => exact counts
    next => exact ⟨counted, counts⟩

end Supervisor

/-- In every run the reports of crash-looping go on and off by turns, the notice stands exactly while the
last three attempts or more were short ones, and the waits are as `waitsAfter` has them: a launch that
failed is followed by the back-off as it was before it, a run by the back-off that counts it. -/
theorem crash_loops_reported (now : Nat) (events : List SupervisorEvent) :
    Runs.Always Supervisor.step Supervisor.Counted (.start now) events :=
  (Runs.kept (fun s => s.Counted ∧ s.BackoffCounts) Supervisor.step_counted
    ⟨Supervisor.start_counted now, rfl⟩ events).mono fun _ sound => sound.1

end HomeCore.Hosting
