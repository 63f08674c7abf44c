import HomeCore.Engine.RuleRuns
import HomeCore.Engine.ExecutorProofs

/-! What one input does to the tasks, the runs and the rule being fired. -/
namespace HomeCore.Engine
open ForkJoin hiding Task
open scoped List

/-! ## Turns -/

theorem onTop_iff {s : System} {i : Nat} {frame : Frame} : onTop s i = some frame ↔
    ∃ task below, s.tasks[i]? = some task ∧ task.ending = none ∧ task.stack = .work frame :: below := by
  unfold onTop
  constructor
  · intro top
    split at top
    · rename_i found
      cases top
      exact ⟨_, _, found, rfl, rfl⟩
    · cases top
  · rintro ⟨⟨owner, stack, ending⟩, below, found, is_running, top⟩
    simp only at is_running top
    subst is_running top
    simp only [found]

/-- A turn gives the frame on top its reaction; without one it only drops frames. -/
theorem step_poll (s : System) (i : Nat) (answer : Answer) :
    (∃ frame rest, onTop s i = some frame ∧ framesOf s.tasks ~ frame :: rest ∧
      (step s (.poll i answer)).shared = (react s.shared frame answer).1 ∧
      framesOf (step s (.poll i answer)).tasks <+~ (react s.shared frame answer).2.frames ++ rest ∧
      ∀ frames, (react s.shared frame answer).2 = .go frames →
        framesOf (step s (.poll i answer)).tasks ~ frames ++ rest) ∨
    (onTop s i = none ∧ (step s (.poll i answer)).shared = s.shared ∧
      framesOf (step s (.poll i answer)).tasks <+~ framesOf s.tasks) := by
  simp only [step]
  split
  · rename_i waits
    refine .inr ⟨?_, rfl, .refl _⟩
    by_contra topped
    obtain ⟨frame, top⟩ := Option.ne_none_iff_exists'.mp topped
    obtain ⟨task, below, found, is_running, top⟩ := onTop_iff.mp top
    obtain ⟨tasks', polled⟩ := poll_work react s.shared answer found is_running top
    rw [waits] at polled
    cases polled
  · rename_i shared tasks polled
    obtain ⟨task, frame, below, rest, found, is_running, top, turned⟩ | ⟨noWork, rfl, fewer⟩ :=
      poll_frames polled
    · exact .inl ⟨frame, rest, onTop_iff.mpr ⟨task, below, found, is_running, top⟩, turned⟩
    · refine .inr ⟨?_, rfl, fewer⟩
      by_contra topped
      obtain ⟨frame, top⟩ := Option.ne_none_iff_exists'.mp topped
      obtain ⟨task, below, found, _, top⟩ := onTop_iff.mp top
      exact noWork task frame below found top

/-! ## What an input leaves alone -/

section Frames
variable (s : System)

@[simp] theorem entry_shared (ruleId : Uuid) : (entry s ruleId).1.shared = s.shared := by
  unfold entry
  split <;> rfl

@[simp] theorem entry_tasks (ruleId : Uuid) : (entry s ruleId).1.tasks = s.tasks := by
  unfold entry
  split <;> rfl

@[simp] theorem entry_runs (ruleId : Uuid) : (entry s ruleId).1.runs = s.runs := by
  unfold entry
  split <;> rfl

@[simp] theorem checkMode_tasks (rule : Rule) : (checkMode s rule).tasks = s.tasks := by
  unfold checkMode
  simp only
  split <;> simp

@[simp] theorem checkMode_runs (rule : Rule) : (checkMode s rule).runs = s.runs := by
  unfold checkMode
  simp only
  split <;> simp

@[simp] theorem retire_shared (i : Nat) : (retire s i).shared = s.shared := by
  unfold retire
  split
  · rfl
  · split <;> rfl

@[simp] theorem retire_tasks (i : Nat) : (retire s i).tasks = s.tasks := by
  unfold retire
  split
  · rfl
  · split <;> rfl

@[simp] theorem takeTurn_shared (i : Nat) : (takeTurn s i).shared = s.shared := by
  unfold takeTurn
  split
  · rfl
  · split <;> rfl

end Frames

/-! ## Flags -/

theorem checkMode_grows (s : System) (rule : Rule) :
    (checkMode s rule).shared.made = s.shared.made ∧
      s.shared.exited ⊆ (checkMode s rule).shared.exited := by
  unfold checkMode restartEffects
  simp only
  split
  · simp
  · split
    · simp only [List.foldl_cons, List.foldl_nil, applyEffect, cancelDelaysOf_kept, entry_shared]
      cases ((entry s rule.id).1.counters[(entry s rule.id).2]?.getD {}).latest with
      | none => exact ⟨rfl, List.Subset.refl _⟩
      | some flag => exact ⟨rfl, List.subset_cons_self _ _⟩
    · simp

theorem step_grows (s : System) (input : Input) :
    s.shared.made ≤ (step s input).shared.made ∧ s.shared.exited ⊆ (step s input).shared.exited := by
  have same : s.shared.made ≤ s.shared.made ∧ s.shared.exited ⊆ s.shared.exited :=
    ⟨le_refl _, List.Subset.refl _⟩
  cases input with
  | check rule =>
    simp only [step]
    split
    · exact same
    · exact ⟨(checkMode_grows s rule).1.ge, (checkMode_grows s rule).2⟩
  | admitRun =>
    simp only [step]
    split
    · exact same
    · exact ⟨Nat.le_succ _, List.Subset.refl _⟩
  | cancelOnFalse ruleId =>
    simp only [step]
    split
    · exact same
    · simp [cancelDelaysOf_kept]
  | takeTurn run => simpa only [step, takeTurn_shared] using same
  | poll i answer =>
    obtain ⟨frame, _, _, _, sharedEq, _⟩ | ⟨_, sharedEq, _⟩ := step_poll s i answer
    · rw [sharedEq]
      exact (react_effect s.shared frame answer).grows
    · rw [sharedEq]
      exact same
  | retire run => simpa only [step, retire_shared] using same
  | refuse | setRules | purge => exact same

/-! ## Tasks -/

/-- The tasks after an input: as before, one turn on, or with one new root. -/
theorem step_tasks (s : System) (input : Input) :
    (step s input).tasks = s.tasks ∨
    (∃ i answer shared, input = .poll i answer ∧
      ForkJoin.poll react s.shared s.tasks i answer = some (shared, (step s input).tasks)) ∨
    ∃ run, (step s input).tasks = begin s run := by
  cases input with
  | check rule =>
    simp only [step]
    split
    · exact .inl rfl
    · exact .inl (checkMode_tasks s rule)
  | admitRun =>
    simp only [step]
    split
    · exact .inl rfl
    · simp only [admitRun]
      split
      · exact .inl rfl
      · exact .inr (.inr ⟨_, rfl⟩)
  | cancelOnFalse ruleId =>
    simp only [step]
    split <;> exact .inl rfl
  | takeTurn run =>
    simp only [step, takeTurn]
    split
    · exact .inl rfl
    · split
      · exact .inl rfl
      · exact .inr (.inr ⟨_, rfl⟩)
  | poll i answer =>
    simp only [step]
    split
    · exact .inl rfl
    · rename_i polled
      exact .inr (.inl ⟨i, answer, _, rfl, polled⟩)
  | retire run => exact .inl (retire_tasks s run)
  | refuse | setRules | purge => exact .inl rfl

theorem owned_step {s : System} (owned : Owned s.tasks) (input : Input) :
    Owned (step s input).tasks := by
  rcases step_tasks s input with same | ⟨i, answer, shared, _, polled⟩ | ⟨run, spawned⟩
  · rwa [same]
  · exact owned.after_poll polled
  · rw [spawned]
    exact owned.add_root _

theorem length_step (s : System) (input : Input) : s.tasks.length ≤ (step s input).tasks.length := by
  rcases step_tasks s input with same | ⟨i, answer, shared, _, polled⟩ | ⟨run, spawned⟩
  · rw [same]
  · exact poll_length polled
  · rw [spawned, begin, List.length_append]
    exact Nat.le_add_right _ _

/-- A frame after an input was there before, or came of one of the same run. -/
theorem frames_step {s : System} (owned : Owned s.tasks) (input : Input) {owner : Nat}
    (bound : owner < s.tasks.length) {f : Frame} (member : f ∈ ownedFrames (step s input).tasks owner) :
    f ∈ ownedFrames s.tasks owner ∨
      ∃ frame ∈ ownedFrames s.tasks owner, Successor s.shared frame f := by
  rcases step_tasks s input with same | ⟨i, answer, shared, _, polled⟩ | ⟨run, spawned⟩
  · exact .inl (same ▸ member)
  · refine (poll_ownedFrames polled member).imp_right ?_
    rintro ⟨frame, among, reacted⟩
    exact ⟨frame, among, react_successor reacted⟩
  · rw [spawned, begin, executeActions, ownedFrames_add_root owned, if_neg bound.ne] at member
    exact .inl member

/-! ## Runs -/

/-- The run goes on as it was admitted; it may have got its turn, or have retired
when its task had returned. -/
structure Continues (s s' : System) (run run' : RuleRun) : Prop where
  ruleId : run'.ruleId = run.ruleId
  mode : run'.mode = run.mode
  exitFlag : run'.exitFlag = run.exitFlag
  counter : run'.counter = run.counter
  main : run'.main = run.main ∨
    run.main = none ∧ run'.main = some s.tasks.length ∧ s'.tasks = begin s run
  retired : run'.retired = run.retired ∨ (run.main.bind (endingOf s.tasks)).isSome = true

theorem Continues.refl (s s' : System) (run : RuleRun) : Continues s s' run run :=
  ⟨rfl, rfl, rfl, rfl, .inl rfl, .inl rfl⟩

/-- What an input does to the runs and to what is kept of them. -/
inductive Moves (s : System) : Input → System → Prop
  | same {input : Input} {s' : System} (runs : s'.runs = s.runs) (counters : s'.counters = s.counters)
      (inFlight : s'.ruleInFlight = s.ruleInFlight) : Moves s input s'
  | check (rule : Rule) : Moves s (.check rule) (checkMode s rule)
  | admitRun {rule : Rule} {counter : Nat} (firing : s.firing = some (rule, counter)) :
      Moves s .admitRun (admitRun s rule counter)
  | takeTurn {i : Nat} {run : RuleRun} (found : s.runs[i]? = some run) (waits : run.main = none) :
      Moves s (.takeTurn i)
        { s with
          tasks := begin s run
          runs := s.runs.set i { run with main := some s.tasks.length }
          counters := s.counters.modify run.counter fun runs => { runs with turn := some i } }
  | drop (i counter : Nat) : Moves s (.retire i)
      { s with counters := s.counters.modify counter fun runs => runs.release i }
  | retire {i : Nat} {run : RuleRun} (found : s.runs[i]? = some run) (counted : run.retired = false)
      (returned : (run.main.bind (endingOf s.tasks)).isSome = true) :
      Moves s (.retire i)
        { s with
          runs := s.runs.set i { run with retired := true }
          counters := s.counters.modify run.counter fun runs =>
            { runs.release i with count := runs.count - 1 } }
  | purge (liveRules : List Rule) : Moves s (.purge liveRules) (purge s liveRules)

theorem step_moves (s : System) (input : Input) : Moves s input (step s input) := by
  cases input with
  | check rule =>
    simp only [step]
    split
    · exact .same rfl rfl rfl
    · exact .check rule
  | admitRun =>
    simp only [step]
    split
    · exact .same rfl rfl rfl
    · rename_i firing
      exact .admitRun firing
  | cancelOnFalse ruleId =>
    simp only [step]
    split <;> exact .same rfl rfl rfl
  | takeTurn i =>
    simp only [step, takeTurn]
    split
    · exact .same rfl rfl rfl
    · rename_i run found
      split
      · exact .same rfl rfl rfl
      · rename_i waits
        refine .takeTurn found ?_
        simpa using fun h => waits (.inl h)
  | poll i answer =>
    simp only [step]
    split <;> exact .same rfl rfl rfl
  | retire i =>
    simp only [step, retire]
    split
    · exact .same rfl rfl rfl
    · rename_i run found
      split
      · exact .drop i run.counter
      · rename_i counted returned
        exact .retire found counted (by simp [returned])
      · exact .same rfl rfl rfl
  | refuse | setRules => exact .same rfl rfl rfl
  | purge liveRules => exact .purge liveRules

/-- A run after an input was admitted before, or is the one admitted now. -/
theorem step_run {s : System} {input : Input} {i : Nat} {run' : RuleRun}
    (found : (step s input).runs[i]? = some run') :
    (∃ run, s.runs[i]? = some run ∧ Continues s (step s input) run run') ∨
    (i = s.runs.length ∧ ∃ rule counter, input = .admitRun ∧ s.firing = some (rule, counter) ∧
      run' = newRun s rule counter) := by
  have moves := step_moves s input
  generalize step s input = s' at found moves ⊢
  have kept : s.runs[i]? = some run' → ∃ run, s.runs[i]? = some run ∧ Continues s s' run run' :=
    fun before => ⟨run', before, .refl _ _ _⟩
  cases moves with
  | same runs => exact .inl (kept (runs ▸ found))
  | check rule =>
    rw [checkMode_runs] at found
    exact .inl (kept found)
  | admitRun firing =>
    simp only [admitRun] at found
    rw [List.getElem?_append] at found
    split at found
    · exact .inl (kept found)
    · rw [List.getElem?_singleton] at found
      split at found
      · cases found
        exact .inr ⟨by omega, _, _, rfl, firing, rfl⟩
      · cases found
  | @takeTurn k run isRun waits =>
    simp only [List.getElem?_set] at found
    split at found
    · rename_i same
      subst same
      split at found
      · cases found
        exact .inl ⟨run, isRun, rfl, rfl, rfl, rfl, .inr ⟨waits, rfl, rfl⟩, .inl rfl⟩
      · cases found
    · exact .inl (kept found)
  | drop => exact .inl (kept found)
  | @retire k run isRun counted returned =>
    simp only [List.getElem?_set] at found
    split at found
    · rename_i same
      subst same
      split at found
      · cases found
        exact .inl ⟨run, isRun, rfl, rfl, rfl, rfl, .inl rfl, .inr returned⟩
      · cases found
    · exact .inl (kept found)
  | purge => exact .inl (kept found)

/-- A run that another one comes after was admitted before this input. -/
theorem step_earlier {s : System} {input : Input} {i j : Nat} {run' later' : RuleRun} (earlier : i < j)
    (found : (step s input).runs[i]? = some run') (foundLater : (step s input).runs[j]? = some later') :
    ∃ run, s.runs[i]? = some run ∧ Continues s (step s input) run run' := by
  rcases step_run found with before | ⟨last, _⟩
  · exact before
  · rcases step_run foundLater with ⟨later, isLater, _⟩ | ⟨alsoLast, _⟩
    · have := (List.getElem?_eq_some_iff.mp isLater).1
      omega
    · omega

/-! ## The rule being fired -/

theorem entry_firing (s : System) (ruleId : Uuid) : (entry s ruleId).1.firing = s.firing := by
  unfold entry
  split <;> rfl

/-- The rule is being fired since before, or has just passed the check of its mode. -/
theorem step_firing {s : System} {input : Input} {rule : Rule} {counter : Nat}
    (found : (step s input).firing = some (rule, counter)) :
    (s.firing = some (rule, counter) ∧ input ≠ .admitRun) ∨
    (input = .check rule ∧ s.firing = none ∧ counter = (entry s rule.id).2 ∧
      modeRefusal rule.runMode ((entry s rule.id).1.counters[counter]?.getD {}).count = none) := by
  cases input with
  | check checked =>
    simp only [step] at found
    split at found
    · exact .inl ⟨found, by simp⟩
    · rename_i idle
      simp only [Bool.not_eq_true, Option.isSome_eq_false_iff, Option.isNone_iff_eq_none] at idle
      simp only [checkMode] at found
      split at found
      · rw [entry_firing, idle] at found
        cases found
      · rename_i passes
        cases found
        exact .inr ⟨rfl, idle, rfl, by simpa using passes⟩
  | refuse => cases found
  | admitRun =>
    simp only [step] at found
    split at found
    · rename_i idle
      rw [idle] at found
      cases found
    · cases found
  | cancelOnFalse ruleId =>
    simp only [step] at found
    split at found <;> exact .inl ⟨found, by simp⟩
  | takeTurn k =>
    simp only [step, takeTurn] at found
    split at found
    · exact .inl ⟨found, by simp⟩
    · split at found <;> exact .inl ⟨found, by simp⟩
  | poll t answer =>
    simp only [step] at found
    split at found <;> exact .inl ⟨found, by simp⟩
  | retire k =>
    simp only [step, retire] at found
    split at found
    · exact .inl ⟨found, by simp⟩
    · split at found <;> exact .inl ⟨found, by simp⟩
  | setRules | purge => exact .inl ⟨found, by simp⟩

/-- Where the task of a run is, and that it exists. -/
theorem step_main {s : System} {input : Input}
    (mains : ∀ run ∈ s.runs, ∀ main ∈ run.main, main < s.tasks.length) :
    ∀ run ∈ (step s input).runs, ∀ main ∈ run.main, main < (step s input).tasks.length := by
  intro run' member main isMain
  have longer := length_step s input
  obtain ⟨i, found⟩ := List.mem_iff_getElem?.mp member
  rcases step_run found with ⟨run, isRun, continues⟩ | ⟨_, rule, counter, rfl, firing, rfl⟩
  · rcases continues.main with same | ⟨_, began, spawned⟩
    · have := mains run (List.mem_of_getElem? isRun) main (same ▸ isMain)
      omega
    · rw [began] at isMain
      cases isMain
      simp [spawned, begin]
  · simp only [newRun] at isMain
    split at isMain
    · cases isMain
    · rename_i notQueued
      cases isMain
      simp [step, firing, admitRun, notQueued, begin]

end HomeCore.Engine
