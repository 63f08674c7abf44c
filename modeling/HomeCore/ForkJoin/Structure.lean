import HomeCore.ForkJoin

/-! Machines in which nothing outlives what began it: as long as no join gives up
on a task that it awaits, every running task is a root or has a running parent
that awaits it. -/
namespace ForkJoin
variable {M F A : Type} {react : M → F → A → M × Reaction F} {ended : Nat → Option Ending} {next : Nat}
  {memory memory' : M} {answer : A} {task task' : Task F} {spawned : List F} {tasks tasks' : List (Task F)}
  {i : Nat}

/-- No join fails in this turn while another task that it awaits is running. -/
def orderly (tasks : List (Task F)) (i : Nat) : Bool :=
  match tasks[i]?.map Task.stack with
  | some (.join (handle :: handles) :: _) =>
    match endingOf tasks handle with
    | none | some .ok => true
    | some _ => handles.all fun h => (endingOf tasks h).isSome
  | _ => true

/-- A running task, of the same owner, has this one in the join it waits at. -/
def Awaited (tasks : List (Task F)) (i owner : Nat) : Prop :=
  ∃ p parent handles below, p < i ∧ tasks[p]? = some parent ∧ parent.ending = none ∧
    parent.owner = owner ∧ parent.stack = .join handles :: below ∧ i ∈ handles

/-- Only the top of a stack is ever a join, and every running task is a root or awaited. -/
def Structured (tasks : List (Task F)) : Prop :=
  ∀ i task, tasks[i]? = some task → (∀ slot ∈ task.stack.tail, slot.frame?.isSome) ∧
    (task.ending = none → task.owner = i ∨ Awaited tasks i task.owner)

theorem Turn.joins_on_top (turn : Turn react ended next memory answer task memory' task' spawned)
    (onTop : ∀ slot ∈ task.stack.tail, slot.frame?.isSome) :
    ∀ slot ∈ task'.stack.tail, slot.frame?.isSome := by
  cases turn with
  | finished top => exact onTop
  | went top reacted =>
    rw [top] at onTop
    intro slot member
    rcases List.mem_append.mp (List.mem_of_mem_tail member) with made | kept
    · obtain ⟨frame, _, rfl⟩ := List.mem_map.mp made
      rfl
    · exact onTop slot kept
  | forked top reacted => rwa [top] at onTop
  | aborted top reacted => simp
  | joined top =>
    rw [top] at onTop
    exact fun slot member => onTop slot (List.mem_of_mem_tail member)
  | awaited top done => rwa [top] at onTop
  | broke top done bad => simp

/-- The task that moved still awaits every running task that it did. -/
theorem Turn.still_awaits
    (turn : Turn react (endingOf tasks) next memory answer task memory' task' spawned)
    (found : tasks[i]? = some task) (order : orderly tasks i = true) {handles : List Nat}
    {below : List (Slot F)} (top : task.stack = .join handles :: below) {k : Nat}
    (member : k ∈ handles) (running : endingOf tasks k = none) (is_running : task.ending = none) :
    task'.ending = none ∧ ∃ handles' below', task'.stack = .join handles' :: below' ∧ k ∈ handles' := by
  cases turn with
  | finished empty => simp [empty] at top
  | went worked reacted => simp [worked] at top
  | forked worked reacted => simp [worked] at top
  | aborted worked reacted => simp [worked] at top
  | joined empty =>
    rw [empty] at top
    cases top
    simp at member
  | @awaited handle handles' below' first done =>
    rw [first] at top
    cases top
    rcases List.mem_cons.mp member with rfl | later
    · rw [running] at done
      cases done
    · exact ⟨is_running, _, _, rfl, later⟩
  | @broke handle handles' below' ending first done bad =>
    rw [first] at top
    cases top
    simp only [orderly, found, Option.map_some, first, done] at order
    rcases List.mem_cons.mp member with rfl | later
    · rw [running] at done
      cases done
    · cases ending with
      | ok => exact absurd rfl bad
      | failed =>
        have := List.all_eq_true.mp order k later
        simp [running] at this
      | panicked =>
        have := List.all_eq_true.mp order k later
        simp [running] at this

/-- A task that is awaited is awaited after the turn as well. -/
theorem Awaited.after
    (turn : Turn react (endingOf tasks) tasks.length memory answer task memory' task' spawned)
    (found : tasks[i]? = some task) (is_running : task.ending = none)
    (order : orderly tasks i = true) {k owner : Nat} (running : endingOf tasks k = none)
    (awaited : Awaited tasks k owner) (new : List (Task F)) :
    Awaited (tasks.set i task' ++ new) k owner := by
  obtain ⟨p, parent, handles, below, smaller, isParent, parentRuns, owned, top, member⟩ := awaited
  by_cases moved : p = i
  · subst moved
    cases found.symm.trans isParent
    obtain ⟨runs, handles', below', top', member'⟩ :=
      turn.still_awaits found order top member running is_running
    exact ⟨p, task', handles', below', smaller, lookup_moved found new, runs,
      turn.owner.trans owned, top', member'⟩
  · exact ⟨p, parent, handles, below, smaller, lookup_kept isParent moved new, parentRuns, owned,
      top, member⟩

theorem Structured.after_poll (structured : Structured tasks) (order : orderly tasks i = true)
    (polled : poll react memory tasks i answer = some (memory', tasks')) : Structured tasks' := by
  obtain ⟨task, task', spawned, found, is_running, turn, rfl⟩ := poll_turn polled
  have bound := (List.getElem?_eq_some_iff.mp found).1
  intro k t lookup
  rcases lookup_after lookup with ⟨rfl, rfl⟩ | ⟨other, before⟩ | ⟨low, high, frame, member, rfl⟩
  · refine ⟨turn.joins_on_top (structured k task found).1, fun _ => ?_⟩
    rw [turn.owner]
    exact ((structured k task found).2 is_running).imp id
      fun awaited => awaited.after turn found is_running order (by rw [endingOf_eq found, is_running]) _
  · refine ⟨(structured k t before).1, fun running => ?_⟩
    exact ((structured k t before).2 running).imp id
      fun awaited => awaited.after turn found is_running order (by rw [endingOf_eq before, running]) _
  · refine ⟨by simp [Task.spawn], fun _ => .inr ?_⟩
    -- only a fork spawns, and it leaves the new tasks in its join
    cases turn with
    | @forked frame' below memory' branches top reacted =>
      exact ⟨i, _, _, below, by omega, lookup_moved found _, is_running, rfl, rfl,
        List.mem_range'_1.mpr ⟨low, high⟩⟩
    | finished | went | aborted | joined | awaited | broke => simp at member

theorem Structured.add_root (structured : Structured tasks) (frame : F) :
    Structured (tasks ++ [Task.spawn tasks.length frame]) := by
  intro i task lookup
  rw [List.getElem?_append] at lookup
  split at lookup
  · refine ⟨(structured i task lookup).1, fun running => ?_⟩
    refine ((structured i task lookup).2 running).imp id ?_
    rintro ⟨p, parent, handles, below, smaller, isParent, rest⟩
    refine ⟨p, parent, handles, below, smaller, ?_, rest⟩
    rw [List.getElem?_append_left (by omega), isParent]
  · have last : i = tasks.length := by
      have := (List.getElem?_eq_some_iff.mp lookup).1
      simp only [List.length_singleton] at this
      omega
    subst last
    simp only [Nat.sub_self, List.getElem?_cons_zero, Option.some.injEq] at lookup
    subst lookup
    exact ⟨by simp [Task.spawn], fun _ => .inl rfl⟩

/-- While any of its tasks runs, the root runs. -/
theorem Structured.root_running (structured : Structured tasks) {k : Nat} {t : Task F}
    (found : tasks[k]? = some t) (running : t.ending = none) :
    endingOf tasks t.owner = none ∧ t.owner < tasks.length := by
  induction k using Nat.strong_induction_on generalizing t with
  | _ k ih =>
    rcases (structured k t found).2 running with root | awaited
    · rw [root, endingOf_eq found]
      exact ⟨running, (List.getElem?_eq_some_iff.mp found).1⟩
    · obtain ⟨p, parent, _, _, smaller, isParent, parentRuns, owned, _⟩ := awaited
      rw [← owned]
      exact ih p smaller isParent parentRuns

end ForkJoin
