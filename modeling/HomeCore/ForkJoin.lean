import Mathlib

/-! Tasks that fork and join over a shared memory. A task is a stack of frames.
Whoever schedules them picks any task and gives its top frame one turn, with an
answer from the world. A frame forks by spawning tasks and leaving a join in its
place; a join awaits its tasks in order and fails with the first that did not
end well, while the others go on. -/
namespace ForkJoin
open scoped List

inductive Ending where
  | ok
  | failed
  | panicked
  deriving DecidableEq, Repr

inductive Slot (F : Type) where
  | work (frame : F)
  | join (handles : List Nat)

/-- The owner is the task that all of this began with. -/
structure Task (F : Type) where
  owner : Nat
  stack : List (Slot F)
  ending : Option Ending

inductive Reaction (F : Type) where
  | go (frames : List F)
  | fork (branches : List F)
  | abort (ending : Ending)

def Reaction.frames {F : Type} : Reaction F → List F
  | .go frames => frames
  | .fork branches => branches
  | .abort _ => []

def Slot.frame? {F : Type} : Slot F → Option F
  | .work frame => some frame
  | .join _ => none

def Task.frames {F : Type} (task : Task F) : List F := task.stack.filterMap Slot.frame?

def Task.spawn {F : Type} (owner : Nat) (frame : F) : Task F := ⟨owner, [.work frame], none⟩

def framesOf {F : Type} (tasks : List (Task F)) : List F := tasks.flatMap Task.frames

/-- The frames of all tasks that began with this one. -/
def ownedFrames {F : Type} (tasks : List (Task F)) (owner : Nat) : List F :=
  framesOf (tasks.filter (·.owner == owner))

def endingOf {F : Type} (tasks : List (Task F)) (handle : Nat) : Option Ending :=
  tasks[handle]?.bind Task.ending

section Machine
variable {M F A : Type} (react : M → F → A → M × Reaction F)

/-- One turn of a task that sees how others ended: the memory after it, the task
after it, and the frames of the tasks it spawns, numbered from `next`. -/
def advance (ended : Nat → Option Ending) (next : Nat) (memory : M) (answer : A) (task : Task F) :
    Option (M × Task F × List F) :=
  match task.ending, task.stack with
  | some _, _ => none
  | none, [] => some (memory, { task with ending := some .ok }, [])
  | none, .work frame :: below =>
    match react memory frame answer with
    | (memory', .go frames) => some (memory', { task with stack := frames.map .work ++ below }, [])
    | (memory', .fork branches) =>
      some (memory', { task with stack := .join (List.range' next branches.length) :: below }, branches)
    | (memory', .abort ending) => some (memory', { task with stack := [], ending := some ending }, [])
  | none, .join [] :: below => some (memory, { task with stack := below }, [])
  | none, .join (handle :: handles) :: below =>
    match ended handle with
    | none => none
    | some .ok => some (memory, { task with stack := .join handles :: below }, [])
    | some _ => some (memory, { task with stack := [], ending := some .failed }, [])

/-- One turn of task `i`; nothing where it has ended or has to wait. -/
def poll (memory : M) (tasks : List (Task F)) (i : Nat) (answer : A) :
    Option (M × List (Task F)) :=
  match tasks[i]? with
  | none => none
  | some task =>
    (advance react (endingOf tasks) tasks.length memory answer task).map
      fun (memory', task', spawned) =>
        (memory', tasks.set i task' ++ spawned.map (Task.spawn task.owner))

/-- Everything a turn can do. -/
inductive Turn (ended : Nat → Option Ending) (next : Nat) (memory : M) (answer : A)
    (task : Task F) : M → Task F → List F → Prop
  | finished (top : task.stack = []) : Turn ended next memory answer task
      memory { task with ending := some .ok } []
  | went {frame : F} {below : List (Slot F)} {memory' : M} {frames : List F}
      (top : task.stack = .work frame :: below)
      (reacted : react memory frame answer = (memory', .go frames)) :
      Turn ended next memory answer task memory' { task with stack := frames.map .work ++ below } []
  | forked {frame : F} {below : List (Slot F)} {memory' : M} {branches : List F}
      (top : task.stack = .work frame :: below)
      (reacted : react memory frame answer = (memory', .fork branches)) :
      Turn ended next memory answer task memory'
        { task with stack := .join (List.range' next branches.length) :: below } branches
  | aborted {frame : F} {below : List (Slot F)} {memory' : M} {ending : Ending}
      (top : task.stack = .work frame :: below)
      (reacted : react memory frame answer = (memory', .abort ending)) :
      Turn ended next memory answer task memory' { task with stack := [], ending := some ending } []
  | joined {below : List (Slot F)} (top : task.stack = .join [] :: below) :
      Turn ended next memory answer task memory { task with stack := below } []
  | awaited {handle : Nat} {handles : List Nat} {below : List (Slot F)}
      (top : task.stack = .join (handle :: handles) :: below)
      (done : ended handle = some .ok) :
      Turn ended next memory answer task memory { task with stack := .join handles :: below } []
  | broke {handle : Nat} {handles : List Nat} {below : List (Slot F)} {ending : Ending}
      (top : task.stack = .join (handle :: handles) :: below)
      (done : ended handle = some ending) (bad : ending ≠ .ok) :
      Turn ended next memory answer task memory { task with stack := [], ending := some .failed } []

variable {react} {ended : Nat → Option Ending} {next : Nat} {memory memory' : M} {answer : A}
  {task task' : Task F} {spawned : List F} {tasks tasks' : List (Task F)} {i : Nat}

theorem advance_turn
    (advanced : advance react ended next memory answer task = some (memory', task', spawned)) :
    task.ending = none ∧ Turn react ended next memory answer task memory' task' spawned := by
  unfold advance at advanced
  split at advanced
  · cases advanced
  · rename_i running top
    cases advanced
    exact ⟨running, .finished top⟩
  · rename_i running top
    split at advanced <;> rename_i reacted <;> cases advanced
    · exact ⟨running, .went top reacted⟩
    · exact ⟨running, .forked top reacted⟩
    · exact ⟨running, .aborted top reacted⟩
  · rename_i running top
    cases advanced
    exact ⟨running, .joined top⟩
  · rename_i running top
    split at advanced
    · cases advanced
    · rename_i done
      cases advanced
      exact ⟨running, .awaited top done⟩
    · rename_i done bad
      cases advanced
      exact ⟨running, .broke top bad done⟩

/-- What one turn of a machine does: one task moves, and what it spawns is added. -/
theorem poll_turn (polled : poll react memory tasks i answer = some (memory', tasks')) :
    ∃ task task' spawned, tasks[i]? = some task ∧ task.ending = none ∧
      Turn react (endingOf tasks) tasks.length memory answer task memory' task' spawned ∧
      tasks' = tasks.set i task' ++ spawned.map (Task.spawn task.owner) := by
  unfold poll at polled
  split at polled
  · cases polled
  · rename_i task found
    obtain ⟨⟨m, task', spawned⟩, advanced, result⟩ := Option.map_eq_some_iff.mp polled
    cases result
    obtain ⟨running, turn⟩ := advance_turn advanced
    exact ⟨task, task', spawned, found, running, turn, rfl⟩

/-- A task with a frame on top always gets its turn. -/
theorem poll_work (react : M → F → A → M × Reaction F) (memory : M) (answer : A) {frame : F}
    {below : List (Slot F)} (found : tasks[i]? = some task) (is_running : task.ending = none)
    (top : task.stack = .work frame :: below) :
    ∃ tasks', poll react memory tasks i answer = some ((react memory frame answer).1, tasks') := by
  simp only [poll, found, advance, is_running, top]
  split <;> rename_i reacted <;> simp [reacted]

theorem Turn.owner (turn : Turn react ended next memory answer task memory' task' spawned) :
    task'.owner = task.owner := by
  cases turn <;> rfl

/-! ## Frames -/

theorem frames_work (frames : List F) (below : List (Slot F)) :
    (frames.map Slot.work ++ below).filterMap Slot.frame? =
      frames ++ below.filterMap Slot.frame? := by
  induction frames with
  | nil => rfl
  | cons frame frames ih =>
    simp only [List.map_cons, List.cons_append, List.filterMap_cons, Slot.frame?, ih]

theorem frames_join (handles : List Nat) (below : List (Slot F)) :
    (Slot.join handles :: below).filterMap Slot.frame? = below.filterMap Slot.frame? := rfl

theorem frames_top {frame : F} {below : List (Slot F)} (top : task.stack = .work frame :: below) :
    task.frames = frame :: below.filterMap Slot.frame? := by
  rw [Task.frames, top]
  rfl

/-- A turn either gives the top frame its reaction or only drops frames. A frame
that goes on is replaced, and nothing else is. -/
theorem Turn.frames (turn : Turn react ended next memory answer task memory' task' spawned) :
    (∃ frame below, task.stack = .work frame :: below ∧ memory' = (react memory frame answer).1 ∧
      task'.frames ++ spawned <+~
        (react memory frame answer).2.frames ++ below.filterMap Slot.frame? ∧
      ∀ frames, (react memory frame answer).2 = .go frames →
        task'.frames ++ spawned = frames ++ below.filterMap Slot.frame?) ∨
    ((∀ frame below, task.stack ≠ .work frame :: below) ∧ memory' = memory ∧ spawned = [] ∧
      task'.frames <+~ task.frames) := by
  cases turn with
  | finished top => exact .inr ⟨by simp [top], rfl, rfl, .refl _⟩
  | @went frame below _ frames top reacted =>
    refine .inl ⟨frame, below, top, by rw [reacted], ?_⟩
    simp only [Task.frames, reacted, Reaction.frames, frames_work, List.append_nil, Reaction.go.injEq]
    exact ⟨.refl _, fun frames' same => by rw [same]⟩
  | @forked frame below _ branches top reacted =>
    refine .inl ⟨frame, below, top, by rw [reacted], ?_⟩
    simp only [Task.frames, reacted, Reaction.frames, frames_join]
    exact ⟨List.perm_append_comm.subperm, fun frames' other => by cases other⟩
  | @aborted frame below _ ending top reacted =>
    refine .inl ⟨frame, below, top, by rw [reacted], List.nil_subperm, fun frames' other => ?_⟩
    rw [reacted] at other
    cases other
  | joined top =>
    exact .inr ⟨by simp [top], rfl, rfl, by simp only [Task.frames, top, frames_join, List.Subperm.refl]⟩
  | awaited top done =>
    exact .inr ⟨by simp [top], rfl, rfl, by simp only [Task.frames, top, frames_join, List.Subperm.refl]⟩
  | broke top done bad => exact .inr ⟨by simp [top], rfl, rfl, List.nil_subperm⟩

theorem frames_spawn (owner : Nat) (spawned : List F) :
    framesOf (spawned.map (Task.spawn owner)) = spawned := by
  induction spawned with
  | nil => rfl
  | cons frame spawned ih =>
    rw [List.map_cons, framesOf, List.flatMap_cons, ← framesOf, ih]
    rfl

theorem flatMap_set {α β : Type} {f : α → List β} {as : List α} {i : Nat} {a : α}
    (found : as[i]? = some a) :
    ∃ rest, as.flatMap f ~ f a ++ rest ∧ ∀ b, (as.set i b).flatMap f ~ f b ++ rest := by
  induction as generalizing i with
  | nil => simp at found
  | cons c as ih =>
    cases i with
    | zero =>
      simp only [List.getElem?_cons_zero, Option.some.injEq] at found
      subst found
      exact ⟨as.flatMap f, .refl _, fun b => .refl _⟩
    | succ i =>
      obtain ⟨rest, whole, changed⟩ := ih (by simpa using found)
      have swap : ∀ bs, f c ++ (bs ++ rest) ~ bs ++ (f c ++ rest) := by
        intro bs
        rw [← List.append_assoc, ← List.append_assoc]
        exact List.perm_append_comm.append_right rest
      refine ⟨f c ++ rest, ?_, fun b => ?_⟩
      · exact (whole.append_left (f c)).trans (swap _)
      · exact ((changed b).append_left (f c)).trans (swap _)

/-- The frames of a machine after a turn: a reaction in place of its frame, or fewer. -/
theorem poll_frames (polled : poll react memory tasks i answer = some (memory', tasks')) :
    (∃ task frame below rest, tasks[i]? = some task ∧ task.ending = none ∧
      task.stack = .work frame :: below ∧ framesOf tasks ~ frame :: rest ∧
      memory' = (react memory frame answer).1 ∧
      framesOf tasks' <+~ (react memory frame answer).2.frames ++ rest ∧
      ∀ frames, (react memory frame answer).2 = .go frames → framesOf tasks' ~ frames ++ rest) ∨
    ((∀ task frame below, tasks[i]? = some task → task.stack ≠ .work frame :: below) ∧
      memory' = memory ∧ framesOf tasks' <+~ framesOf tasks) := by
  obtain ⟨task, task', spawned, found, is_running, turn, rfl⟩ := poll_turn polled
  obtain ⟨rest, whole, changed⟩ := flatMap_set (f := Task.frames) found
  have after : framesOf (tasks.set i task' ++ spawned.map (Task.spawn task.owner)) ~
      task'.frames ++ spawned ++ rest := by
    rw [framesOf, List.flatMap_append, ← framesOf, ← framesOf, frames_spawn]
    refine ((changed task').append_right spawned).trans ?_
    rw [List.append_assoc, List.append_assoc]
    exact List.perm_append_comm.append_left task'.frames
  obtain ⟨frame, below, top, memory_eq, fewer, went⟩ | ⟨noWork, memory_eq, rfl, fewer⟩ := turn.frames
  · refine .inl ⟨task, frame, below, below.filterMap Slot.frame? ++ rest, found, is_running, top, ?_,
      memory_eq, ?_, fun frames goes => ?_⟩
    · rwa [frames_top top] at whole
    · rw [← List.append_assoc]
      exact after.subperm.trans ((List.subperm_append_right rest).mpr fewer)
    · rwa [went frames goes, List.append_assoc] at after
  · refine .inr ⟨fun t frame below isTask => ?_, memory_eq, ?_⟩
    · cases found.symm.trans isTask
      exact noWork frame below
    rw [List.append_nil] at after
    exact (after.subperm.trans ((List.subperm_append_right rest).mpr fewer)).trans whole.symm.subperm

/-! ## Lookups -/

theorem lookup_spawn {owner k : Nat} {t : Task F}
    (found : (spawned.map (Task.spawn owner))[k]? = some t) :
    k < spawned.length ∧ ∃ frame ∈ spawned, t = Task.spawn owner frame := by
  rw [List.getElem?_map] at found
  obtain ⟨frame, member, rfl⟩ := Option.map_eq_some_iff.mp found
  exact ⟨(List.getElem?_eq_some_iff.mp member).1, frame, List.mem_of_getElem? member, rfl⟩

/-- A task after a turn: the one that moved, another as it was, or a spawned one. -/
theorem lookup_after {owner k : Nat} {t : Task F}
    (found : (tasks.set i task' ++ spawned.map (Task.spawn owner))[k]? = some t) :
    (k = i ∧ t = task') ∨ (k ≠ i ∧ tasks[k]? = some t) ∨
      (tasks.length ≤ k ∧ k < tasks.length + spawned.length ∧
        ∃ frame ∈ spawned, t = Task.spawn owner frame) := by
  rw [List.getElem?_append, List.length_set] at found
  split at found
  · by_cases same : i = k
    · subst same
      rw [List.getElem?_set_self (by assumption)] at found
      exact .inl ⟨rfl, (Option.some.inj found).symm⟩
    · rw [List.getElem?_set_ne same] at found
      exact .inr (.inl ⟨fun h => same h.symm, found⟩)
  · obtain ⟨bound, spawn⟩ := lookup_spawn found
    exact .inr (.inr ⟨by omega, by omega, spawn⟩)

theorem lookup_moved (found : tasks[i]? = some task) (new : List (Task F)) :
    (tasks.set i task' ++ new)[i]? = some task' := by
  have bound := (List.getElem?_eq_some_iff.mp found).1
  rw [List.getElem?_append_left (by rwa [List.length_set]), List.getElem?_set_self bound]

theorem lookup_kept {k : Nat} {t : Task F} (found : tasks[k]? = some t) (other : k ≠ i)
    (new : List (Task F)) : (tasks.set i task' ++ new)[k]? = some t := by
  have bound := (List.getElem?_eq_some_iff.mp found).1
  rw [List.getElem?_append_left (by rwa [List.length_set]), List.getElem?_set_ne other.symm, found]

theorem poll_length (polled : poll react memory tasks i answer = some (memory', tasks')) :
    tasks.length ≤ tasks'.length := by
  obtain ⟨task, task', spawned, _, _, _, rfl⟩ := poll_turn polled
  simp

theorem endingOf_eq {k : Nat} {t : Task F} (found : tasks[k]? = some t) :
    endingOf tasks k = t.ending := by
  rw [endingOf, found, Option.bind_some]

/-- A task that has ended stays as it is. -/
theorem poll_ended (polled : poll react memory tasks i answer = some (memory', tasks')) {k : Nat}
    {ending : Ending} (isOver : endingOf tasks k = some ending) : endingOf tasks' k = some ending := by
  obtain ⟨task, task', spawned, found, is_running, _, rfl⟩ := poll_turn polled
  obtain ⟨t, isThere, itsEnding⟩ := Option.bind_eq_some_iff.mp isOver
  have other : k ≠ i := by
    rintro rfl
    cases found.symm.trans isThere
    rw [is_running] at itsEnding
    cases itsEnding
  rw [endingOf_eq (lookup_kept isThere other _), itsEnding]

/-- A task that panics in a turn does so in the frame on its top. -/
theorem poll_panicked (polled : poll react memory tasks i answer = some (memory', tasks'))
    (panicked : endingOf tasks' i = some .panicked) :
    ∃ task frame below, tasks[i]? = some task ∧ task.stack = .work frame :: below ∧
      (react memory frame answer).2 = .abort .panicked := by
  obtain ⟨task, task', spawned, found, is_running, turn, rfl⟩ := poll_turn polled
  rw [endingOf_eq (lookup_moved found _)] at panicked
  cases turn with
  | aborted top reacted =>
    simp only [Option.some.injEq] at panicked
    exact ⟨task, _, _, found, top, by rw [reacted, panicked]⟩
  | finished | broke => cases panicked
  | went | forked | joined | awaited =>
    simp only [is_running] at panicked
    cases panicked

theorem endingOf_append {new : List (Task F)} {k : Nat} {ending : Ending}
    (isOver : endingOf tasks k = some ending) : endingOf (tasks ++ new) k = some ending := by
  obtain ⟨t, isThere, itsEnding⟩ := Option.bind_eq_some_iff.mp isOver
  have bound := (List.getElem?_eq_some_iff.mp isThere).1
  rw [endingOf, List.getElem?_append_left bound, isThere, Option.bind_some, itsEnding]

/-! ## Owners -/

theorem mem_ownedFrames {owner : Nat} {f : F} :
    f ∈ ownedFrames tasks owner ↔ ∃ t ∈ tasks, t.owner = owner ∧ f ∈ t.frames := by
  simp [ownedFrames, framesOf, and_assoc]

/-- A frame after a turn was there before, or comes of the frame on top of a task
of the same owner. -/
theorem poll_ownedFrames (polled : poll react memory tasks i answer = some (memory', tasks'))
    {owner : Nat} {f : F} (member : f ∈ ownedFrames tasks' owner) :
    f ∈ ownedFrames tasks owner ∨
      ∃ frame ∈ ownedFrames tasks owner, f ∈ (react memory frame answer).2.frames := by
  obtain ⟨task, task', spawned, found, _, turn, rfl⟩ := poll_turn polled
  have isTask := List.mem_of_getElem? found
  obtain ⟨t, isThere, owned, among⟩ := mem_ownedFrames.mp member
  obtain ⟨k, lookup⟩ := List.mem_iff_getElem?.mp isThere
  have origin : task.owner = owner → f ∈ task'.frames ++ spawned →
      f ∈ ownedFrames tasks owner ∨
        ∃ frame ∈ ownedFrames tasks owner, f ∈ (react memory frame answer).2.frames := by
    intro same new
    have kept : ∀ g ∈ task.frames, g ∈ ownedFrames tasks owner :=
      fun g has => mem_ownedFrames.mpr ⟨task, isTask, same, has⟩
    obtain ⟨frame, below, top, _, fewer, _⟩ | ⟨_, _, rfl, fewer⟩ := turn.frames
    · rcases List.mem_append.mp (fewer.subset new) with reacted | old
      · exact .inr ⟨frame, kept frame (by rw [frames_top top]; exact List.mem_cons_self), reacted⟩
      · exact .inl (kept f (by rw [frames_top top]; exact List.mem_cons_of_mem _ old))
    · rw [List.append_nil] at new
      exact .inl (kept f (fewer.subset new))
  rcases lookup_after lookup with ⟨rfl, rfl⟩ | ⟨_, before⟩ | ⟨_, _, frame, isSpawned, rfl⟩
  · exact origin (turn.owner.symm.trans owned) (List.mem_append_left _ among)
  · exact .inl (mem_ownedFrames.mpr ⟨t, List.mem_of_getElem? before, owned, among⟩)
  · simp only [Task.frames, Task.spawn, Slot.frame?, List.filterMap_cons, List.filterMap_nil,
      List.mem_singleton] at among
    subst among
    exact origin owned (List.mem_append_right _ isSpawned)

/-- Every task began with one that exists. -/
def Owned (tasks : List (Task F)) : Prop := ∀ t ∈ tasks, t.owner < tasks.length

theorem Owned.after_poll (owned : Owned tasks)
    (polled : poll react memory tasks i answer = some (memory', tasks')) : Owned tasks' := by
  obtain ⟨task, task', spawned, found, _, turn, rfl⟩ := poll_turn polled
  have bound := owned task (List.mem_of_getElem? found)
  intro t member
  obtain ⟨k, lookup⟩ := List.mem_iff_getElem?.mp member
  simp only [List.length_append, List.length_set, List.length_map]
  rcases lookup_after lookup with ⟨rfl, rfl⟩ | ⟨_, before⟩ | ⟨_, _, frame, _, rfl⟩
  · rw [turn.owner]
    omega
  · have := owned t (List.mem_of_getElem? before)
    omega
  · simp only [Task.spawn]
    omega

theorem Owned.add_root (owned : Owned tasks) (frame : F) :
    Owned (tasks ++ [Task.spawn tasks.length frame]) := by
  intro t member
  rw [List.length_append, List.length_singleton]
  rcases List.mem_append.mp member with old | new
  · exact (owned t old).trans (Nat.lt_succ_self _)
  · rw [List.mem_singleton.mp new]
    exact Nat.lt_succ_self _

/-- A new root has its own frame, and nothing else changes. -/
theorem ownedFrames_add_root (owned : Owned tasks) (frame : F) (owner : Nat) :
    ownedFrames (tasks ++ [Task.spawn tasks.length frame]) owner =
      if owner = tasks.length then [frame] else ownedFrames tasks owner := by
  have root : ownedFrames [Task.spawn tasks.length frame] owner =
      if owner = tasks.length then [frame] else [] := by
    by_cases same : owner = tasks.length
    · simp [ownedFrames, framesOf, Task.spawn, Task.frames, Slot.frame?, same]
    · simp [ownedFrames, framesOf, Task.spawn, same, Ne.symm same]
  rw [ownedFrames, List.filter_append, framesOf, List.flatMap_append, ← framesOf, ← framesOf,
    ← ownedFrames, ← ownedFrames, root]
  split
  · rename_i same
    have none' : ownedFrames tasks owner = [] := by
      refine List.eq_nil_iff_forall_not_mem.mpr fun f member => ?_
      obtain ⟨t, isThere, isOwner, _⟩ := mem_ownedFrames.mp member
      have := owned t isThere
      omega
    rw [none', List.nil_append]
  · rw [List.append_nil]

end Machine
end ForkJoin
