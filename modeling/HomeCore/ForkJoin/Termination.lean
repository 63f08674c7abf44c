import HomeCore.ForkJoin

/-! A machine can take a turn until all its tasks have ended, and where each turn
leaves only smaller frames behind, it cannot take turns forever. -/
namespace ForkJoin
open scoped List
variable {M F A : Type} {react : M → F → A → M × Reaction F} {ended : Nat → Option Ending} {next : Nat}
  {memory memory' : M} {answer : A} {task task' : Task F} {spawned : List F} {tasks tasks' : List (Task F)}
  {i : Nat}

/-! ## Progress -/

/-- Joins only await tasks that exist and came after their own. -/
def Wired (tasks : List (Task F)) : Prop :=
  ∀ i task handles, tasks[i]? = some task → .join handles ∈ task.stack →
    ∀ handle ∈ handles, i < handle ∧ handle < tasks.length

theorem Turn.handles (turn : Turn react ended next memory answer task memory' task' spawned)
    {handles' : List Nat} (member : .join handles' ∈ task'.stack) {handle : Nat}
    (among : handle ∈ handles') :
    (∃ handles, .join handles ∈ task.stack ∧ handle ∈ handles) ∨
      (next ≤ handle ∧ handle < next + spawned.length) := by
  cases turn with
  | finished top => exact .inl ⟨handles', member, among⟩
  | went top reacted =>
    rcases List.mem_append.mp member with made | kept
    · simp at made
    · exact .inl ⟨handles', by rw [top]; exact List.mem_cons_of_mem _ kept, among⟩
  | forked top reacted =>
    rcases List.mem_cons.mp member with new | kept
    · cases new
      exact .inr (List.mem_range'_1.mp among)
    · exact .inl ⟨handles', by rw [top]; exact List.mem_cons_of_mem _ kept, among⟩
  | aborted top reacted => simp at member
  | joined top => exact .inl ⟨handles', by rw [top]; exact List.mem_cons_of_mem _ member, among⟩
  | awaited top done =>
    rcases List.mem_cons.mp member with first | kept
    · cases first
      exact .inl ⟨_, by rw [top]; exact List.mem_cons_self, List.mem_cons_of_mem _ among⟩
    · exact .inl ⟨handles', by rw [top]; exact List.mem_cons_of_mem _ kept, among⟩
  | broke top done bad => simp at member

theorem Wired.after_poll (wired : Wired tasks)
    (polled : poll react memory tasks i answer = some (memory', tasks')) : Wired tasks' := by
  obtain ⟨task, task', spawned, found, _, turn, rfl⟩ := poll_turn polled
  have bound := (List.getElem?_eq_some_iff.mp found).1
  have longer : (tasks.set i task' ++ spawned.map (Task.spawn task.owner)).length =
      tasks.length + spawned.length := by simp
  intro k t handles lookup member handle among
  rw [longer]
  rcases lookup_after lookup with ⟨rfl, rfl⟩ | ⟨_, before⟩ | ⟨_, _, frame, _, rfl⟩
  · rcases turn.handles member among with ⟨old, isOld, amongOld⟩ | new
    · have := wired k task old found isOld handle amongOld
      omega
    · omega
  · have := wired k t handles before member handle among
    omega
  · simp [Task.spawn] at member

/-- Whatever is answered, some task of an unfinished machine can take a turn. -/
theorem Wired.progress (wired : Wired tasks) (memory : M) (answer : A) {k : Nat} {t : Task F}
    (found : tasks[k]? = some t) (running : t.ending = none) :
    ∃ i, (poll react memory tasks i answer).isSome := by
  -- a task that has to wait waits for one that came later
  obtain ⟨left, leftEq⟩ : ∃ left, left = tasks.length - k := ⟨_, rfl⟩
  induction left using Nat.strong_induction_on generalizing k t with
  | _ left ih =>
    have bound := (List.getElem?_eq_some_iff.mp found).1
    cases moved : advance react (endingOf tasks) tasks.length memory answer t with
    | some result => exact ⟨k, by simp [poll, found, moved]⟩
    | none =>
      unfold advance at moved
      split at moved
      · rename_i ended
        rw [running] at ended
        cases ended
      · cases moved
      · split at moved <;> cases moved
      · cases moved
      · rename_i handle handles below _ top
        split at moved
        · rename_i waits
          obtain ⟨later, inRange⟩ := wired k t (handle :: handles) found
            (by rw [top]; exact List.mem_cons_self) handle List.mem_cons_self
          have isThere : tasks[handle]? = some (tasks.get ⟨handle, inRange⟩) := by simp
          refine ih (tasks.length - handle) (by omega) isThere ?_ rfl
          rwa [endingOf_eq isThere] at waits
        · cases moved
        · cases moved

/-! ## Termination -/

/-- One turn of some task, whatever the memory holds by then. -/
def Turns (react : M → F → A → M × Reaction F) (tasks tasks' : List (Task F)) : Prop :=
  ∃ memory i answer memory', poll react memory tasks i answer = some (memory', tasks')

section Rank
variable {R : Type} [Preorder R] (rank : F → R)

/-- Every frame outweighs every join, and a join weighs the tasks it still awaits. -/
def Slot.weight : Slot F → WithBot R ×ₗ ℕ
  | .work frame => toLex (rank frame, 0)
  | .join handles => toLex (⊥, handles.length + 1)

def Task.weight (task : Task F) : Multiset (WithBot R ×ₗ ℕ) :=
  match task.ending with
  | some _ => 0
  | none => toLex (⊥, 0) ::ₘ (task.stack.map (Slot.weight rank) : Multiset _)

def weightOf (tasks : List (Task F)) : Multiset (WithBot R ×ₗ ℕ) :=
  (tasks.map (Task.weight rank)).sum

variable {rank}

theorem weight_bot_lt {n m : Nat} {r : R} :
    (toLex (⊥, n) : WithBot R ×ₗ ℕ) < toLex ((r : WithBot R), m) :=
  Prod.Lex.toLex_lt_toLex.mpr (.inl (WithBot.bot_lt_coe r))

theorem weight_rank_lt {r r' : R} (less : r < r') {n m : Nat} :
    (toLex ((r : WithBot R), n) : WithBot R ×ₗ ℕ) < toLex ((r' : WithBot R), m) :=
  Prod.Lex.toLex_lt_toLex.mpr (.inl (WithBot.coe_lt_coe.mpr less))

omit [Preorder R] in
theorem mem_weight_spawn {owner : Nat} {w : WithBot R ×ₗ ℕ}
    (member : w ∈ weightOf rank (spawned.map (Task.spawn owner))) :
    w = toLex (⊥, 0) ∨ ∃ frame ∈ spawned, w = toLex ((rank frame : WithBot R), 0) := by
  induction spawned with
  | nil => simp [weightOf] at member
  | cons frame spawned ih =>
    rw [List.map_cons, weightOf, List.map_cons, List.sum_cons, Multiset.mem_add] at member
    rcases member with first | others
    · have : w = toLex (⊥, 0) ∨ w = toLex ((rank frame : WithBot R), 0) := by
        simpa [Task.weight, Task.spawn, Slot.weight] using first
      exact this.imp id fun same => ⟨frame, List.mem_cons_self, same⟩
    · rcases ih others with bottom | ⟨f, among, same⟩
      · exact .inl bottom
      · exact .inr ⟨f, List.mem_cons_of_mem _ among, same⟩

theorem sum_set {α β : Type} [AddCommMonoid β] {f : α → β} {as : List α} {i : Nat} {a : α}
    (found : as[i]? = some a) :
    ∃ rest, (as.map f).sum = rest + f a ∧ ∀ b, ((as.set i b).map f).sum = rest + f b := by
  induction as generalizing i with
  | nil => simp at found
  | cons c as ih =>
    cases i with
    | zero =>
      simp only [List.getElem?_cons_zero, Option.some.injEq] at found
      subst found
      exact ⟨(as.map f).sum, by simp [add_comm], fun b => by simp [add_comm]⟩
    | succ i =>
      obtain ⟨rest, whole, changed⟩ := ih (by simpa using found)
      refine ⟨f c + rest, by simp [whole, add_assoc], fun b => ?_⟩
      rw [List.set_cons_succ, List.map_cons, List.sum_cons, changed, add_assoc]

/-- Some weights of `before` are traded for smaller ones. -/
def Traded (before after : Multiset (WithBot R ×ₗ ℕ)) : Prop :=
  ∃ kept less more, more ≠ 0 ∧ before = kept + more ∧ after = kept + less ∧
    ∀ w ∈ less, ∃ w' ∈ more, w < w'

theorem traded_end (is_running : task.ending = none) (itsEnding : task'.ending = some ending) :
    Traded (task.weight rank) (task'.weight rank) := by
  refine ⟨0, 0, task.weight rank, ?_, by simp, by simp [Task.weight, itsEnding], by simp⟩
  simp [Task.weight, is_running]

/-- The top of the stack gives way to lighter slots and lighter tasks. -/
theorem traded_top {top : Slot F} {below : List (Slot F)} (slots : List (Slot F))
    {spawnedWeight : Multiset (WithBot R ×ₗ ℕ)}
    (is_running : task.ending = none) (before : task.stack = top :: below)
    (after : task' = { task with stack := slots ++ below })
    (lighter : ∀ slot ∈ slots, slot.weight rank < top.weight rank)
    (spawnLighter : ∀ w ∈ spawnedWeight, w < top.weight rank) :
    Traded (task.weight rank) (task'.weight rank + spawnedWeight) := by
  refine ⟨toLex (⊥, 0) ::ₘ (below.map (Slot.weight rank) : Multiset _),
    (slots.map (Slot.weight rank) : Multiset _) + spawnedWeight, {top.weight rank}, by simp, ?_, ?_, ?_⟩
  · simp only [Task.weight, is_running, before, List.map_cons, ← Multiset.cons_coe,
      ← Multiset.singleton_add]
    abel
  · subst after
    simp only [Task.weight, is_running, List.map_append, ← Multiset.coe_add, ← Multiset.singleton_add]
    abel
  · intro w member
    refine ⟨_, Multiset.mem_singleton_self _, ?_⟩
    rcases Multiset.mem_add.mp member with fromSlot | fromSpawn
    · obtain ⟨slot, among, rfl⟩ := List.mem_map.mp (Multiset.mem_coe.mp fromSlot)
      exact lighter slot among
    · exact spawnLighter w fromSpawn

section Smaller
variable (smaller : ∀ memory frame answer,
  ∀ f ∈ (react memory frame answer).2.frames, rank f < rank frame)
include smaller

theorem Turn.traded (turn : Turn react ended next memory answer task memory' task' spawned)
    (is_running : task.ending = none) (owner : Nat) :
    Traded (task.weight rank)
      (task'.weight rank + weightOf rank (spawned.map (Task.spawn owner))) := by
  have nothing : weightOf rank (([] : List F).map (Task.spawn owner)) = 0 := rfl
  have noneSpawned : ∀ x, ∀ w ∈ weightOf rank (([] : List F).map (Task.spawn owner)), w < x := by
    intro x w member
    rw [nothing] at member
    exact absurd member (Multiset.notMem_zero w)
  cases turn with
  | finished top =>
    rw [nothing, add_zero]
    exact traded_end is_running rfl
  | aborted top reacted =>
    rw [nothing, add_zero]
    exact traded_end is_running rfl
  | broke top done bad =>
    rw [nothing, add_zero]
    exact traded_end is_running rfl
  | @went frame below _ frames top reacted =>
    refine traded_top (frames.map .work) is_running top rfl ?_ (noneSpawned _)
    intro slot member
    obtain ⟨f, among, rfl⟩ := List.mem_map.mp member
    exact weight_rank_lt (smaller memory frame answer f (by rwa [reacted]))
  | @forked frame below _ branches top reacted =>
    refine traded_top [_] is_running top rfl ?_ ?_
    · intro slot member
      rw [List.mem_singleton.mp member]
      exact weight_bot_lt
    · intro w member
      rcases mem_weight_spawn member with rfl | ⟨f, among, rfl⟩
      · exact weight_bot_lt
      · exact weight_rank_lt (smaller memory frame answer f (by rwa [reacted]))
  | joined top => exact traded_top [] is_running top rfl (by simp) (noneSpawned _)
  | awaited top done =>
    refine traded_top [_] is_running top rfl ?_ (noneSpawned _)
    intro slot member
    rw [List.mem_singleton.mp member]
    exact Prod.Lex.toLex_lt_toLex.mpr (.inr ⟨rfl, by simp⟩)

theorem Turns.lighter (turns : Turns react tasks tasks') :
    (weightOf rank tasks').IsDershowitzMannaLT (weightOf rank tasks) := by
  obtain ⟨memory, i, answer, memory', polled⟩ := turns
  obtain ⟨task, task', spawned, found, is_running, turn, rfl⟩ := poll_turn polled
  obtain ⟨others, whole, changed⟩ := sum_set (f := Task.weight rank) found
  obtain ⟨kept, less, more, some', before, after, trade⟩ :=
    turn.traded smaller is_running task.owner
  refine ⟨others + kept, less, more, some', ?_, ?_, trade⟩
  · rw [weightOf, List.map_append, List.sum_append, changed, add_assoc, ← weightOf, after, add_assoc]
  · rw [weightOf, whole, before, add_assoc]

/-- Where every reaction is smaller than its frame, no machine goes on for ever. -/
theorem turns_wellFounded [WellFoundedLT R] :
    WellFounded fun tasks' tasks => Turns react tasks tasks' :=
  Subrelation.wf (fun turns => Turns.lighter smaller turns)
    (InvImage.wf (weightOf rank) Multiset.wellFounded_isDershowitzMannaLT)

end Smaller
end Rank

end ForkJoin
