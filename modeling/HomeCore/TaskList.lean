import Mathlib.Data.List.Basic

/-! Tasks that take turns: a list of which one entry is replaced when its task takes a
step, and which grows at its end when a task begins. -/
namespace TaskList
variable {τ α : Type} {tasks : List τ} {i j : Nat} {task old found : τ} {holds : τ → Option α}

theorem getElem?_set_cases (lookup : (tasks.set i task)[j]? = some found) :
    (j = i ∧ found = task) ∨ (j ≠ i ∧ tasks[j]? = some found) := by
  by_cases same : i = j
  · subst same
    rw [List.getElem?_set_self'] at lookup
    cases was : tasks[i]? with
    | none =>
      rw [was] at lookup
      cases lookup
    | some _ =>
      rw [was] at lookup
      exact .inl ⟨rfl, (Option.some.inj lookup).symm⟩
  · rw [List.getElem?_set_ne same] at lookup
    exact .inr ⟨Ne.symm same, lookup⟩

theorem getElem?_append_cases (lookup : (tasks ++ [task])[j]? = some found) :
    found = task ∨ tasks[j]? = some found := by
  rw [List.getElem?_append] at lookup
  split at lookup
  · exact .inr lookup
  · exact .inl (List.mem_singleton.mp (List.mem_of_getElem? lookup))

theorem countP_set_add {p : τ → Bool} (was : tasks[i]? = some old) :
    (tasks.set i task).countP p + (if p old then 1 else 0) =
      tasks.countP p + (if p task then 1 else 0) := by
  obtain ⟨inRange, isOld⟩ := List.getElem?_eq_some_iff.mp was
  rw [List.countP_set inRange, isOld]
  have counted : p old = true → 0 < tasks.countP p := fun holds =>
    List.countP_pos_iff.mpr ⟨old, List.mem_of_getElem? was, holds⟩
  split
  · have positive := counted ‹_›
    omega
  · omega

theorem countP_set_le {p : τ → Bool} (was : tasks[i]? = some old)
    (keeps : p task = true → p old = true) : (tasks.set i task).countP p ≤ tasks.countP p := by
  have sum : (tasks.set i task).countP p + _ = _ := countP_set_add was
  cases after : p task with
  | false =>
    rw [after, if_neg Bool.false_ne_true] at sum
    omega
  | true =>
    rw [after, keeps after] at sum
    omega

/-- A task that was counted and is not any more. -/
theorem countP_set_lt {p : τ → Bool} (was : tasks[i]? = some old) (had : p old = true)
    (lost : p task = false) : (tasks.set i task).countP p + 1 ≤ tasks.countP p := by
  have sum : (tasks.set i task).countP p + _ = _ := countP_set_add was
  rw [had, lost, if_pos rfl, if_neg Bool.false_ne_true] at sum
  omega

/-- A change of the entry that is there. -/
theorem modify_eq_set (was : tasks[i]? = some old) (change : τ → τ) :
    tasks.modify i change = tasks.set i (change old) := by
  refine List.ext_getElem? fun j => ?_
  rw [List.getElem?_modify, List.getElem?_set]
  by_cases same : i = j
  · obtain rfl := same
    rw [was, if_pos rfl, if_pos (List.getElem?_eq_some_iff.mp was).1]
    simp
  · simp [same]

section Names
variable {β : Type} {name : τ → β}

theorem map_set (was : tasks[i]? = some old) (same : name task = name old) :
    (tasks.set i task).map name = tasks.map name := by
  refine List.ext_getElem? fun j => ?_
  rw [List.getElem?_map, List.getElem?_map, List.getElem?_set]
  by_cases isHere : i = j
  · obtain rfl := isHere
    rw [if_pos rfl, if_pos (List.getElem?_eq_some_iff.mp was).1, was, Option.map_some, Option.map_some, same]
  · rw [if_neg isHere]

theorem index_of_name (distinct : (tasks.map name).Nodup) (was : tasks[i]? = some old)
    (lookup : tasks[j]? = some found) (same : name found = name old) : j = i := by
  have inside : j < (tasks.map name).length := by
    rw [List.length_map]
    exact (List.getElem?_eq_some_iff.mp lookup).1
  refine (List.getElem?_inj inside distinct).mp ?_
  rw [List.getElem?_map, List.getElem?_map, was, lookup, Option.map_some, Option.map_some, same]

/-- An entry after one was replaced is the new one, or an old one with another name. -/
theorem set_cases_named (distinct : (tasks.map name).Nodup) (was : tasks[i]? = some old)
    (lookup : (tasks.set i task)[j]? = some found) :
    (j = i ∧ found = task) ∨ (tasks[j]? = some found ∧ name found ≠ name old) := by
  rcases getElem?_set_cases lookup with isTask | ⟨apart, there⟩
  · exact .inl isTask
  · exact .inr ⟨there, fun same => apart (index_of_name distinct was there same)⟩

end Names

/-- No two tasks hold one thing. -/
def Exclusive (holds : τ → Option α) (tasks : List τ) : Prop :=
  ∀ (i j : Nat) a b x, tasks[i]? = some a → tasks[j]? = some b → holds a = some x →
    holds b = some x → i = j

/-- A step by which a task holds nothing it did not hold, or something no other task
holds. -/
theorem Exclusive.set (exclusive : Exclusive holds tasks) (was : tasks[i]? = some old)
    (keeps : ∀ x, holds task = some x →
      holds old = some x ∨ ∀ (j : Nat) other, tasks[j]? = some other → j ≠ i → holds other ≠ some x) :
    Exclusive holds (tasks.set i task) := by
  have others : ∀ (j : Nat) other x, j ≠ i → tasks[j]? = some other → holds other = some x →
      holds task ≠ some x := by
    intro j other x apart there held taken
    rcases keeps x taken with held' | unheld
    · exact apart (exclusive j i other old x there was held held')
    · exact unheld j other there apart held
  intro j k a b x first second heldFirst heldSecond
  rcases getElem?_set_cases first with ⟨rfl, rfl⟩ | ⟨apart, there⟩
  · rcases getElem?_set_cases second with ⟨rfl, rfl⟩ | ⟨apart, there⟩
    · rfl
    · exact (others k b x apart there heldSecond heldFirst).elim
  · rcases getElem?_set_cases second with ⟨rfl, rfl⟩ | ⟨_, also⟩
    · exact (others j a x apart there heldFirst heldSecond).elim
    · exact exclusive j k a b x there also heldFirst heldSecond

/-- A task begins that holds nothing. -/
theorem Exclusive.append (exclusive : Exclusive holds tasks) (free : holds task = none) :
    Exclusive holds (tasks ++ [task]) := by
  have earlier : ∀ {j : Nat} {found : τ} {x : α}, (tasks ++ [task])[j]? = some found →
      holds found = some x → tasks[j]? = some found := by
    intro j found x lookup held
    rcases getElem?_append_cases lookup with rfl | there
    · rw [free] at held
      cases held
    · exact there
  intro j k a b x first second heldFirst heldSecond
  exact exclusive j k a b x (earlier first heldFirst) (earlier second heldSecond) heldFirst heldSecond

end TaskList
