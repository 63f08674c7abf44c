import Mathlib

/-! Items taken once under each key, with the keys remembered from one round to the next. -/
namespace Once
variable {α κ : Type} [DecidableEq κ] (keyOf : α → κ)

/-- Passes over an item whose key is known, or else takes it. -/
def visit (done : List κ × List α) (item : α) : List κ × List α :=
  if keyOf item ∈ done.1 then done else (done.1 ++ [keyOf item], done.2 ++ [item])

/-- A round: the keys known by its end, and the items it took. -/
def round (known : List κ) (items : List α) : List κ × List α :=
  items.foldl (visit keyOf) (known, [])

variable {keyOf} {known : List κ} {items : List α}

/-- What a visit does to the known keys and to the count of a key among the taken ones. -/
theorem visit_known {done : List κ × List α} {item : α} {key : κ} :
    key ∈ (visit keyOf done item).1 ↔ key ∈ done.1 ∨ key = keyOf item := by
  rw [visit]
  split
  · rename_i isKnown
    constructor
    · exact .inl
    · rintro (there | rfl)
      · exact there
      · exact isKnown
  · rw [List.mem_append, List.mem_singleton]

theorem visit_count {done : List κ × List α} {item : α} {key : κ} :
    (visit keyOf done item).2.countP (keyOf · = key) =
      done.2.countP (keyOf · = key) + if key ∉ done.1 ∧ key = keyOf item then 1 else 0 := by
  rw [visit]
  by_cases isKnown : keyOf item ∈ done.1
  · rw [if_pos isKnown, if_neg]
    · rfl
    · rintro ⟨fresh, rfl⟩
      exact fresh isKnown
  · rw [if_neg isKnown, List.countP_append, List.countP_singleton]
    by_cases same : keyOf item = key
    · subst same
      simp [isKnown]
    · simp [same, Ne.symm same]

theorem mem_round {key : κ} :
    key ∈ (round keyOf known items).1 ↔ key ∈ known ∨ key ∈ items.map keyOf := by
  have visited (items : List α) (done : List κ × List α) :
      key ∈ (items.foldl (visit keyOf) done).1 ↔ key ∈ done.1 ∨ key ∈ items.map keyOf := by
    induction items generalizing done with
    | nil => simp
    | cons item rest ih =>
      rw [List.foldl_cons, ih, visit_known, List.map_cons, List.mem_cons, or_assoc]
  exact visited items _

/-- A round takes one item under each key that its items bring and that was not known. -/
theorem count_round {key : κ} :
    (round keyOf known items).2.countP (keyOf · = key) =
      if key ∉ known ∧ key ∈ items.map keyOf then 1 else 0 := by
  have visited (items : List α) (done : List κ × List α) :
      (items.foldl (visit keyOf) done).2.countP (keyOf · = key) =
        done.2.countP (keyOf · = key) + if key ∉ done.1 ∧ key ∈ items.map keyOf then 1 else 0 := by
    induction items generalizing done with
    | nil => simp
    | cons item rest ih =>
      rw [List.foldl_cons, ih, visit_count]
      simp only [visit_known, List.map_cons, List.mem_cons]
      by_cases isKnown : key ∈ done.1
      · simp [isKnown]
      · by_cases same : key = keyOf item
        · simp [same]
        · simp [isKnown, same]
  have start := visited items (known, [])
  rwa [List.countP_nil, Nat.zero_add] at start

end Once
