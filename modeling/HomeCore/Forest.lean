import Mathlib.Data.Nat.Find
import Mathlib.Logic.Function.Basic

/-! Graphs in which everything has at most one parent, given by the parents. -/
namespace Forest
variable {α : Type} {parent : α → Option α}

/-- Where one is after climbing that many parents. -/
def walk (parent : α → Option α) (start : α) : Nat → Option α
  | 0 => some start
  | n + 1 => (walk parent start n).bind parent

/-- Climbing never comes back to where it has been. -/
def IsForest (parent : α → Option α) : Prop :=
  ∀ start i j place, i < j → walk parent start i = some place → walk parent start j ≠ some place

theorem walk_add (start : α) (i j : Nat) :
    walk parent start (i + j) = (walk parent start i).bind fun place => walk parent place j := by
  induction j with
  | zero => cases walk parent start i <;> simp [walk]
  | succ j ih =>
    rw [← Nat.add_assoc, walk, ih, Option.bind_assoc]
    rfl

theorem walk_parent {start above : α} (isParent : parent start = some above) (n : Nat) :
    walk parent start (n + 1) = walk parent above n := by
  rw [Nat.add_comm, walk_add]
  simp [walk, isParent]

theorem isForest_iff : IsForest parent ↔ ∀ start n, walk parent start (n + 1) ≠ some start := by
  constructor
  · intro forest start n
    exact forest start 0 (n + 1) start (Nat.succ_pos n) rfl
  · intro acyclic start i j place before atFirst again
    obtain ⟨n, rfl⟩ := Nat.exists_eq_add_of_lt before
    rw [Nat.add_assoc, walk_add, atFirst] at again
    exact acyclic place n again

/-- Taking parents away keeps a forest. -/
theorem IsForest.mono {fewer : α → Option α} (forest : IsForest parent)
    (kept : ∀ place above, fewer place = some above → parent place = some above) : IsForest fewer := by
  have walked : ∀ start n place, walk fewer start n = some place → walk parent start n = some place := by
    intro start n
    induction n with
    | zero => exact fun _ => id
    | succ n ih =>
      intro place arrived
      obtain ⟨below, reached, isParent⟩ := Option.bind_eq_some_iff.mp arrived
      rw [walk, ih below reached]
      exact kept below place isParent
  rw [isForest_iff] at forest ⊢
  intro start n back
  exact forest start n (walked start (n + 1) start back)

/-! ## Giving one place another parent -/

section Update
variable {other : α → Option α} {changed : α}
  (agree : ∀ place, place ≠ changed → parent place = other place)
include agree

/-- Two graphs that differ at one place are climbed alike until it is reached. -/
theorem walk_agree {start : α} {n : Nat} (unvisited : ∀ i < n, walk parent start i ≠ some changed) :
    walk parent start n = walk other start n := by
  induction n with
  | zero => rfl
  | succ n ih =>
    have same := ih fun i before => unvisited i (Nat.lt_succ_of_lt before)
    rw [walk, walk, ← same]
    cases reached : walk parent start n with
    | none => rfl
    | some place =>
      have apart : place ≠ changed := by
        rintro rfl
        exact unvisited n (Nat.lt_succ_self n) reached
      exact agree place apart

/-- So whether it is reached at all does not depend on what is above it. -/
theorem walk_reaches {start : α} (reaches : ∃ n, walk parent start n = some changed) :
    ∃ n, walk other start n = some changed := by
  classical
  refine ⟨Nat.find reaches, ?_⟩
  rw [← walk_agree agree fun i before => Nat.find_min reaches before]
  exact Nat.find_spec reaches

end Update

/-- A forest stays one under a new parent exactly when the place that gets it is
not already above that parent. -/
theorem isForest_update_iff [DecidableEq α] (forest : IsForest parent) (place above : α) :
    IsForest (Function.update parent place (some above)) ↔
      ∀ n, walk parent above n ≠ some place := by
  let updated := Function.update parent place (some above)
  have agree : ∀ elsewhere, elsewhere ≠ place → parent elsewhere = updated elsewhere := by
    intro elsewhere apart
    exact (Function.update_of_ne apart _ _).symm
  have isParent : updated place = some above := Function.update_self _ _ _
  rw [isForest_iff]
  constructor
  · intro acyclic n reaches
    obtain ⟨m, back⟩ := walk_reaches agree ⟨n, reaches⟩
    exact acyclic place m ((walk_parent isParent m).trans back)
  · intro apart start n back
    -- a cycle avoids the place, and was there before, or can be climbed from it
    by_cases visits : ∃ i ≤ n, walk updated start i = some place
    · obtain ⟨i, before, visit⟩ := visits
      obtain ⟨rest, rfl⟩ := Nat.exists_eq_add_of_le before
      have around : walk updated place (rest + 1 + i) = some place := by
        have rotated : walk updated start (i + (rest + 1 + i)) = some place := by
          rw [← Nat.add_assoc, ← Nat.add_assoc, walk_add, back]
          exact visit
        rwa [walk_add, visit] at rotated
      rw [Nat.add_right_comm, walk_parent isParent] at around
      obtain ⟨m, reached⟩ := walk_reaches (fun e h => (agree e h).symm) ⟨_, around⟩
      exact apart m reached
    · have unvisited : ∀ i < n + 1, walk updated start i ≠ some place := by
        intro i before visit
        exact visits ⟨i, Nat.le_of_lt_succ before, visit⟩
      rw [walk_agree (fun e h => (agree e h).symm) unvisited] at back
      exact isForest_iff.mp forest start n back

end Forest
