import Mathlib.Algebra.Order.Floor.Semifield
import Mathlib.Data.Rat.Floor

/-! Loops whose body can fail, over a list and over a range of numbers; a range cut at
the multiples of a fractional stride, and one pick out of each bucket between the cuts. -/
namespace Ranges

section Loops
variable {σ : Type*}

/-- A loop whose body keeps an invariant of the index and the state does not fail. -/
theorem foldlM_range' (body : σ → Nat → Option σ) (Inv : Nat → σ → Prop) (first count : Nat) (s : σ)
    (start : Inv first s)
    (step : ∀ j s, first ≤ j → j < first + count → Inv j s → ∃ after, body s j = some after ∧ Inv (j + 1) after) :
    ∃ after, (List.range' first count).foldlM body s = some after ∧ Inv (first + count) after := by
  induction count generalizing first s with
  | zero => exact ⟨s, rfl, start⟩
  | succ count ih =>
    obtain ⟨next, stepped, kept⟩ := step first s (Nat.le_refl first) (by omega) start
    have later (j : Nat) (s : σ) (from_ : first + 1 ≤ j) (within : j < first + 1 + count) :=
      step j s (by omega) (by omega)
    obtain ⟨after, ran, holds⟩ := ih (first + 1) next kept later
    refine ⟨after, ?_, ?_⟩
    · rw [List.range'_succ, List.foldlM_cons, stepped]
      exact ran
    · rwa [show first + (count + 1) = first + 1 + count by omega]

theorem mapM_some {α β : Type*} {f : α → Option β} {items : List α}
    (all : ∀ item ∈ items, (f item).isSome) :
    ∃ values, items.mapM f = some values ∧ values.length = items.length := by
  induction items with
  | nil => exact ⟨[], rfl, rfl⟩
  | cons item rest ih =>
    obtain ⟨value, first⟩ := Option.isSome_iff_exists.mp (all item List.mem_cons_self)
    obtain ⟨values, later, counted⟩ := ih fun other member => all other (List.mem_cons_of_mem _ member)
    refine ⟨value :: values, ?_, ?_⟩
    · rw [List.mapM_cons, first, later]
      rfl
    · rw [List.length_cons, List.length_cons, counted]

end Loops

/-- Where bucket `i` starts when `n` items are cut into `m` buckets. -/
def cut (n m i : Nat) : Nat := i * n / m

section Cuts
variable {n m : Nat}

theorem floor_stride {α : Type*} [Field α] [LinearOrder α] [IsStrictOrderedRing α] [FloorSemiring α]
    (n m i : Nat) : ⌊(i : α) * ((n : α) / (m : α))⌋₊ = cut n m i := by
  rw [← mul_div_assoc, ← Nat.cast_mul, Nat.floor_div_eq_div, cut]

theorem cut_zero : cut n m 0 = 0 := by simp [cut]

theorem cut_last (some_ : 0 < m) : cut n m m = n := Nat.mul_div_cancel_left n some_

theorem cut_lt_succ (some_ : 0 < m) (enough : m ≤ n) (i : Nat) : cut n m i < cut n m (i + 1) := by
  -- a stride is at least one whole item
  have step : i * n + m ≤ (i + 1) * n := by
    rw [Nat.succ_mul]
    omega
  calc cut n m i < i * n / m + 1 := Nat.lt_succ_self _
    _ = (i * n + m) / m := (Nat.add_div_right _ some_).symm
    _ ≤ cut n m (i + 1) := Nat.div_le_div_right step

theorem cut_strictMono (some_ : 0 < m) (enough : m ≤ n) : StrictMono (cut n m) :=
  strictMono_nat_of_lt_succ (cut_lt_succ some_ enough)

end Cuts

section Picks
variable {α : Type*} [LinearOrder α] {start : Nat → α} {picks : List α}

/-- The picks lie in the first buckets, one in each. -/
def Picked (start : Nat → α) (picks : List α) : Prop :=
  ∀ i pick, picks[i]? = some pick → start i ≤ pick ∧ pick < start (i + 1)

theorem Picked.nil : Picked start ([] : List α) := by
  intro i pick found
  cases found

theorem Picked.concat {pick : α} (picked : Picked start picks) (after : start picks.length ≤ pick)
    (before : pick < start (picks.length + 1)) : Picked start (picks ++ [pick]) := by
  intro i found foundAt
  rcases Nat.lt_trichotomy i picks.length with earlier | same | later
  · rw [List.getElem?_append_left earlier] at foundAt
    exact picked i found foundAt
  · rw [same, List.getElem?_concat_length] at foundAt
    cases foundAt
    exact same ▸ ⟨after, before⟩
  · rw [List.getElem?_eq_none (by simp; omega)] at foundAt
    cases foundAt

variable (starts : StrictMono start)
include starts

theorem Picked.increasing (picked : Picked start picks) : picks.Pairwise (· < ·) := by
  rw [List.pairwise_iff_getElem]
  intro i j inI inJ earlier
  have inBucket := picked i _ (List.getElem?_eq_getElem inI)
  have inLater := picked j _ (List.getElem?_eq_getElem inJ)
  exact inBucket.2.trans_le ((starts.monotone earlier).trans inLater.1)

theorem Picked.lt_end (picked : Picked start picks) {pick : α} (member : pick ∈ picks) :
    pick < start picks.length := by
  obtain ⟨i, within, rfl⟩ := List.getElem_of_mem member
  have inBucket := picked i _ (List.getElem?_eq_getElem within)
  exact inBucket.2.trans_le (starts.monotone within)

theorem Picked.first_le (picked : Picked start picks) {pick : α} (member : pick ∈ picks) :
    start 0 ≤ pick := by
  obtain ⟨i, within, rfl⟩ := List.getElem_of_mem member
  have inBucket := picked i _ (List.getElem?_eq_getElem within)
  exact (starts.monotone i.zero_le).trans inBucket.1

theorem Picked.once (picked : Picked start picks) {i : Nat} (within : i < picks.length) :
    ∃! pick, pick ∈ picks ∧ start i ≤ pick ∧ pick < start (i + 1) := by
  have inBucket := picked i _ (List.getElem?_eq_getElem within)
  refine ⟨picks[i], ⟨List.getElem_mem within, inBucket⟩, ?_⟩
  rintro other ⟨member, after, before⟩
  obtain ⟨j, there, rfl⟩ := List.getElem_of_mem member
  have inOther := picked j _ (List.getElem?_eq_getElem there)
  -- a pick of another bucket is past the end of this one or before its start
  rcases Nat.lt_trichotomy j i with earlier | same | later
  · exact absurd ((starts.monotone earlier).trans after) (not_le_of_gt inOther.2)
  · simp only [same]
  · exact absurd ((starts.monotone later).trans inOther.1) (not_le_of_gt before)

end Picks

end Ranges
