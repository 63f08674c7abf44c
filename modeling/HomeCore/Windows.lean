import Mathlib

/-! Half-open windows that move forward, one after another. -/
namespace Windows
variable {α : Type} [LinearOrder α] {start finish : Nat → α}

/-- Between the end of a window and the start of the next. -/
def Gap (start finish : Nat → α) (k : Nat) : Set α := Set.Ioc (finish k) (start (k + 1))

/-- In a window and in the next. -/
def Overlap (start finish : Nat → α) (k : Nat) : Set α := Set.Ioc (start (k + 1)) (finish k)

section Forward
variable (starts : Monotone start) (finishes : Monotone finish)
include starts finishes

theorem gap_uncovered {k : Nat} {moment : α} (gap : moment ∈ Gap start finish k) (n : Nat) :
    moment ∉ Set.Ioc (start n) (finish n) := by
  rintro ⟨after, before⟩
  rcases Nat.lt_or_ge k n with later | earlier
  · exact absurd (lt_of_lt_of_le after gap.2) (not_lt_of_ge (starts later))
  · exact absurd (lt_of_lt_of_le gap.1 before) (not_lt_of_ge (finishes earlier))

theorem overlap_covered {k : Nat} {moment : α} (overlap : moment ∈ Overlap start finish k) :
    moment ∈ Set.Ioc (start k) (finish k) ∧ moment ∈ Set.Ioc (start (k + 1)) (finish (k + 1)) :=
  ⟨⟨lt_of_le_of_lt (starts k.le_succ) overlap.1, overlap.2⟩,
    ⟨overlap.1, overlap.2.trans (finishes k.le_succ)⟩⟩

omit finishes in
/-- Where only neighbours can overlap, the windows hold each moment exactly once
that is neither in a gap nor in an overlap. -/
theorem covered_once (apart : ∀ k, finish k ≤ start (k + 2)) (endless : ∀ moment, ∃ k, moment ≤ finish k)
    {moment : α} (afterFirst : finish 0 < moment) (noGap : ∀ k, moment ∉ Gap start finish k)
    (noOverlap : ∀ k, moment ∉ Overlap start finish k) :
    ∃! k, moment ∈ Set.Ioc (start k) (finish k) := by
  classical
  -- the first window that ends at or after the moment is the one
  let first := Nat.find (endless moment)
  have reached : moment ≤ finish first := Nat.find_spec (endless moment)
  have earliest : ∀ k < first, finish k < moment := fun k before =>
    lt_of_not_ge (Nat.find_min (endless moment) before)
  obtain ⟨previous, firstEq⟩ : ∃ previous, first = previous + 1 := by
    refine Nat.exists_eq_succ_of_ne_zero fun isZero => ?_
    rw [isZero] at reached
    exact absurd afterFirst (not_lt_of_ge reached)
  refine ⟨first, ⟨?_, reached⟩, ?_⟩
  · by_contra notAfter
    refine noGap previous ⟨earliest previous (by omega), ?_⟩
    rw [firstEq] at notAfter
    exact le_of_not_gt notAfter
  · rintro n ⟨after, before⟩
    by_contra differs
    rcases Nat.lt_trichotomy n first with earlier | same | later
    · exact absurd before (not_le_of_gt (earliest n earlier))
    · exact differs same
    · rcases Nat.eq_or_lt_of_le later with next | muchLater
      · rw [← next] at after
        exact noOverlap first ⟨after, reached⟩
      · have muchAfter := lt_of_le_of_lt ((apart first).trans (starts muchLater)) after
        exact absurd reached (not_le_of_gt muchAfter)

/-- So the moments of any kind after the first window are all covered exactly
once just when none is in a gap or in an overlap. -/
theorem covered_once_iff (apart : ∀ k, finish k ≤ start (k + 2))
    (endless : ∀ moment, ∃ k, moment ≤ finish k) (occurs : α → Prop) :
    (∀ moment, occurs moment → finish 0 < moment → ∃! k, moment ∈ Set.Ioc (start k) (finish k)) ↔
      ∀ moment, occurs moment → finish 0 < moment →
        ∀ k, moment ∉ Gap start finish k ∧ moment ∉ Overlap start finish k := by
  constructor
  · intro once moment isOccurrence afterFirst k
    obtain ⟨n, covered, only⟩ := once moment isOccurrence afterFirst
    refine ⟨fun gap => gap_uncovered starts finishes gap n covered, fun overlap => ?_⟩
    obtain ⟨here, next⟩ := overlap_covered starts finishes overlap
    have same := (only k here).trans (only (k + 1) next).symm
    omega
  · intro clear moment isOccurrence afterFirst
    exact covered_once starts apart endless afterFirst
      (fun k => (clear moment isOccurrence afterFirst k).1)
      (fun k => (clear moment isOccurrence afterFirst k).2)

end Forward
end Windows
