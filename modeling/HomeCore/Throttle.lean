import Mathlib.Data.List.Basic

/-! Moments let through one after another, each only while fewer than so many of the earlier
ones are less than a width old. -/
namespace Throttle
variable {limit width now later : Nat} {moments others : List Nat}

/-- The moments that are less than a width old. -/
def recent (width now : Nat) (moments : List Nat) : List Nat := moments.filter (now - · < width)

/-- Each moment is no earlier than those before it, of which fewer than the limit were recent. -/
inductive Spaced (limit width : Nat) : List Nat → Prop where
  | nil : Spaced limit width []
  | snoc {moments : List Nat} {now : Nat} (spaced : Spaced limit width moments)
    (latest : ∀ t ∈ moments, t ≤ now) (room : (recent width now moments).length < limit) :
    Spaced limit width (moments ++ [now])

theorem mem_recent {t : Nat} : t ∈ recent width now moments ↔ t ∈ moments ∧ now - t < width := by
  simp [recent]

theorem recent_append :
    recent width now (moments ++ others) = recent width now moments ++ recent width now others :=
  List.filter_append ..

/-- What is no longer recent does not become so again. -/
theorem recent_recent (inOrder : now ≤ later) :
    recent width later (recent width now moments) = recent width later moments := by
  unfold recent
  rw [List.filter_filter]
  refine List.filter_congr fun t _ => ?_
  rw [Bool.eq_iff_iff, Bool.and_eq_true, decide_eq_true_eq, decide_eq_true_eq]
  omega

/-- No more than the limit are ever within one width. -/
theorem Spaced.bounded (spaced : Spaced limit width moments) (start : Nat) :
    (moments.filter fun t => start ≤ t ∧ t < start + width).length ≤ limit := by
  induction spaced with
  | nil => exact Nat.zero_le limit
  | @snoc moments now _ latest room ih =>
    rw [List.filter_append, List.length_append]
    by_cases within : start ≤ now ∧ now < start + width
    · -- the others within the width were recent when this one came
      have others : (moments.filter fun t => start ≤ t ∧ t < start + width).length ≤
          (recent width now moments).length := by
        unfold recent
        rw [← List.countP_eq_length_filter, ← List.countP_eq_length_filter]
        refine List.countP_mono_left fun t _ inside => ?_
        rw [decide_eq_true_eq] at inside ⊢
        omega
      rw [List.filter_cons_of_pos (by simpa using within), List.filter_nil, List.length_singleton]
      omega
    · rw [List.filter_cons_of_neg (by simpa using within), List.filter_nil, List.length_nil]
      exact ih

theorem Spaced.recent_le (spaced : Spaced limit width moments) (latest : ∀ t ∈ moments, t ≤ now) :
    (recent width now moments).length ≤ limit := by
  refine Nat.le_trans ?_ (spaced.bounded (now + 1 - width))
  unfold recent
  rw [← List.countP_eq_length_filter, ← List.countP_eq_length_filter]
  refine List.countP_mono_left fun t member young => ?_
  have past := latest t member
  rw [decide_eq_true_eq] at young ⊢
  omega

/-- Once the oldest recent moment is a width old there is room again. -/
theorem Spaced.room (spaced : Spaced limit width moments) (latest : ∀ t ∈ moments, t ≤ now)
    {oldest : Nat} {rest : List Nat} (recently : recent width now moments = oldest :: rest)
    (inOrder : now ≤ later) (aged : width ≤ later - oldest) :
    (recent width later moments).length < limit := by
  have full := spaced.recent_le latest
  rw [recently, List.length_cons] at full
  rw [← recent_recent inOrder, recently]
  have gone : recent width later (oldest :: rest) = recent width later rest :=
    List.filter_cons_of_neg (by simpa using aged)
  have fewer : (recent width later rest).length ≤ rest.length := List.length_filter_le ..
  rw [gone]
  omega

end Throttle
