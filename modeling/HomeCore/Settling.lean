import Mathlib.Logic.Function.Iterate
import Mathlib.Order.Basic

/-! A pass that is repeated until it changes nothing. -/
namespace Settling
variable {α : Type} {pass : α → α} {a b c : α}

/-- The loop, begun with the first, ends with the second. -/
inductive Settles (pass : α → α) : α → α → Prop where
  | done {a : α} (same : pass a = a) : Settles pass a a
  | again {a b : α} (changed : pass a ≠ a) (settles : Settles pass (pass a) b) : Settles pass a b

theorem Settles.fixed (settles : Settles pass a b) : pass b = b := by
  induction settles with
  | done same => exact same
  | again _ _ ih => exact ih

/-- Where each pass that changes something leaves less to do, as many passes as there is to do
come to the loop's end. -/
theorem settles_iterate {left : α → Nat} (less : ∀ a, pass a ≠ a → left (pass a) < left a) {n : Nat}
    (enough : left a ≤ n) : Settles pass a (pass^[n] a) := by
  induction n generalizing a with
  | zero =>
    by_cases same : pass a = a
    · exact .done same
    · have shrinks := less a same
      omega
  | succ n ih =>
    by_cases same : pass a = a
    · rw [Function.iterate_fixed same]
      exact .done same
    · have shrinks := less a same
      exact .again same (ih (by omega))

/-- What a pass keeps is kept by the loop. -/
theorem Settles.kept (settles : Settles pass a b) (good : α → Prop) (start : good a)
    (keeps : ∀ a, good a → good (pass a)) : good b := by
  induction settles with
  | done _ => exact start
  | again _ _ ih => exact ih (keeps _ start)

end Settling
