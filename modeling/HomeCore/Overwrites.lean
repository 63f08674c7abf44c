import Mathlib.Data.List.Basic
import Mathlib.Logic.Function.Basic

/-! Places that are written one after the other. -/
namespace Overwrites
variable {κ β : Type} [DecidableEq κ]

/-- What the places hold after the writes. -/
def written (held : κ → Option β) (writes : List (κ × β)) : κ → Option β :=
  writes.foldl (fun held write => Function.update held write.1 (some write.2)) held

variable {held : κ → Option β} {writes : List (κ × β)} {place : κ} {contents : β}

theorem written_cons (write : κ × β) :
    written held (write :: writes) = written (Function.update held write.1 (some write.2)) writes :=
  rfl

/-- A place that is not written keeps what it holds. -/
theorem written_of_apart (apart : ∀ write ∈ writes, write.1 ≠ place) :
    written held writes place = held place := by
  induction writes generalizing held with
  | nil => rfl
  | cons write rest ih =>
    rw [written_cons, ih fun later member => apart later (List.mem_cons_of_mem write member)]
    exact Function.update_of_ne (apart write List.mem_cons_self).symm _ _

/-- Where a place is only ever written the same, what it holds at first does not matter. -/
theorem written_of_same (same : ∀ write ∈ writes, write.1 = place → write.2 = contents)
    (comes : held place = some contents ∨ ∃ write ∈ writes, write.1 = place) :
    written held writes place = some contents := by
  induction writes generalizing held with
  | nil =>
    rcases comes with holds | ⟨write, member, _⟩
    · exact holds
    · cases member
  | cons write rest ih =>
    rw [written_cons]
    apply ih fun later member => same later (List.mem_cons_of_mem write member)
    by_cases here : write.1 = place
    · left
      rw [← here, Function.update_self, same write List.mem_cons_self here]
    · rw [Function.update_of_ne (Ne.symm here)]
      refine comes.imp_right ?_
      rintro ⟨later, member, isPlace⟩
      refine ⟨later, ?_, isPlace⟩
      apply (List.mem_cons.mp member).resolve_left
      rintro rfl
      exact here isPlace

end Overwrites
