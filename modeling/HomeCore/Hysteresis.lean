import Mathlib

/-! A switch with hysteresis: on at or below one bound, and off again only from another. It is kept
as a latch, or worked out anew from the last answer; and the log of a switch that goes on and off. -/
namespace Hysteresis

section Switch
variable {α : Type*} [LinearOrder α] (bound release : α)

/-- The switch as a latch: what it was decides which of the two bounds is read. -/
def latch (was : Bool) (reading : α) : Bool :=
  if was then decide (reading < release) else decide (reading ≤ bound)

/-- The switch worked out from its last answer. -/
def answer (was : Bool) (reading : α) : Bool :=
  decide (reading ≤ bound) || (was && decide (reading < release))

/-- Asking again changes nothing. -/
theorem answer_answer (was : Bool) (reading : α) :
    answer bound release (answer bound release was reading) reading = answer bound release was reading := by
  by_cases low : reading ≤ bound
  · simp [answer, low]
  · simp [answer, low]

/-- The two agree on a reading between the bounds exactly when they agreed before; and a release that
is not above the bound sets them apart for a reading on both sides. -/
theorem latch_eq_answer_iff (latched answered : Bool) (reading : α) :
    latch bound release latched reading = answer bound release answered reading ↔
      (latched = answered ∨ reading ≤ bound ∨ release ≤ reading) ∧
        (latched = true → reading ≤ bound → reading < release) := by
  by_cases low : reading ≤ bound <;> by_cases high : reading < release
  all_goals cases latched <;> cases answered <;> simp [latch, answer, low, high]
  all_goals first
    | exact not_le_of_gt high
    | exact le_of_not_gt high

end Switch

section Log
variable {ε : Type*} {on off : ε} {log : List ε}

/-- The log goes on and off by turns, first on, and the last entry says where the switch is. -/
structure Logged (on : ε) (log : List ε) (level : Bool) : Prop where
  alternates : log.IsChain (· ≠ ·)
  starts : ∀ first ∈ log.head?, first = on
  last : level = true ↔ log.getLast? = some on

theorem Logged.nil : Logged on ([] : List ε) false where
  alternates := List.IsChain.nil
  starts := by simp
  last := by simp

theorem Logged.switchOn (logged : Logged on log false) : Logged on (log ++ [on]) true where
  alternates := by
    rw [List.isChain_append]
    refine ⟨logged.alternates, List.isChain_singleton on, ?_⟩
    rintro last isLast _ ⟨⟩ rfl
    exact Bool.false_ne_true (logged.last.mpr isLast)
  starts := by
    cases log with
    | nil => simp
    | cons first rest => exact logged.starts
  last := by simp

theorem Logged.switchOff (differ : on ≠ off) (logged : Logged on log true) : Logged on (log ++ [off]) false where
  alternates := by
    rw [List.isChain_append]
    refine ⟨logged.alternates, List.isChain_singleton off, ?_⟩
    rintro last isLast _ ⟨⟩ rfl
    rw [logged.last.mp rfl] at isLast
    exact differ (Option.some.inj isLast)
  starts := by
    cases log with
    | nil => cases logged.last.mp rfl
    | cons first rest => exact logged.starts
  last := by simp [differ.symm]

end Log
end Hysteresis
