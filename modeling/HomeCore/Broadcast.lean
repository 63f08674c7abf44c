import Mathlib.Data.List.Basic

/-! A receiver of a broadcast channel that keeps only so many of the latest messages. One that has
fallen further behind is told so once, and goes on with the oldest that is kept. -/
namespace Broadcast
variable {α : Type}

structure Receiver (α : Type) where
  /-- What was sent since it subscribed, the oldest first. -/
  sent : List α
  /-- How many of these it has passed. -/
  position : Nat

inductive Received (α : Type) where
  | message (a : α)
  | lagged
  | pending

namespace Receiver

def subscribed : Receiver α := ⟨[], 0⟩

def send (r : Receiver α) (a : α) : Receiver α := { r with sent := r.sent ++ [a] }

/-- More was sent than is kept. -/
def Lags (capacity : Nat) (r : Receiver α) : Prop := r.position + capacity < r.sent.length

instance (capacity : Nat) (r : Receiver α) : Decidable (r.Lags capacity) := inferInstanceAs (Decidable (_ < _))

def recv (capacity : Nat) (r : Receiver α) : Received α × Receiver α :=
  if r.Lags capacity then (.lagged, { r with position := r.sent.length - capacity })
  else match r.sent[r.position]? with
    | some a => (.message a, { r with position := r.position + 1 })
    | none => (.pending, r)

@[simp] theorem send_sent (r : Receiver α) (a : α) : (r.send a).sent = r.sent ++ [a] := rfl

@[simp] theorem send_position (r : Receiver α) (a : α) : (r.send a).position = r.position := rfl

theorem recv_lagged {capacity : Nat} {r : Receiver α} (lags : r.Lags capacity) :
    r.recv capacity = (.lagged, { r with position := r.sent.length - capacity }) := if_pos lags

/-- A receiver that keeps up gets the next message, or there is none. -/
theorem recv_cases {capacity : Nat} {r : Receiver α} (keepsUp : ¬ r.Lags capacity) :
    (∃ a, r.sent[r.position]? = some a ∧ r.recv capacity = (.message a, { r with position := r.position + 1 })) ∨
      r.sent.length ≤ r.position ∧ r.recv capacity = (.pending, r) := by
  rw [recv, if_neg keepsUp]
  cases found : r.sent[r.position]? with
  | none => exact .inr ⟨List.getElem?_eq_none_iff.mp found, rfl⟩
  | some a => exact .inl ⟨a, rfl, rfl⟩

/-- None of the messages that were passed is of the kind. -/
def Passed (unwanted : α → Prop) (r : Receiver α) : Prop := ∀ a ∈ r.sent.take r.position, unwanted a

theorem passed_send {unwanted : α → Prop} {r : Receiver α} (passed : r.Passed unwanted)
    (within : r.position ≤ r.sent.length) (a : α) : (r.send a).Passed unwanted := by
  intro b member
  rw [send_sent, send_position, List.take_append_of_le_length within] at member
  exact passed b member

theorem passed_next {unwanted : α → Prop} {r : Receiver α} {a : α} (passed : r.Passed unwanted)
    (found : r.sent[r.position]? = some a) (isUnwanted : unwanted a) :
    Passed unwanted { r with position := r.position + 1 } := by
  intro b member
  rw [List.take_add_one, found, Option.toList_some] at member
  rcases List.mem_append.mp member with earlier | last
  · exact passed b earlier
  · rw [List.mem_singleton.mp last]
    exact isUnwanted

/-- What has passed all messages has passed each. -/
theorem passed_all {unwanted : α → Prop} {r : Receiver α} (passed : r.Passed unwanted)
    (all : r.sent.length ≤ r.position) : ∀ a ∈ r.sent, unwanted a := by
  rwa [Passed, List.take_of_length_le all] at passed

end Receiver
end Broadcast
