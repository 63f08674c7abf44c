import Mathlib

/-! Requests that are each answered once, at once or while they are pending. An answer says whose
request it answers, not which. -/
namespace Ledger
variable {α β : Type} {owner : α → β} {asked pending pending' : List α} {answered : List β}

/-- Every request was answered once or is still pending, and nothing else was answered. -/
def Balanced (owner : α → β) (asked pending : List α) (answered : List β) : Prop :=
  ∃ done, asked.Perm (done ++ pending) ∧ answered.Perm (done.map owner)

theorem balanced_nil : Balanced owner [] [] [] := ⟨[], .rfl, .rfl⟩

theorem Balanced.pending_perm (balanced : Balanced owner asked pending answered)
    (same : pending.Perm pending') : Balanced owner asked pending' answered := by
  obtain ⟨done, all, replies⟩ := balanced
  exact ⟨done, all.trans (same.append_left done), replies⟩

/-- A request comes in, and is pending. -/
theorem Balanced.ask (balanced : Balanced owner asked pending answered) (a : α) :
    Balanced owner (asked ++ [a]) (a :: pending) answered := by
  obtain ⟨done, all, replies⟩ := balanced
  refine ⟨done, ?_, replies⟩
  calc
    List.Perm (asked ++ [a]) (a :: asked) := List.perm_append_singleton a asked
    List.Perm _ (a :: (done ++ pending)) := all.cons a
    List.Perm _ (done ++ a :: pending) := List.perm_middle.symm

/-- A pending request is answered. -/
theorem Balanced.answer {a : α} (balanced : Balanced owner asked (a :: pending) answered) :
    Balanced owner asked pending (answered ++ [owner a]) := by
  obtain ⟨done, all, replies⟩ := balanced
  refine ⟨done ++ [a], ?_, ?_⟩
  · rwa [List.append_assoc, List.singleton_append]
  · rw [List.map_append, List.map_singleton]
    exact replies.append_right [owner a]

/-- A request is answered at once. -/
theorem Balanced.reply (balanced : Balanced owner asked pending answered) (a : α) :
    Balanced owner (asked ++ [a]) pending (answered ++ [owner a]) := (balanced.ask a).answer

/-- Once nothing is pending there are as many answers as requests. -/
theorem Balanced.length (balanced : Balanced owner asked pending answered) :
    asked.length = answered.length + pending.length := by
  obtain ⟨done, all, replies⟩ := balanced
  rw [all.length_eq, List.length_append, replies.length_eq, List.length_map]

end Ledger
