import Mathlib

/-! A map written one entry after another. Where the entries come in an order that is not fixed,
what is written is, as long as the entries for one key agree. -/
namespace Writes
variable {α β : Type} {cmp : α → α → Ordering}

/-- Each entry is inserted in turn, and replaces an earlier one for its key. -/
def written [Std.TransCmp cmp] (entries : List (α × β)) : Std.ExtTreeMap α β cmp :=
  entries.foldl (fun m entry => m.insert entry.1 entry.2) ∅

/-- The entries for one key agree. -/
def Agree (entries : List (α × β)) : Prop :=
  ∀ k v w, (k, v) ∈ entries → (k, w) ∈ entries → v = w

theorem written_concat [Std.TransCmp cmp] (entries : List (α × β)) (entry : α × β) :
    (written (entries ++ [entry]) : Std.ExtTreeMap α β cmp) = (written entries).insert entry.1 entry.2 := by
  rw [written, List.foldl_concat, written]

/-- The last entry is what is found under its key. -/
theorem getElem?_written_last [Std.TransCmp cmp] (entries : List (α × β)) (k : α) (v : β) :
    (written (entries ++ [(k, v)]) : Std.ExtTreeMap α β cmp)[k]? = some v := by
  rw [written_concat, Std.ExtTreeMap.getElem?_insert_self]

variable [Std.TransCmp cmp] [Std.LawfulEqCmp cmp] {entries other : List (α × β)} {k : α} {v : β}

theorem mem_of_getElem?_written (found : (written entries : Std.ExtTreeMap α β cmp)[k]? = some v) :
    (k, v) ∈ entries := by
  induction entries using List.reverseRecOn with
  | nil => simp [written] at found
  | append_singleton rest entry ih =>
    rw [written_concat, Std.ExtTreeMap.getElem?_insert] at found
    split at found
    · next same =>
      cases found
      rw [← Std.LawfulEqCmp.eq_of_compare same]
      exact List.mem_append_right rest List.mem_cons_self
    · exact List.mem_append_left _ (ih found)

theorem getElem?_written_of_mem (member : (k, v) ∈ entries) :
    ∃ w, (written entries : Std.ExtTreeMap α β cmp)[k]? = some w := by
  induction entries using List.reverseRecOn with
  | nil => cases member
  | append_singleton rest entry ih =>
    rw [written_concat, Std.ExtTreeMap.getElem?_insert]
    split
    · exact ⟨_, rfl⟩
    · next other =>
      rcases List.mem_append.mp member with earlier | last
      · exact ih earlier
      · rw [List.mem_singleton] at last
        exact absurd (by rw [← last]; exact Std.ReflCmp.compare_self) other

/-- Where the entries for a key agree, what is found is an entry, and every entry is found. -/
theorem getElem?_written_iff (agree : Agree entries) :
    (written entries : Std.ExtTreeMap α β cmp)[k]? = some v ↔ (k, v) ∈ entries := by
  refine ⟨mem_of_getElem?_written, fun member => ?_⟩
  have held : ∃ w, (written entries : Std.ExtTreeMap α β cmp)[k]? = some w := getElem?_written_of_mem member
  obtain ⟨w, found⟩ := held
  rw [found, agree k w v (mem_of_getElem?_written found) member]

theorem written_perm (agree : Agree entries) (perm : entries.Perm other) :
    (written entries : Std.ExtTreeMap α β cmp) = written other := by
  have agreeOther : Agree other := fun k v w first second =>
    agree k v w (perm.mem_iff.mpr first) (perm.mem_iff.mpr second)
  refine Std.ExtTreeMap.ext_getElem? fun key => Option.ext fun value => ?_
  rw [getElem?_written_iff agree, getElem?_written_iff agreeOther, perm.mem_iff]

end Writes
