import Mathlib

/-! Journals of a set: a set that is only known by the changes announced of it.
A change must fit the set it is heard in, so a journal that replays at all says
of each element in turn that it came, changed and went. -/
namespace Journal
variable {α : Type} [DecidableEq α]

inductive Change (α : Type) where
  | added (a : α)
  | changed (a : α)
  | removed (a : α)
  deriving DecidableEq

/-- The set after a change; `none` where the change does not fit it. -/
def hear (held : Finset α) : Change α → Option (Finset α)
  | .added a => if a ∈ held then none else some (insert a held)
  | .changed a => if a ∈ held then some held else none
  | .removed a => if a ∈ held then some (held.erase a) else none

def replay (held : Finset α) (changes : List (Change α)) : Option (Finset α) :=
  changes.foldlM hear held

@[simp] theorem replay_nil (held : Finset α) : replay held [] = some held := rfl

@[simp] theorem replay_cons (held : Finset α) (change : Change α) (rest : List (Change α)) :
    replay held (change :: rest) = (hear held change).bind (replay · rest) := rfl

theorem replay_append (held : Finset α) (first second : List (Change α)) :
    replay held (first ++ second) = (replay held first).bind (replay · second) :=
  List.foldlM_append

/-- Elements announced as added where the set lacks them, and as changed where
it has them, join the set. -/
theorem replay_announced {held : Finset α} {news : List α} (distinct : news.Nodup) :
    replay held (news.map fun a => if a ∈ held then .changed a else .added a) =
      some (held ∪ news.toFinset) := by
  induction news generalizing held with
  | nil => simp
  | cons a rest ih =>
    obtain ⟨fresh, distinct⟩ := List.nodup_cons.mp distinct
    -- The head alters the set only at `a`, which no later announcement names.
    have later : rest.map (fun b => if b ∈ held then Change.changed b else .added b) =
        rest.map fun b => if b ∈ insert a held then Change.changed b else .added b := by
      refine List.map_congr_left fun b member => ?_
      have other : b ≠ a := by
        rintro rfl
        exact fresh member
      simp only [Finset.mem_insert, other, false_or]
    have heard : hear held (if a ∈ held then .changed a else .added a) = some (insert a held) := by
      by_cases known : a ∈ held
      · simp only [if_pos known, hear, Finset.insert_eq_of_mem known]
      · simp only [if_neg known, hear]
    rw [List.map_cons, replay_cons, heard, Option.bind_some, later, ih distinct]
    simp only [List.toFinset_cons, Finset.insert_union, Finset.union_insert]

theorem replay_removed {held : Finset α} {gone : List α} (distinct : gone.Nodup)
    (known : ∀ a ∈ gone, a ∈ held) : replay held (gone.map .removed) = some (held \ gone.toFinset) := by
  induction gone generalizing held with
  | nil => simp
  | cons a rest ih =>
    obtain ⟨fresh, distinct⟩ := List.nodup_cons.mp distinct
    have still : ∀ b ∈ rest, b ∈ held.erase a := by
      intro b member
      refine Finset.mem_erase.mpr ⟨?_, known b (List.mem_cons_of_mem a member)⟩
      rintro rfl
      exact fresh member
    simp only [List.map_cons, replay_cons, hear, if_pos (known a List.mem_cons_self),
      Option.bind_some, ih distinct still]
    congr 1
    ext b
    simp only [Finset.mem_sdiff, Finset.mem_erase, List.toFinset_cons, Finset.mem_insert,
      List.mem_toFinset]
    tauto

/-- The difference of two sets, announced element by element, turns one into the
other. Elements in both may be announced as changed or left unsaid. -/
theorem replay_difference {before after : Finset α} {news gone : List α}
    (distinctNews : news.Nodup) (distinctGone : gone.Nodup)
    (told : ∀ a ∈ news, a ∈ after) (complete : ∀ a ∈ after, a ∉ before → a ∈ news)
    (ended : ∀ a, a ∈ gone ↔ a ∈ before ∧ a ∉ after) :
    replay before ((news.map fun a => if a ∈ before then .changed a else .added a) ++
      gone.map .removed) = some after := by
  have known : ∀ a ∈ gone, a ∈ before ∪ news.toFinset := by
    intro a member
    exact Finset.mem_union_left _ ((ended a).mp member).1
  rw [replay_append, replay_announced distinctNews, Option.bind_some,
    replay_removed distinctGone known]
  congr 1
  ext a
  simp only [Finset.mem_sdiff, Finset.mem_union, List.mem_toFinset, ended]
  have := told a
  have := complete a
  tauto

end Journal
