import Mathlib.Data.List.Basic
import Mathlib.Data.List.Nodup

/-! A directory: files with names of their own, in the order in which they are listed. A
file that is written keeps its place, and a new one comes anywhere among the others. What is
looked for is read out of the first file that has it. -/
namespace Directory
variable {κ β ρ : Type}

structure Dir (κ β : Type) where
  files : List (κ × β)
  distinct : (files.map Prod.fst).Nodup

namespace Dir

theorem names_inserted (files : List (κ × β)) (place : Nat) (name : κ) (contents : β) :
    ((files.take place ++ (name, contents) :: files.drop place).map Prod.fst).Perm
      (name :: files.map Prod.fst) := by
  rw [List.map_append, List.map_cons]
  refine List.perm_middle.trans ?_
  rw [← List.map_append, List.take_append_drop]

variable [DecidableEq κ]

def has (dir : Dir κ β) (name : κ) : Bool := decide (name ∈ dir.files.map Prod.fst)

/-- The file's contents are replaced, if there is such a file. -/
def overwritten (files : List (κ × β)) (name : κ) (contents : β) : List (κ × β) :=
  files.map fun file => if file.1 = name then (name, contents) else file

theorem names_overwritten (files : List (κ × β)) (name : κ) (contents : β) :
    (overwritten files name contents).map Prod.fst = files.map Prod.fst := by
  rw [overwritten, List.map_map]
  refine List.map_congr_left fun file _ => ?_
  by_cases same : file.1 = name
  · simp [same]
  · simp [same]

/-- `place` is where a new file comes in the listing. -/
def put (dir : Dir κ β) (place : Nat) (name : κ) (contents : β) : Dir κ β :=
  if there : name ∈ dir.files.map Prod.fst then
    ⟨overwritten dir.files name contents, by
      rw [names_overwritten]
      exact dir.distinct⟩
  else
    ⟨dir.files.take place ++ (name, contents) :: dir.files.drop place,
      (names_inserted dir.files place name contents).nodup_iff.mpr
        (List.nodup_cons.mpr ⟨there, dir.distinct⟩)⟩

def remove (dir : Dir κ β) (name : κ) : Dir κ β where
  files := dir.files.filter fun file => file.1 ≠ name
  distinct := dir.distinct.sublist (List.filter_sublist.map Prod.fst)

/-- What the first file has of which `read` makes something. -/
def first (dir : Dir κ β) (read : κ × β → Option ρ) : Option ρ := dir.files.findSome? read

variable {dir : Dir κ β} {place : Nat} {name : κ} {contents : β} {file : κ × β}
  {read : κ × β → Option ρ} {found : ρ}

theorem mem_put : file ∈ (dir.put place name contents).files ↔
    file = (name, contents) ∨ (file ∈ dir.files ∧ file.1 ≠ name) := by
  rw [put]
  split
  next there =>
    obtain ⟨old, member, isName⟩ := List.mem_map.mp there
    simp only [overwritten, List.mem_map]
    constructor
    · rintro ⟨before, was, rfl⟩
      by_cases same : before.1 = name
      · rw [if_pos same]
        exact .inl rfl
      · rw [if_neg same]
        exact .inr ⟨was, same⟩
    · rintro (rfl | ⟨was, apart⟩)
      · exact ⟨old, member, if_pos isName⟩
      · exact ⟨file, was, if_neg apart⟩
  next absent =>
    have split : file ∈ dir.files.take place ++ (name, contents) :: dir.files.drop place ↔
        file = (name, contents) ∨ file ∈ dir.files := by
      rw [List.perm_middle.mem_iff, List.mem_cons, List.take_append_drop]
    rw [split]
    refine or_congr_right ⟨fun member => ⟨member, ?_⟩, And.left⟩
    rintro rfl
    exact absent (List.mem_map_of_mem member)

theorem mem_remove : file ∈ (dir.remove name).files ↔ file ∈ dir.files ∧ file.1 ≠ name := by
  simp [remove]

omit [DecidableEq κ] in
theorem eq_of_name {other : κ × β} (member : file ∈ dir.files) (also : other ∈ dir.files)
    (same : file.1 = other.1) : file = other :=
  List.inj_on_of_nodup_map dir.distinct member also same

omit [DecidableEq κ] in
theorem first_eq_none : dir.first read = none ↔ ∀ file ∈ dir.files, read file = none :=
  List.findSome?_eq_none_iff

omit [DecidableEq κ] in
/-- Whatever the order, where all files that have something have the same. -/
theorem first_eq_of_all (member : file ∈ dir.files) (isFound : read file = some found)
    (same : ∀ other ∈ dir.files, ∀ r, read other = some r → r = found) :
    dir.first read = some found := by
  cases result : dir.first read with
  | none =>
    rw [first_eq_none.mp result file member] at isFound
    cases isFound
  | some r =>
    obtain ⟨other, there, isRead⟩ := List.exists_of_findSome?_eq_some result
    rw [same other there r isRead]

/-- Nothing is found in a file before it is written, and nothing after. -/
theorem first_put_of_none (before : ∀ old ∈ dir.files, old.1 = name → read old = none)
    (after : read (name, contents) = none) :
    (dir.put place name contents).first read = dir.first read := by
  rw [put]
  split
  next =>
    simp only [first, overwritten, ← List.head?_filterMap, List.filterMap_map]
    congr 1
    refine List.filterMap_congr fun old member => ?_
    by_cases same : old.1 = name
    · rw [Function.comp_apply, if_pos same, after, before old member same]
    · rw [Function.comp_apply, if_neg same]
  next =>
    simp only [first, List.findSome?_append, List.findSome?_cons, after]
    rw [← List.findSome?_append, List.take_append_drop]

theorem first_remove_of_none (before : ∀ old ∈ dir.files, old.1 = name → read old = none) :
    (dir.remove name).first read = dir.first read := by
  simp only [first, remove, ← List.head?_filterMap, List.filterMap_filter]
  congr 1
  refine List.filterMap_congr fun old member => ?_
  by_cases same : old.1 = name
  · simp [same, before old member same]
  · simp [same]

/-- The file that something is found in is written with something else to be found. -/
theorem first_put_of_first {p : κ × β → Bool} (isFirst : dir.files.find? p = some file)
    (reads : ∀ other ∈ dir.files, p other = false → read other = none)
    (isFound : read (file.1, contents) = some found) :
    (dir.put place file.1 contents).first read = some found := by
  obtain ⟨_, before, after, split, earlier⟩ := List.find?_eq_some_iff_append.mp isFirst
  have there : file.1 ∈ dir.files.map Prod.fst :=
    List.mem_map_of_mem (List.mem_of_find?_eq_some isFirst)
  have names := dir.distinct
  rw [split, List.map_append, List.map_cons, List.nodup_append] at names
  have kept : overwritten before file.1 contents = before := by
    refine (List.map_congr_left fun old member => ?_).trans (List.map_id before)
    have apart := names.2.2 old.1 (List.mem_map_of_mem member) file.1 List.mem_cons_self
    rw [if_neg apart]
    rfl
  have nothing : before.findSome? read = none := by
    refine List.findSome?_eq_none_iff.mpr fun old member => ?_
    refine reads old ?_ (by simpa using earlier old member)
    rw [split]
    exact List.mem_append_left _ member
  have files : (dir.put place file.1 contents).files =
      before ++ (file.1, contents) :: overwritten after file.1 contents := by
    rw [put, dif_pos there]
    conv_lhs => simp only [split, overwritten, List.map_append, List.map_cons, if_true]
    rw [← overwritten, kept]
    rfl
  rw [first, files, List.findSome?_append, nothing, List.findSome?_cons, isFound]
  rfl

end Dir
end Directory
