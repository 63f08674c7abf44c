import Mathlib

/-! A table whose rows lie under a key, with an index that leads from a second name
of a row to its key. A row says both: where it lies and what it is called. -/
set_option linter.unusedSectionVars false

namespace Indexed

structure Table (κ ι ρ : Type) [Ord κ] [Ord ι] where
  rows : Std.ExtTreeMap κ ρ
  index : Std.ExtTreeMap ι κ

variable {κ ι ρ : Type} [Ord κ] [Std.TransOrd κ] [Std.LawfulEqOrd κ]
  [Ord ι] [Std.TransOrd ι] [Std.LawfulEqOrd ι]

namespace Table

def empty : Table κ ι ρ := ⟨∅, ∅⟩

def find (table : Table κ ι ρ) (name : ι) : Option ρ :=
  table.index[name]?.bind fun key => table.rows[key]?

def list (table : Table κ ι ρ) : List ρ := table.rows.toList.map (·.2)

/-- A new row, and its name in the index. -/
def create (table : Table κ ι ρ) (key : κ) (name : ι) (row : ρ) : Table κ ι ρ where
  rows := table.rows.insert key row
  index := table.index.insert name key

/-- A row written over whatever lies under the key; the index is left alone. -/
def write (table : Table κ ι ρ) (key : κ) (row : ρ) : Table κ ι ρ where
  rows := table.rows.insert key row
  index := table.index

/-- A row that moves to another key. -/
def move (table : Table κ ι ρ) (old key : κ) (name : ι) (row : ρ) : Table κ ι ρ where
  rows := (table.rows.erase old).insert key row
  index := table.index.insert name key

def remove (table : Table κ ι ρ) (entry : κ × ι) : Table κ ι ρ where
  rows := table.rows.erase entry.1
  index := table.index.erase entry.2

theorem mem_list {table : Table κ ι ρ} {row : ρ} :
    row ∈ table.list ↔ ∃ key : κ, table.rows[key]? = some row := by
  simp only [list, List.mem_map, Prod.exists, Std.ExtTreeMap.mem_toList_iff_getElem?_eq_some,
    exists_eq_right]

variable [DecidableEq κ] [DecidableEq ι]

theorem rows_create (table : Table κ ι ρ) (key other : κ) (name : ι) (row : ρ) :
    (table.create key name row).rows[other]? =
      if key = other then some row else table.rows[other]? := by
  simp only [create, Std.ExtTreeMap.getElem?_insert, Std.compare_eq_iff_eq]

theorem rows_write (table : Table κ ι ρ) (key other : κ) (row : ρ) :
    (table.write key row).rows[other]? = if key = other then some row else table.rows[other]? := by
  simp only [write, Std.ExtTreeMap.getElem?_insert, Std.compare_eq_iff_eq]

theorem rows_move (table : Table κ ι ρ) (old key other : κ) (name : ι) (row : ρ) :
    (table.move old key name row).rows[other]? =
      if key = other then some row else if old = other then none else table.rows[other]? := by
  simp only [move, Std.ExtTreeMap.getElem?_insert, Std.ExtTreeMap.getElem?_erase,
    Std.compare_eq_iff_eq]

theorem index_create (table : Table κ ι ρ) (key : κ) (name other : ι) (row : ρ) :
    (table.create key name row).index[other]? =
      if name = other then some key else table.index[other]? := by
  simp only [create, Std.ExtTreeMap.getElem?_insert, Std.compare_eq_iff_eq]

theorem index_move (table : Table κ ι ρ) (old key : κ) (name other : ι) (row : ρ) :
    (table.move old key name row).index[other]? =
      if name = other then some key else table.index[other]? := by
  simp only [move, Std.ExtTreeMap.getElem?_insert, Std.compare_eq_iff_eq]

theorem rows_remove (table : Table κ ι ρ) (entry : κ × ι) (key : κ) :
    (table.remove entry).rows[key]? = if entry.1 = key then none else table.rows[key]? := by
  simp only [remove, Std.ExtTreeMap.getElem?_erase, Std.compare_eq_iff_eq]

theorem index_remove (table : Table κ ι ρ) (entry : κ × ι) (name : ι) :
    (table.remove entry).index[name]? = if entry.2 = name then none else table.index[name]? := by
  simp only [remove, Std.ExtTreeMap.getElem?_erase, Std.compare_eq_iff_eq]

/-- Each row lies under its key, the index leads to it by its name, and nothing else
is in the index. -/
structure Sound (keyOf : ρ → κ) (nameOf : ρ → ι) (table : Table κ ι ρ) : Prop where
  keyed : ∀ key row, table.rows[key]? = some row → keyOf row = key
  indexed : ∀ key row, table.rows[key]? = some row → table.index[nameOf row]? = some key
  named : ∀ name key, table.index[name]? = some key →
    ∃ row, table.rows[key]? = some row ∧ nameOf row = name

variable {keyOf : ρ → κ} {nameOf : ρ → ι} {table : Table κ ι ρ} {row : ρ} {key : κ} {name : ι}

theorem empty_sound : (empty : Table κ ι ρ).Sound keyOf nameOf := by
  refine ⟨?_, ?_, ?_⟩
  · intro key row found
    simp [empty] at found
  · intro key row found
    simp [empty] at found
  · intro name key found
    simp [empty] at found

namespace Sound

theorem find_of_mem (sound : table.Sound keyOf nameOf) (stored : table.rows[key]? = some row) :
    table.find (nameOf row) = some row := by
  rw [find, sound.indexed key row stored]
  exact stored

theorem of_find (sound : table.Sound keyOf nameOf) (found : table.find name = some row) :
    table.rows[keyOf row]? = some row ∧ nameOf row = name := by
  obtain ⟨key, leads, stored⟩ := Option.bind_eq_some_iff.mp found
  obtain ⟨other, there, named⟩ := sound.named name key leads
  rw [stored] at there
  cases there
  refine ⟨?_, named⟩
  rw [sound.keyed key row stored]
  exact stored

/-- No two rows have one name. -/
theorem same_row (sound : table.Sound keyOf nameOf) {other : ρ} {otherKey : κ}
    (stored : table.rows[key]? = some row) (also : table.rows[otherKey]? = some other)
    (same : nameOf row = nameOf other) : key = otherKey ∧ row = other := by
  have leads := sound.indexed key row stored
  rw [same, sound.indexed otherKey other also] at leads
  cases leads
  rw [stored] at also
  exact ⟨rfl, Option.some.inj also⟩

/-- A row is added under a key and a name that no row has. -/
theorem create (sound : table.Sound keyOf nameOf) (free : table.rows[keyOf row]? = none)
    (unnamed : ∀ (key : κ) other, table.rows[key]? = some other → nameOf other ≠ nameOf row) :
    (table.create (keyOf row) (nameOf row) row).Sound keyOf nameOf := by
  have unknown : table.index[nameOf row]? = none := by
    cases leads : table.index[nameOf row]? with
    | none => rfl
    | some key =>
      obtain ⟨other, stored, named⟩ := sound.named _ key leads
      exact (unnamed key other stored named).elim
  refine ⟨?_, ?_, ?_⟩
  · intro key other found
    rw [rows_create] at found
    split at found
    next same => cases found; exact same
    next => exact sound.keyed key other found
  · intro key other found
    rw [rows_create] at found
    rw [index_create]
    split at found
    next same =>
      cases found
      rw [if_pos rfl, same]
    next =>
      have leads := sound.indexed key other found
      rw [if_neg fun same => by rw [same, leads] at unknown; cases unknown]
      exact leads
  · intro name key leads
    rw [index_create] at leads
    split at leads
    next same =>
      cases leads
      exact ⟨row, by rw [rows_create, if_pos rfl], same⟩
    next =>
      obtain ⟨other, stored, named⟩ := sound.named name key leads
      refine ⟨other, ?_, named⟩
      rw [rows_create, if_neg fun same => by rw [same, stored] at free; cases free]
      exact stored

/-- A row is written over an older one of the same key and name. -/
theorem write (sound : table.Sound keyOf nameOf) {old : ρ}
    (stored : table.rows[keyOf row]? = some old) (same : nameOf old = nameOf row) :
    (table.write (keyOf row) row).Sound keyOf nameOf := by
  refine ⟨?_, ?_, ?_⟩
  · intro key other found
    rw [rows_write] at found
    split at found
    next here => cases found; exact here
    next => exact sound.keyed key other found
  · intro key other found
    rw [rows_write] at found
    split at found
    next here =>
      cases found
      rw [← same, ← here]
      exact sound.indexed _ _ stored
    next => exact sound.indexed key other found
  · intro name key leads
    obtain ⟨other, there, named⟩ := sound.named name key leads
    by_cases here : keyOf row = key
    · subst here
      rw [stored] at there
      cases there
      exact ⟨row, by rw [rows_write, if_pos rfl], same ▸ named⟩
    · exact ⟨other, by rw [rows_write, if_neg here]; exact there, named⟩

/-- A row moves to a free key. -/
theorem move (sound : table.Sound keyOf nameOf) {old : ρ}
    (stored : table.rows[keyOf old]? = some old) (same : nameOf old = nameOf row)
    (free : table.rows[keyOf row]? = none) :
    (table.move (keyOf old) (keyOf row) (nameOf row) row).Sound keyOf nameOf := by
  refine ⟨?_, ?_, ?_⟩
  · intro key other found
    rw [rows_move] at found
    split at found
    next here => cases found; exact here
    next =>
      split at found
      next => cases found
      next => exact sound.keyed key other found
  · intro key other found
    rw [rows_move] at found
    rw [index_move]
    split at found
    next here =>
      cases found
      rw [if_pos rfl, here]
    next =>
      split at found
      next => cases found
      next apart =>
        have leads := sound.indexed key other found
        rw [if_neg fun named => apart (sound.same_row stored found (same.trans named)).1]
        exact leads
  · intro name key leads
    rw [index_move] at leads
    split at leads
    next named =>
      cases leads
      exact ⟨row, by rw [rows_move, if_pos rfl], named⟩
    next unnamed =>
      obtain ⟨other, there, named⟩ := sound.named name key leads
      have taken : keyOf row ≠ key := by
        intro here
        rw [here, there] at free
        cases free
      refine ⟨other, ?_, named⟩
      rw [rows_move, if_neg taken, if_neg]
      · exact there
      · intro here
        rw [← here, stored] at there
        cases there
        exact unnamed (same.symm.trans named)

/-- What the table holds of a row's key and of its name is that row, if anything. -/
def Placed (keyOf : ρ → κ) (nameOf : ρ → ι) (table : Table κ ι ρ) (row : ρ) : Prop :=
  (∀ other, table.rows[keyOf row]? = some other → nameOf other = nameOf row) ∧
    ∀ key, table.index[nameOf row]? = some key → key = keyOf row

theorem placed (sound : table.Sound keyOf nameOf) (stored : table.rows[key]? = some row) :
    Placed keyOf nameOf table row := by
  have here := sound.keyed key row stored
  refine ⟨?_, ?_⟩
  · intro other found
    rw [here, stored] at found
    cases found
    rfl
  · intro other leads
    rw [sound.indexed key row stored] at leads
    cases leads
    exact here.symm

theorem Placed.remove (isPlaced : Placed keyOf nameOf table row) (entry : κ × ι) :
    Placed keyOf nameOf (table.remove entry) row := by
  refine ⟨?_, ?_⟩
  · intro other found
    rw [rows_remove] at found
    split at found
    · cases found
    · exact isPlaced.1 other found
  · intro key leads
    rw [index_remove] at leads
    split at leads
    · cases leads
    · exact isPlaced.2 key leads

theorem remove (sound : table.Sound keyOf nameOf) (isPlaced : Placed keyOf nameOf table row) :
    (table.remove (keyOf row, nameOf row)).Sound keyOf nameOf := by
  refine ⟨?_, ?_, ?_⟩
  · intro key other found
    rw [rows_remove] at found
    split at found
    next => cases found
    next => exact sound.keyed key other found
  · intro key other found
    rw [rows_remove] at found
    split at found
    next => cases found
    next apart =>
      have leads := sound.indexed key other found
      rw [index_remove, if_neg]
      · exact leads
      · intro named
        rw [← named] at leads
        exact apart (isPlaced.2 key leads).symm
  · intro name key leads
    rw [index_remove] at leads
    split at leads
    next => cases leads
    next unnamed =>
      obtain ⟨other, there, named⟩ := sound.named name key leads
      refine ⟨other, ?_, named⟩
      rw [rows_remove, if_neg]
      · exact there
      · intro here
        rw [← here] at there
        exact unnamed ((isPlaced.1 other there).symm.trans named)

/-- Rows are removed one after another. -/
theorem removeAll (sound : table.Sound keyOf nameOf) (doomed : List ρ)
    (arePlaced : ∀ row ∈ doomed, Placed keyOf nameOf table row) :
    (doomed.foldl (fun t row => t.remove (keyOf row, nameOf row)) table).Sound keyOf nameOf ∧
      ∀ key : κ, (doomed.foldl (fun t row => t.remove (keyOf row, nameOf row)) table).rows[key]? =
        if key ∈ doomed.map keyOf then none else table.rows[key]? := by
  induction doomed generalizing table with
  | nil => exact ⟨sound, fun key => by simp⟩
  | cons row rest ih =>
    have kept := sound.remove (arePlaced row List.mem_cons_self)
    obtain ⟨stillSound, rows⟩ := ih kept fun other member =>
      (arePlaced other (List.mem_cons_of_mem row member)).remove _
    refine ⟨stillSound, ?_⟩
    intro key
    rw [List.foldl_cons, rows key, rows_remove, List.map_cons]
    by_cases later : key ∈ rest.map keyOf
    · simp [later]
    · by_cases here : keyOf row = key
      · simp [later, here]
      · simp [later, here, Ne.symm here]

end Sound
end Table
end Indexed
