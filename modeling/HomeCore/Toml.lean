import HomeCore.Outcome
import Mathlib.Data.List.Basic
import Mathlib.Data.Rat.Init

/-! TOML documents as an editor keeps them: each table with its entries in their order, each value with
how it is written. What a document says is what is found along its paths. -/
namespace Toml

inductive Double where
  | finite (q : Rat)
  | infinite (negative : Bool)
  | nan
  deriving DecidableEq

inductive Value where
  | string (s : String)
  | integer (i : Int)
  | float (x : Double)
  | boolean (b : Bool)
  | datetime (text : String)
  | array (values : List Value)
  | inlineTable (entries : List (String × Value))

/-- A value, and how it is written: its digits or quotes, and the blanks and comments around it. -/
structure Formatted (φ : Type) where
  value : Value
  format : φ

/-- An implicit table has no header of its own. -/
inductive Item (φ : Type) where
  | value (v : Formatted φ)
  | table (implicit : Bool) (entries : List (String × Item φ))
  | arrayOfTables (rows : List (List (String × Item φ)))

abbrev Table (φ : Type) := List (String × Item φ)

variable {φ : Type}

namespace Item

def isValue : Item φ → Bool
  | .value _ => true
  | _ => false

mutual

/-- Whether anything is written for it. -/
def shown : Item φ → Bool
  | .value _ => true
  | .table implicit entries => !implicit || anyShown entries
  | .arrayOfTables rows => !rows.isEmpty

def anyShown : List (String × Item φ) → Bool
  | [] => false
  | (_, item) :: rest => item.shown || anyShown rest

end

end Item

/-- A step from a table to an entry, or from an array of tables to a row. -/
inductive Step where
  | key (k : String)
  | row (i : Nat)
  deriving DecidableEq

/-- What is found at a path. -/
inductive Mark where
  | value (v : Value)
  | table
  | rows (count : Nat)

namespace Item

def mark : Item φ → Option Mark
  | .value v => some (.value v.value)
  | .table implicit entries => if (Item.table implicit entries).shown then some .table else none
  | .arrayOfTables rows => if rows.isEmpty then none else some (.rows rows.length)

/-- The item that a path leads to. -/
def find : Item φ → List Step → Option (Item φ)
  | item, [] => some item
  | .table _ entries, .key k :: path => (entries.lookup k).bind (·.find path)
  | .arrayOfTables rows, .row i :: path => rows[i]?.bind fun row => (Item.table false row).find path
  | _, _ => none

def look (item : Item φ) (path : List Step) : Option Mark := (item.find path).bind mark

theorem find_append (item : Item φ) (path further : List Step) :
    item.find (path ++ further) = (item.find path).bind (·.find further) := by
  induction path generalizing item with
  | nil => rfl
  | cons step rest ih =>
    cases step with
    | key k =>
      cases item with
      | table implicit entries => simp only [List.cons_append, find, ih, Option.bind_assoc]
      | value old => rfl
      | arrayOfTables rows => rfl
    | row i =>
      cases item with
      | arrayOfTables rows => simp only [List.cons_append, find, ih, Option.bind_assoc]
      | value old => rfl
      | table implicit entries => rfl

theorem look_append (item : Item φ) (path further : List Step) :
    item.look (path ++ further) = (item.find path).bind (·.look further) := by
  rw [look, find_append, Option.bind_assoc]
  rfl

theorem value_of_mark {item : Item φ} {v : Value} (marked : item.mark = some (.value v)) :
    ∃ written, item = .value written ∧ written.value = v := by
  cases item with
  | value written =>
    cases marked
    exact ⟨written, rfl, rfl⟩
  | table implicit entries =>
    rw [mark, Option.ite_none_right_eq_some] at marked
    cases marked.2
  | arrayOfTables rows =>
    rw [mark, Option.ite_none_left_eq_some] at marked
    cases marked.2

theorem table_of_mark {item : Item φ} (marked : item.mark = some .table) :
    ∃ implicit entries, item = .table implicit entries := by
  cases item with
  | value written => cases marked
  | table implicit entries => exact ⟨implicit, entries, rfl⟩
  | arrayOfTables rows =>
    rw [mark, Option.ite_none_left_eq_some] at marked
    cases marked.2

/-- Nothing lies below a plain value. -/
theorem look_below_value {item : Item φ} {path below : List Step} {v : Value}
    (found : item.look path = some (.value v)) (further : below ≠ []) : item.look (path ++ below) = none := by
  obtain ⟨inner, led, marked⟩ := Option.bind_eq_some_iff.mp found
  obtain ⟨written, rfl, _⟩ := value_of_mark marked
  rw [look_append, led, Option.bind_some]
  cases below with
  | nil => exact absurd rfl further
  | cons step rest => cases step <;> rfl

/-- A table has no rows. -/
theorem look_row_below {item : Item φ} {path below : List Step} (found : item.look path = some .table)
    (i : Nat) : item.look (path ++ .row i :: below) = none := by
  obtain ⟨inner, led, marked⟩ := Option.bind_eq_some_iff.mp found
  obtain ⟨implicit, entries, rfl⟩ := table_of_mark marked
  rw [look_append, led]
  rfl

end Item

namespace Table

def get (t : Table φ) (k : String) : Option (Item φ) := t.lookup k

def remove (t : Table φ) (k : String) : Table φ := t.filter (·.1 ≠ k)

/-- A new entry under a key that is there takes the place of the old one. -/
def set : Table φ → String → Item φ → Table φ
  | [], k, item => [(k, item)]
  | (first, old) :: rest, k, item =>
    if first = k then (k, item) :: rest else (first, old) :: set rest k item

/-- What is found at a path of the table. -/
def look (t : Table φ) (path : List Step) : Option Mark := (Item.table false t).look path

variable {t : Table φ} {k : String} {item : Item φ}

theorem get_cons (name k : String) (first : Item φ) (rest : Table φ) :
    Table.get ((name, first) :: rest) k = if k = name then some first else rest.get k := by
  rw [get, List.lookup_cons]
  by_cases same : k = name
  · simp [same]
  · rw [beq_eq_false_iff_ne.mpr same, if_neg same]
    rfl

theorem mem_of_get (found : t.get k = some item) : (k, item) ∈ t := by
  induction t with
  | nil => cases found
  | cons first rest ih =>
    obtain ⟨name, old⟩ := first
    rw [get_cons] at found
    split at found
    · next same =>
      cases found
      rw [same]
      exact List.mem_cons_self
    · exact List.mem_cons_of_mem _ (ih found)

theorem get_set (t : Table φ) (k other : String) (item : Item φ) :
    (t.set k item).get other = if other = k then some item else t.get other := by
  induction t with
  | nil =>
    rw [set, get_cons]
  | cons first rest ih =>
    obtain ⟨name, old⟩ := first
    rw [set]
    by_cases replaced : name = k
    · subst replaced
      rw [if_pos rfl, get_cons, get_cons]
      split <;> rfl
    · rw [if_neg replaced, get_cons, get_cons, ih]
      by_cases same : other = name
      · subst same
        rw [if_pos rfl, if_neg replaced, if_pos rfl]
      · rw [if_neg same, if_neg same]

theorem get_remove (t : Table φ) (k other : String) :
    (t.remove k).get other = if other = k then none else t.get other := by
  induction t with
  | nil => exact (ite_self none).symm
  | cons first rest ih =>
    obtain ⟨name, old⟩ := first
    rw [remove] at ih
    rw [get_cons, remove]
    by_cases gone : name = k
    · subst gone
      rw [List.filter_cons_of_neg (by simp), ih]
      split <;> rfl
    · rw [List.filter_cons_of_pos (by simpa using gone), get_cons, ih]
      by_cases same : other = name
      · subst same
        rw [if_pos rfl, if_neg gone, if_pos rfl]
      · rw [if_neg same, if_neg same]

theorem get_removeAll (t : Table φ) (gone : List String) (k : String) :
    (gone.foldl remove t).get k = if k ∈ gone then none else t.get k := by
  induction gone generalizing t with
  | nil => simp
  | cons first rest ih =>
    rw [List.foldl_cons, ih, get_remove]
    by_cases same : k = first
    · simp [same]
    · simp [same]

/-- Two documents that say the same. -/
def SameData (a b : Table φ) : Prop := ∀ path, a.look path = b.look path

theorem look_key (t : Table φ) (k : String) (path : List Step) :
    t.look (.key k :: path) = (t.get k).bind (·.look path) := by
  rw [look, Item.look, Item.find, Option.bind_assoc]
  rfl

/-- Below a table nothing shows whether it has a header. -/
theorem look_table (implicit : Bool) (t : Table φ) {path : List Step} (below : path ≠ []) :
    (Item.table implicit t).look path = t.look path := by
  cases path with
  | nil => exact absurd rfl below
  | cons step rest => cases step <;> rfl

theorem look_empty {path : List Step} (below : path ≠ []) : Table.look ([] : Table φ) path = none := by
  cases path with
  | nil => exact absurd rfl below
  | cons step rest => cases step <;> rfl

theorem look_set (t : Table φ) (k other : String) (item : Item φ) (path : List Step) :
    (t.set k item).look (.key other :: path) =
      if other = k then item.look path else t.look (.key other :: path) := by
  rw [look_key, look_key, get_set]
  split <;> rfl

/-- Fields that are written one after another, each under a key of its own. -/
theorem get_foldlM {ε β : Type} {write : Table φ → String × β → Except ε (Table φ)}
    (made : Option (Item φ) → β → Option (Item φ) → Prop)
    (writes : ∀ t field next, write t field = .ok next →
      made (t.get field.1) field.2 (next.get field.1) ∧ ∀ other ≠ field.1, next.get other = t.get other)
    {fields : List (String × β)} (apart : (fields.map Prod.fst).Nodup) {t last : Table φ}
    (done : fields.foldlM write t = .ok last) (k : String) :
    (∀ b, (k, b) ∈ fields → made (t.get k) b (last.get k)) ∧
      (k ∉ fields.map Prod.fst → last.get k = t.get k) := by
  induction fields generalizing t with
  | nil =>
    cases done
    exact ⟨fun _ impossible => (by cases impossible), fun _ => rfl⟩
  | cons field rest ih =>
    rw [List.foldlM_cons, Outcome.bind_ok] at done
    obtain ⟨next, written, done⟩ := done
    obtain ⟨here, elsewhere⟩ := writes t field next written
    rw [List.map_cons, List.nodup_cons] at apart
    obtain ⟨later, kept⟩ := ih apart.2 done
    constructor
    · intro b member
      rcases List.mem_cons.mp member with rfl | member
      · rwa [kept apart.1]
      · have differs : k ≠ field.1 := by
          rintro rfl
          exact apart.1 (List.mem_map.mpr ⟨_, member, rfl⟩)
        rw [← elsewhere k differs]
        exact later b member
    · intro absent
      rw [List.map_cons, List.mem_cons, not_or] at absent
      rw [kept absent.2, elsewhere k absent.1]

end Table
end Toml
