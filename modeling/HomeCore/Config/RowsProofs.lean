import HomeCore.Config.Rows

/-! What a document says once an array of tables in it was saved: the rows say the items, the sub-tables
stay where they stood, and the rest of the document is as it was. -/
namespace HomeCore.ConfigWriter
open Toml Outcome

variable {φ : Type} {toml : TomlEdit φ} {obj : AttrMap} {t t' : Table φ} {doc doc' : Table φ}

/-! ## One row -/

def isPlain : Option Mark → Bool
  | some (.value _) => true
  | _ => false

/-- What a field comes to that is saved where something was found. -/
def keptAt (was : Option Mark) (value : Value) : Value :=
  match was with
  | some (.value old) => keptFloat old value
  | _ => value

/-- A field was saved where `was` stood. -/
def Saved (was : Option (Item φ)) (v : Json) (now : Option (Item φ)) : Prop :=
  ∃ value written, jsonToTomlItem v = .ok value ∧ now = some (.value written) ∧
    written.value = keptAt (was.bind Item.mark) value

/-- A row says an item, and keeps what else was in the row before it but for its plain values. -/
structure RowEdit (before : Table φ) (obj : AttrMap) (row : Table φ) : Prop where
  named : ∀ k v, obj[k]? = some v → Saved (before.get k) v (row.get k)
  unnamed : ∀ k, obj[k]? = none → row.get k = (before.get k).filter (!·.isValue)

theorem keptAt_of_other {item : Option (Item φ)} (other : ∀ old, item ≠ some (.value old)) (value : Value) :
    keptAt (item.bind Item.mark) value = value := by
  cases item with
  | none => rfl
  | some item =>
    cases item with
    | value old => exact absurd rfl (other old)
    | table implicit t =>
      simp only [Option.bind_some, Item.mark]
      split <;> rfl
    | arrayOfTables rows =>
      simp only [Option.bind_some, Item.mark]
      split <;> rfl

theorem withContext_ok {α : Type} {context : String} {result : Except Failure α} {a : α} :
    withContext context result = .ok a ↔ result = .ok a := by
  cases result <;> simp [withContext, Except.mapError]

theorem mem_toList (k : String) (v : Json) : (k, v) ∈ obj.toList ↔ obj[k]? = some v :=
  Std.ExtTreeMap.mem_toList_iff_getElem?_eq_some

theorem keys_toList (k : String) : k ∉ obj.toList.map Prod.fst ↔ obj[k]? = none := by
  rw [List.mem_map, Option.eq_none_iff_forall_ne_some]
  constructor
  · intro absent v found
    exact absent ⟨(k, v), (mem_toList k v).mpr found, rfl⟩
  · rintro absent ⟨⟨_, v⟩, member, rfl⟩
    exact absent v ((mem_toList _ v).mp member)

theorem nodup_toList (obj : AttrMap) : (obj.toList.map Prod.fst).Nodup := by
  rw [List.Nodup, List.pairwise_map]
  refine (Std.ExtTreeMap.distinct_keys_toList (t := obj)).imp fun differ same => ?_
  exact differ (Std.compare_eq_iff_eq.mpr same)

theorem updateField_ok {entry : String × Json} (done : toml.updateField t entry = .ok t') :
    Saved (t.get entry.1) entry.2 (t'.get entry.1) ∧ ∀ other ≠ entry.1, t'.get other = t.get other := by
  simp only [TomlEdit.updateField, bind_ok, TomlEdit.fieldItem, withContext_ok] at done
  obtain ⟨value, converted, done⟩ := done
  split at done
  · next old stored =>
    rw [pure_ok] at done
    split at done
    · next same =>
      subst done
      have equal : old.value = keptFloat old.value value := toml.sameText_value _ _ same
      refine ⟨⟨value, old, converted, stored, ?_⟩, fun _ _ => rfl⟩
      rw [stored]
      exact equal
    · subst done
      refine ⟨⟨value, _, converted, by rw [Table.get_set, if_pos rfl], ?_⟩, fun other differs => ?_⟩
      · rw [stored]
        rfl
      · rw [Table.get_set, if_neg differs]
  · next other =>
    rw [pure_ok] at done
    subst done
    refine ⟨⟨value, _, converted, by rw [Table.get_set, if_pos rfl], ?_⟩, fun other differs => ?_⟩
    · exact (keptAt_of_other other value).symm
    · rw [Table.get_set, if_neg differs]

theorem addField_ok {entry : String × Json} (done : toml.addField t entry = .ok t') :
    (t.get entry.1 = none → Saved (t.get entry.1) entry.2 (t'.get entry.1)) ∧
    ∀ other ≠ entry.1, t'.get other = t.get other := by
  simp only [TomlEdit.addField, bind_ok, TomlEdit.fieldItem, withContext_ok, pure_ok] at done
  obtain ⟨value, converted, rfl⟩ := done
  refine ⟨fun absent => ⟨value, _, converted, by rw [Table.get_set, if_pos rfl], ?_⟩, fun other differs => ?_⟩
  · rw [absent]
    rfl
  · rw [Table.get_set, if_neg differs]

/-- Before the item is written, the plain values go that it has no more. -/
theorem get_kept (t : Table φ) (obj : AttrMap) (k : String) :
    (((t.map (·.1)).filter fun k => (t.get k).any Item.isValue && !obj.contains k).foldl Table.remove t).get k =
      (t.get k).filter fun item => !item.isValue || obj.contains k := by
  rw [Table.get_removeAll]
  cases stored : t.get k with
  | none => exact ite_self none
  | some item =>
    have listed : k ∈ t.map (·.1) := List.mem_map.mpr ⟨_, Table.mem_of_get stored, rfl⟩
    simp only [List.mem_filter, listed, true_and, stored, Option.any_some, Option.filter_some]
    cases item.isValue <;> cases obj.contains k <;> rfl

theorem updateRow_edit (done : toml.updateRow t obj = .ok t') : RowEdit t obj t' := by
  have fields := Table.get_foldlM Saved (fun _ _ _ => updateField_ok) (nodup_toList obj) done
  constructor
  · intro k v found
    have saved := (fields k).1 v ((mem_toList k v).mpr found)
    have holds : obj.contains k = true := by
      rw [Std.ExtTreeMap.contains_eq_isSome_getElem?, found, Option.isSome_some]
    have whole : (t.get k).filter (fun item => !item.isValue || obj.contains k) = t.get k := by
      rw [holds]
      cases t.get k <;> simp
    rwa [get_kept, whole] at saved
  · intro k absent
    have lacks : obj.contains k = false := by
      rw [Std.ExtTreeMap.contains_eq_isSome_getElem?, absent, Option.isSome_none]
    rw [(fields k).2 ((keys_toList k).mpr absent), get_kept, lacks]
    simp only [Bool.or_false]

theorem mem_rowEntries (k : String) (v : Json) : (k, v) ∈ TomlEdit.rowEntries obj ↔ obj[k]? = some v := by
  simp only [TomlEdit.rowEntries, List.mem_append, List.mem_filterMap, Option.map_eq_some_iff, Prod.mk.injEq,
    List.mem_filter, mem_toList, Bool.not_eq_true', ← Bool.not_eq_true, List.contains_iff_mem]
  constructor
  · rintro (⟨_, leading, _, found, rfl, rfl⟩ | ⟨found, _⟩)
    · exact found
    · exact found
  · intro found
    by_cases leading : k ∈ leadingKeys
    · exact .inl ⟨k, leading, v, found, rfl, rfl⟩
    · exact .inr ⟨found, leading⟩

theorem nodup_rowEntries (obj : AttrMap) : ((TomlEdit.rowEntries obj).map Prod.fst).Nodup := by
  rw [TomlEdit.rowEntries, List.map_append, List.nodup_append]
  refine ⟨?_, ?_, ?_⟩
  · rw [List.Nodup, List.pairwise_map, List.pairwise_filterMap]
    have apart : leadingKeys.Pairwise (· ≠ ·) := by decide
    refine apart.imp fun differ first ofFirst second ofSecond same => ?_
    obtain ⟨v, _, rfl⟩ := Option.map_eq_some_iff.mp ofFirst
    obtain ⟨w, _, rfl⟩ := Option.map_eq_some_iff.mp ofSecond
    exact differ same
  · exact (nodup_toList obj).sublist (List.filter_sublist.map Prod.fst)
  · rintro k member other laterMember rfl
    obtain ⟨first, found, rfl⟩ := List.mem_map.mp member
    obtain ⟨leading, isLeading, ofLeading⟩ := List.mem_filterMap.mp found
    obtain ⟨v, _, rfl⟩ := Option.map_eq_some_iff.mp ofLeading
    obtain ⟨second, later, same⟩ := List.mem_map.mp laterMember
    have notLeading := (List.mem_filter.mp later).2
    rw [same, Bool.not_eq_true', List.contains_eq_mem, decide_eq_false_iff_not] at notLeading
    exact notLeading isLeading

theorem newRow_edit (done : toml.newRow obj = .ok t') : RowEdit [] obj t' := by
  have fields := Table.get_foldlM (fun was v now => was = none → Saved was v now)
    (fun _ _ _ => addField_ok) (nodup_rowEntries obj) done
  constructor
  · intro k v found
    exact (fields k).1 v ((mem_rowEntries k v).mpr found) rfl
  · intro k absent
    refine (fields k).2 fun listed => ?_
    obtain ⟨⟨_, v⟩, member, rfl⟩ := List.mem_map.mp listed
    rw [mem_rowEntries, absent] at member
    cases member

theorem isPlain_mark (item : Item φ) : isPlain item.mark = item.isValue := by
  cases item with
  | value old => rfl
  | table implicit t =>
    rw [Item.mark]
    split <;> rfl
  | arrayOfTables rows =>
    rw [Item.mark]
    split <;> rfl

/-- Under a key that the item does not name, all stays but a plain value. -/
theorem RowEdit.look_unnamed {before row : Table φ} (edit : RowEdit before obj row) {k : String}
    (absent : obj[k]? = none) (path : List Step) : row.look (.key k :: path) =
      if isPlain (before.look [.key k]) then none else before.look (.key k :: path) := by
  rw [Table.look_key, Table.look_key, Table.look_key, edit.unnamed k absent]
  cases before.get k with
  | none => rfl
  | some item =>
    have plain : isPlain (item.look []) = item.isValue := isPlain_mark item
    rw [Option.bind_some, Option.bind_some, plain, Option.filter_some]
    cases item.isValue <;> rfl

theorem RowEdit.look_named {before row : Table φ} (edit : RowEdit before obj row) {k : String} {v : Json}
    (found : obj[k]? = some v) : ∃ value, jsonToTomlItem v = .ok value ∧
      row.look [.key k] = some (.value (keptAt (before.look [.key k]) value)) := by
  obtain ⟨value, written, converted, stored, kept⟩ := edit.named k v found
  refine ⟨value, converted, ?_⟩
  have marked : (Item.value written).look [] = some (.value written.value) := rfl
  rw [Table.look_key, stored, Option.bind_some, marked, kept, Table.look_key]
  rfl

/-! ## All rows -/

theorem objectsOf_ok {idx : Nat} {items : List Json} {objects : List AttrMap}
    (done : objectsOf idx items = .ok objects) : items.map Json.asObject = objects.map some := by
  induction items generalizing idx objects with
  | nil =>
    cases done
    rfl
  | cons item rest ih =>
    rw [objectsOf] at done
    split at done
    · cases done
    · next obj isObject =>
      simp only [bind_ok, pure_ok] at done
      obtain ⟨others, read, rfl⟩ := done
      rw [List.map_cons, List.map_cons, isObject, ih read]

theorem editRow_edit {row : Option (Table φ)} (done : toml.editRow row obj = .ok t') :
    RowEdit (row.getD []) obj t' := by
  cases row with
  | none => exact newRow_edit done
  | some tbl => exact updateRow_edit done

/-- The rows say the objects, each where it stands. -/
structure RowsEdit (before : List (Table φ)) (objects : List AttrMap) (rows : List (Table φ)) : Prop where
  count : rows.length = objects.length
  each : ∀ (i : Nat) obj, objects[i]? = some obj →
    ∃ row, rows[i]? = some row ∧ RowEdit (before[i]?.getD []) obj row

theorem editRows_edit {idx : Nat} {rows rows' : List (Table φ)} {objects : List AttrMap}
    (done : toml.editRows idx rows objects = .ok rows') : RowsEdit rows objects rows' := by
  induction objects generalizing idx rows rows' with
  | nil =>
    cases done
    exact ⟨rfl, fun i obj found => by cases found⟩
  | cons first rest ih =>
    simp only [TomlEdit.editRows, bind_ok, withContext_ok, pure_ok] at done
    obtain ⟨row, edited, others, later, rfl⟩ := done
    obtain ⟨count, each⟩ := ih later
    refine ⟨by rw [List.length_cons, List.length_cons, count], fun i obj found => ?_⟩
    cases i with
    | zero =>
      cases found
      have edit := editRow_edit edited
      rw [List.head?_eq_getElem?] at edit
      exact ⟨row, rfl, edit⟩
    | succ i =>
      obtain ⟨row, stored, edit⟩ := each i obj found
      rw [List.getElem?_tail] at edit
      exact ⟨row, stored, edit⟩

/-- The rows that stand under a key. -/
def rowsUnder (parent : Table φ) (leaf : String) : List (Table φ) :=
  match parent.get leaf with
  | some (.arrayOfTables rows) => rows
  | _ => []

theorem look_rowsUnder (parent : Table φ) (leaf k : String) (i : Nat) (path : List Step) :
    parent.look (.key leaf :: .row i :: .key k :: path) =
      Table.look ((rowsUnder parent leaf)[i]?.getD []) (.key k :: path) := by
  rw [Table.look_key, rowsUnder]
  cases parent.get leaf with
  | none => rfl
  | some item =>
    cases item with
    | value old => rfl
    | table implicit t => rfl
    | arrayOfTables rows =>
      rw [Option.bind_some, Item.look, Item.find]
      cases rows[i]? <;> rfl

theorem replaceIn_edit {leaf : String} {items : List Json} {parent parent' : Table φ}
    (done : toml.replaceIn leaf items parent = .ok parent') :
    ∃ (objects : List AttrMap) (rows : List (Table φ)), items.map Json.asObject = objects.map some ∧
      RowsEdit (rowsUnder parent leaf) objects rows ∧ parent'.get leaf = some (.arrayOfTables rows) ∧
      ∀ other ≠ leaf, parent'.get other = parent.get other := by
  rw [TomlEdit.replaceIn] at done
  split at done
  · cases done
  · simp only [bind_ok] at done
    obtain ⟨objects, read, done⟩ := done
    have same := objectsOf_ok read
    split at done
    · next rows stored =>
      simp only [bind_ok, pure_ok] at done
      obtain ⟨rows', edited, rfl⟩ := done
      have edit := editRows_edit edited
      have under : rowsUnder parent leaf = rows := by rw [rowsUnder, stored]
      refine ⟨objects, rows', same, ?_, by rw [Table.get_set, if_pos rfl], fun other differs => ?_⟩
      · rwa [under]
      · rw [Table.get_set, if_neg differs]
    · next other =>
      simp only [bind_ok, pure_ok] at done
      obtain ⟨rows', edited, rfl⟩ := done
      have edit := editRows_edit edited
      have under : rowsUnder parent leaf = [] := by
        rw [rowsUnder]
        split
        · next rows stored => exact absurd stored (other rows)
        · rfl
      refine ⟨objects, rows', same, ?_, by rw [Table.get_set, if_pos rfl], fun other differs => ?_⟩
      · rwa [under]
      · rw [Table.get_set, if_neg differs, Table.get_remove, if_neg differs]

/-! ## The way to the rows -/

/-- The edit of a table that a path of keys leads to, and what it leaves alone. -/
structure Walked (way : List Step) (doc doc' leaf leaf' : Table φ) : Prop where
  before : ∀ path ≠ [], doc.look (way ++ path) = leaf.look path
  after : ∀ path ≠ [], doc'.look (way ++ path) = leaf'.look path
  apart : ∀ path, ¬ way <+: path → ¬ path <+: way → doc'.look path = doc.look path

theorem Walked.under {way : List Step} {seg : String} {implicit : Bool} {leaf leaf' : Table φ}
    (walked : Walked way t t' leaf leaf')
    (under : ∀ path ≠ [], doc.look (.key seg :: path) = t.look path) :
    Walked (.key seg :: way) doc (doc.set seg (.table implicit t')) leaf leaf' := by
  constructor
  · intro path below
    rw [List.cons_append, under _ (by simp [below]), walked.before path below]
  · intro path below
    rw [List.cons_append, Table.look_set, if_pos rfl, Table.look_table implicit t' (by simp [below]),
      walked.after path below]
  · intro path notUnder notAbove
    cases path with
    | nil => exact absurd List.nil_prefix notAbove
    | cons step rest =>
      cases step with
      | row i => rfl
      | key k =>
        rw [Table.look_set]
        split
        · next same =>
          subst same
          rw [List.prefix_cons_inj] at notUnder notAbove
          have below : rest ≠ [] := by
            rintro rfl
            exact notAbove List.nil_prefix
          rw [Table.look_table implicit t' below, walked.apart rest notUnder notAbove, under rest below]
        · rfl

theorem walked_of_walkToTable {sectionPath : String} {edit : Table φ → Except Failure (Table φ)}
    {segments : List String} (done : toml.walkToTable sectionPath edit segments doc = .ok doc') :
    ∃ leaf leaf', edit leaf = .ok leaf' ∧ Walked (segments.map .key) doc doc' leaf leaf' := by
  induction segments generalizing doc doc' with
  | nil =>
    exact ⟨doc, doc', done, fun _ _ => rfl, fun _ _ => rfl, fun _ notUnder _ => absurd List.nil_prefix notUnder⟩
  | cons seg rest ih =>
    rw [TomlEdit.walkToTable] at done
    split at done
    · next absent =>
      simp only [bind_ok, pure_ok] at done
      obtain ⟨t, walkedOn, rfl⟩ := done
      obtain ⟨leaf, leaf', edited, walked⟩ := ih walkedOn
      refine ⟨leaf, leaf', edited, walked.under fun path below => ?_⟩
      rw [Table.look_key, absent, Table.look_empty below]
      rfl
    · next implicit t stored =>
      simp only [bind_ok, pure_ok] at done
      obtain ⟨t', walkedOn, rfl⟩ := done
      obtain ⟨leaf, leaf', edited, walked⟩ := ih walkedOn
      refine ⟨leaf, leaf', edited, walked.under fun path below => ?_⟩
      rw [Table.look_key, stored, Option.bind_some, Table.look_table implicit t below]
    · cases done

/-! ## The document -/

/-- Where the rows of a section are found. -/
def place (sectionPath : String) : List Step := (splitText '.' sectionPath).map .key

theorem place_eq (sectionPath : String) : place sectionPath =
    (splitText '.' sectionPath).dropLast.map .key ++ [.key ((splitText '.' sectionPath).getLastD "")] := by
  have some : splitText '.' sectionPath ≠ [] := by
    rw [splitText, ne_eq, List.map_eq_nil_iff]
    exact List.splitOn_ne_nil '.' sectionPath.toList
  rw [place, List.getLastD_eq_getLast?, List.getLast?_eq_some_getLast some, Option.getD_some,
    ← List.map_singleton (f := Step.key), ← List.map_append, List.dropLast_append_getLast some]

variable {old again : Table φ} {way : List Step}

/-- The row at the end of the way says an item. A float stays a float, and what is no plain value stays
where it stood unless the item names it. -/
structure RowSaved (old again : Table φ) (way : List Step) (obj : AttrMap) : Prop where
  isRow : again.look way = some .table
  named : ∀ k v, obj[k]? = some v → ∃ value, jsonToTomlItem v = .ok value ∧
    again.look (way ++ [.key k]) = some (.value (keptAt (old.look (way ++ [.key k])) value))
  unnamed : ∀ k, obj[k]? = none → ∀ path, again.look (way ++ .key k :: path) =
    if isPlain (old.look (way ++ [.key k])) then none else old.look (way ++ .key k :: path)

/-- A document in which the rows of a section were saved. -/
structure RowsSaved (old again : Table φ) (way : List Step) (items : List Json) : Prop where
  count : again.look way = if items = [] then none else some (.rows items.length)
  each : ∀ (i : Nat) (item : Json), items[i]? = some item → ∃ obj, item.asObject = some obj ∧
    RowSaved old again (way ++ [.row i]) obj
  elsewhere : ∀ path, ¬ way <+: path → ¬ path <+: way → again.look path = old.look path

/-- A row of the document says an item already. -/
structure RowSays (old : Table φ) (way : List Step) (obj : AttrMap) : Prop where
  isRow : old.look way = some .table
  named : ∀ k v, obj[k]? = some v → ∃ value, jsonToTomlItem v = .ok value ∧
    old.look (way ++ [.key k]) = some (.value (keptAt (old.look (way ++ [.key k])) value))
  unnamed : ∀ k, obj[k]? = none → isPlain (old.look (way ++ [.key k])) = false

/-- A row that says its item already is as it was, its sub-tables too. -/
theorem RowSaved.unchanged (saved : RowSaved old again way obj) (already : RowSays old way obj)
    (path : List Step) : again.look (way ++ path) = old.look (way ++ path) := by
  cases path with
  | nil => rw [List.append_nil, saved.isRow, already.isRow]
  | cons step rest =>
    cases step with
    | row i => exact (Item.look_row_below saved.isRow i).trans (Item.look_row_below already.isRow i).symm
    | key k =>
      cases found : obj[k]? with
      | none => rw [saved.unnamed k found rest, already.unnamed k found, if_neg Bool.false_ne_true]
      | some v =>
        obtain ⟨value, converted, now⟩ := saved.named k v found
        obtain ⟨value', converted', was⟩ := already.named k v found
        rw [converted, Except.ok.injEq] at converted'
        subst converted'
        by_cases here : rest = []
        · rw [here, now, ← was]
        · have split : way ++ .key k :: rest = (way ++ [.key k]) ++ rest := by simp
          rw [split]
          exact (Item.look_below_value now here).trans (Item.look_below_value was here).symm

/-- What the edit of a parent table says of the document. -/
theorem Walked.saved {parent parent' : Table φ} {leaf : String} {items : List Json} {objects : List AttrMap}
    {rows : List (Table φ)} (walked : Walked way doc doc' parent parent')
    (same : items.map Json.asObject = objects.map some) (edit : RowsEdit (rowsUnder parent leaf) objects rows)
    (stored : parent'.get leaf = some (.arrayOfTables rows))
    (others : ∀ other ≠ leaf, parent'.get other = parent.get other) :
    RowsSaved doc doc' (way ++ [.key leaf]) items := by
  constructor
  · have lengths : items.length = rows.length := by
      rw [edit.count, ← List.length_map Json.asObject, same, List.length_map]
    rw [walked.after _ (List.cons_ne_nil _ _), Table.look_key, stored, lengths]
    cases rows with
    | nil => rw [if_pos (List.length_eq_zero_iff.mp lengths)]; rfl
    | cons row rest =>
      have some : items ≠ [] := List.ne_nil_of_length_eq_add_one lengths
      rw [if_neg some]
      rfl
  · intro i item found
    have at_ : (items.map Json.asObject)[i]? = (objects.map some)[i]? := by rw [same]
    rw [List.getElem?_map, List.getElem?_map, found, Option.map_some] at at_
    obtain ⟨obj, listed, isObject⟩ := Option.map_eq_some_iff.mp at_.symm
    obtain ⟨row, placed, rowEdit⟩ := edit.each i obj listed
    have now (path : List Step) : doc'.look (way ++ [.key leaf] ++ [.row i] ++ path) = row.look path := by
      rw [List.append_assoc, List.append_assoc, List.singleton_append, List.singleton_append,
        walked.after _ (List.cons_ne_nil _ _), Table.look_key, stored, Option.bind_some, Item.look, Item.find,
        placed]
      rfl
    have was (k : String) (path : List Step) : doc.look (way ++ [.key leaf] ++ [.row i] ++ .key k :: path) =
        Table.look ((rowsUnder parent leaf)[i]?.getD []) (.key k :: path) := by
      rw [List.append_assoc, List.append_assoc, List.singleton_append, List.singleton_append,
        walked.before _ (List.cons_ne_nil _ _), look_rowsUnder]
    refine ⟨obj, isObject.symm, ?_, fun k v has => ?_, fun k absent path => ?_⟩
    · have here := now []
      rw [List.append_nil] at here
      rw [here]
      rfl
    · rw [now, was]
      exact rowEdit.look_named has
    · rw [now, was, was]
      exact rowEdit.look_unnamed absent path
  · intro path notUnder notAbove
    by_cases under : way <+: path
    · obtain ⟨rest, rfl⟩ := under
      rw [List.prefix_append_right_inj] at notUnder notAbove
      cases rest with
      | nil => exact absurd List.nil_prefix notAbove
      | cons step rest =>
        rw [walked.after _ (List.cons_ne_nil _ _), walked.before _ (List.cons_ne_nil _ _)]
        cases step with
        | row i => rfl
        | key k =>
          have differs : k ≠ leaf := by
            rintro rfl
            exact notUnder ⟨rest, rfl⟩
          rw [Table.look_key, Table.look_key, others k differs]
    · have above : ¬ path <+: way := fun above => notAbove (above.trans (List.prefix_append _ _))
      exact walked.apart path under above

theorem editDocument_saved {sectionPath : String} {items : List Json}
    (done : toml.editDocument doc sectionPath items = .ok doc') :
    RowsSaved doc doc' (place sectionPath) items := by
  obtain ⟨parent, parent', edited, walked⟩ := walked_of_walkToTable done
  obtain ⟨objects, rows, same, edit, stored, others⟩ := replaceIn_edit edited
  rw [place_eq]
  exact walked.saved same edit stored others

/-- The document is read back as it was written. -/
def TomlEdit.Faithful (toml : TomlEdit φ) (doc : Table φ) : Prop :=
  ∃ again, toml.parse (toml.print doc) = .ok again ∧ Table.SameData again doc

/-- What is saved is what is read back. -/
theorem RowsSaved.congr {items : List Json} (saved : RowsSaved old doc way items)
    (same : Table.SameData again doc) : RowsSaved old again way items := by
  refine ⟨(same way).trans saved.count, fun i item found => ?_, fun path notUnder notAbove =>
    (same path).trans (saved.elsewhere path notUnder notAbove)⟩
  obtain ⟨obj, isObject, row⟩ := saved.each i item found
  refine ⟨obj, isObject, (same _).trans row.isRow, fun k v has => ?_, fun k absent path =>
    (same _).trans (row.unnamed k absent path)⟩
  obtain ⟨value, converted, stored⟩ := row.named k v has
  exact ⟨value, converted, (same _).trans stored⟩

/-- The rows that are read back say the items, with the sub-tables of the rows that stood where they
stand; a row that said its item already is as it was; and so is the rest of the document. -/
theorem rows_replaced (toml : TomlEdit φ) {current sectionPath text : String} {items : List Json}
    {doc : Table φ} (read : toml.parse current = .ok doc)
    (done : toml.replaceArrayOfTables current sectionPath items = .ok text)
    (faithful : ∀ edited, toml.editDocument doc sectionPath items = .ok edited → toml.Faithful edited) :
    ∃ again, toml.parse text = .ok again ∧ RowsSaved doc again (place sectionPath) items ∧
      ∀ (i : Nat) (item : Json) (obj : AttrMap), items[i]? = some item → item.asObject = some obj →
        RowSays doc (place sectionPath ++ [.row i]) obj →
          ∀ path, again.look (place sectionPath ++ .row i :: path) =
            doc.look (place sectionPath ++ .row i :: path) := by
  simp only [TomlEdit.replaceArrayOfTables, bind_ok, withContext_ok, pure_ok, read, Except.mapError,
    Except.ok.injEq] at done
  obtain ⟨_, rfl, edited, done, rfl⟩ := done
  obtain ⟨again, reread, same⟩ := faithful edited done
  have saved := (editDocument_saved done).congr same
  refine ⟨again, reread, saved, fun i item obj found isObject already path => ?_⟩
  obtain ⟨obj', isObject', row⟩ := saved.each i item found
  rw [isObject, Option.some.injEq] at isObject'
  subst isObject'
  simpa using row.unchanged already path

/-- A room with a sensor of its own. -/
def room (name : String) (gain : Int) : Table Unit :=
  [("name", .value ⟨.string name, ()⟩), ("sensor", .table false [("gain", .value ⟨.integer gain, ()⟩)])]

/-- A document of names and whole numbers, as it is printed. -/
def valueText : Value → String
  | .string s => "\"" ++ s ++ "\""
  | .integer i => toString i
  | _ => ""

mutual

def valueLines : List (String × Item Unit) → String
  | [] => ""
  | (k, .value v) :: rest => k ++ " = " ++ valueText v.value ++ "\n" ++ valueLines rest
  | _ :: rest => valueLines rest

def tableTexts (header : String) : List (String × Item Unit) → String
  | [] => ""
  | (k, .table _ entries) :: rest =>
    "[" ++ header ++ k ++ "]\n" ++ valueLines entries ++ tableTexts (header ++ k ++ ".") entries ++
      tableTexts header rest
  | (k, .arrayOfTables rows) :: rest => rowTexts header k rows ++ tableTexts header rest
  | _ :: rest => tableTexts header rest

def rowTexts (header k : String) : List (List (String × Item Unit)) → String
  | [] => ""
  | row :: rest =>
    "[[" ++ header ++ k ++ "]]\n" ++ valueLines row ++ tableTexts (header ++ k ++ ".") row ++
      rowTexts header k rest

end

def rooms : Table Unit := [("rooms", .arrayOfTables [room "hall" 2, room "loft" 3])]

def oneRoom (name : String) : Table Unit := [("rooms", .arrayOfTables [room name 2])]

def printed (doc : Table Unit) : String := valueLines doc ++ tableTexts "" doc

def plainToml : TomlEdit Unit where
  parse text := ([rooms, oneRoom "hall", oneRoom "loft"].find? (printed · == text)).elim (.error "") .ok
  print := printed
  fresh _ := ()
  decorated _ _ := ()
  sameText a b := match a.value, b.value with
    | .string s, .string t => s == t
    | .integer i, .integer j => i == j
    | _, _ => false
  debug k := "\"" ++ k ++ "\""
  debugItem _ := ""
  sameText_value := by
    rintro ⟨a, _⟩ ⟨b, _⟩ same
    cases a <;> cases b <;> simp_all

theorem plainToml_reads_rooms : plainToml.parse (printed rooms) = .ok rooms := by
  have found : (printed rooms == printed rooms) = true := beq_self_eq_true _
  simp only [plainToml, List.find?_cons, found, Option.elim_some]

theorem plainToml_reads_oneRoom : plainToml.parse (printed (oneRoom "hall")) = .ok (oneRoom "hall") ∧
    plainToml.parse (printed (oneRoom "loft")) = .ok (oneRoom "loft") := by
  have first : (printed rooms == printed (oneRoom "hall")) = false := by decide +kernel
  have second : (printed rooms == printed (oneRoom "loft")) = false := by decide +kernel
  have third : (printed (oneRoom "hall") == printed (oneRoom "loft")) = false := by decide +kernel
  simp only [plainToml, List.find?_cons, first, second, third, beq_self_eq_true, Option.elim_some, and_self]

def namedItem (name : String) : Json := .obj [("name", .str name)]

theorem replaced_rooms {name : String}
    (edit : plainToml.editDocument rooms "rooms" [namedItem name] = .ok (oneRoom name)) :
    plainToml.replaceArrayOfTables (printed rooms) "rooms" [namedItem name] = .ok (printed (oneRoom name)) := by
  simp only [TomlEdit.replaceArrayOfTables, bind_ok, withContext_ok, pure_ok, plainToml_reads_rooms, Except.mapError]
  exact ⟨rooms, rfl, oneRoom name, edit, rfl⟩

theorem faithful_rooms {name : String}
    (edit : plainToml.editDocument rooms "rooms" [namedItem name] = .ok (oneRoom name))
    (reads : plainToml.parse (printed (oneRoom name)) = .ok (oneRoom name)) (edited : Table Unit)
    (done : plainToml.editDocument rooms "rooms" [namedItem name] = .ok edited) : plainToml.Faithful edited := by
  rw [edit] at done
  cases done
  exact ⟨oneRoom name, reads, fun _ => rfl⟩

def nameOnly (name : String) : AttrMap := Std.ExtTreeMap.ofList [("name", Json.str name)]

theorem room_named {doc : Table Unit} {way : List Step} {name : String} {gain : Int}
    (here : ∀ path, doc.look (way ++ path) = (room name gain).look path) :
    RowSays doc way (nameOnly name) := by
  have holds (k : String) : (nameOnly name)[k]? = if k = "name" then some (.str name) else none := by
    rw [nameOnly, Std.ExtTreeMap.ofList_singleton, Std.ExtTreeMap.getElem?_insert, Std.ExtTreeMap.getElem?_empty]
    simp only [Std.compare_eq_iff_eq]
    exact if_congr eq_comm rfl rfl
  constructor
  · have row := here []
    rw [List.append_nil] at row
    rw [row]
    rfl
  · intro k v found
    rw [holds, Option.ite_none_right_eq_some, Option.some.injEq] at found
    obtain ⟨rfl, rfl⟩ := found
    refine ⟨.string name, rfl, ?_⟩
    rw [here]
    rfl
  · intro k absent
    rw [holds, ite_eq_right_iff] at absent
    have other : k ≠ "name" := fun same => by cases absent same
    rw [here, room, Table.look_key, Table.get_cons, if_neg other, Table.get_cons]
    split <;> rfl

/-- The row behind the one that stays goes, and the one that stays keeps its sensor. -/
theorem hall_keeps_its_sensor : ∃ again, plainToml.parse (printed (oneRoom "hall")) = .ok again ∧
    RowsSaved rooms again (place "rooms") [namedItem "hall"] ∧
    ∀ (i : Nat) (item : Json) (obj : AttrMap), [namedItem "hall"][i]? = some item → item.asObject = some obj →
      RowSays rooms (place "rooms" ++ [.row i]) obj →
        ∀ path, again.look (place "rooms" ++ .row i :: path) = rooms.look (place "rooms" ++ .row i :: path) := by
  have edit : plainToml.editDocument rooms "rooms" [namedItem "hall"] = .ok (oneRoom "hall") := rfl
  exact rows_replaced plainToml plainToml_reads_rooms (replaced_rooms edit)
    (faithful_rooms edit plainToml_reads_oneRoom.1)

/-- Of two rows the first goes, and the second comes to have the sensor of the first. -/
theorem loft_takes_the_sensor_of_the_hall :
    ¬ ∀ (toml : TomlEdit Unit) (current sectionPath text : String) (items : List Json)
      (doc again : Table Unit) (kept : List Nat),
      toml.parse current = .ok doc →
      toml.replaceArrayOfTables current sectionPath items = .ok text →
      (∀ edited, toml.editDocument doc sectionPath items = .ok edited → toml.Faithful edited) →
      toml.parse text = .ok again →
      kept.Pairwise (· < ·) →
      List.Forall₂ (fun (item : Json) (j : Nat) => ∃ obj, item.asObject = some obj ∧
        RowSays doc (place sectionPath ++ [.row j]) obj) items kept →
      ∀ (i j : Nat) (k : String) (path : List Step), kept[i]? = some j →
        doc.look (place sectionPath ++ [.row j, .key k]) = some .table →
        again.look (place sectionPath ++ .row i :: .key k :: path) =
          doc.look (place sectionPath ++ .row j :: .key k :: path) := by
  intro claim
  have edit : plainToml.editDocument rooms "rooms" [namedItem "loft"] = .ok (oneRoom "loft") := rfl
  have way : place "rooms" = [.key "rooms"] := by decide
  have loft : RowSays rooms (place "rooms" ++ [.row 1]) (nameOnly "loft") := by
    refine @room_named rooms _ "loft" 3 fun path => ?_
    rw [way]
    rfl
  have hasSensor : rooms.look (place "rooms" ++ [.row 1, .key "sensor"]) = some .table := by
    rw [way]
    rfl
  have moved := claim plainToml (printed rooms) "rooms" _ [namedItem "loft"] rooms (oneRoom "loft") [1]
    plainToml_reads_rooms (replaced_rooms edit) (faithful_rooms edit plainToml_reads_oneRoom.2)
    plainToml_reads_oneRoom.2 (List.pairwise_singleton _ _) (.cons ⟨_, rfl, loft⟩ .nil) 0 1 "sensor"
    [.key "gain"] rfl hasSensor
  rw [way] at moved
  have gains : some (Mark.value (.integer 2)) = some (Mark.value (.integer 3)) := moved
  simp at gains

end HomeCore.ConfigWriter
