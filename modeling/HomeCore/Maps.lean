import Mathlib

/-! Overlaying one finite map on another, entry by entry. -/
namespace Maps
variable {α β γ : Type} {cmp : α → α → Ordering} [Std.TransCmp cmp] [Std.LawfulEqCmp cmp]

/-- Entries are written one after another, and each write settles its own key alone, from what was
there: afterwards a key the patch holds has what its entry makes of it, and any other key is as it was. -/
theorem getElem?_foldl_settle {write : Std.ExtTreeMap α γ cmp → α → β → Std.ExtTreeMap α γ cmp}
    {settle : α → β → Option γ → Option γ}
    (written : ∀ target k v key,
      (write target k v)[key]? = if cmp k key = .eq then settle key v target[key]? else target[key]?)
    (patch : Std.ExtTreeMap α β cmp) (target : Std.ExtTreeMap α γ cmp) (key : α) :
    (patch.foldl write target)[key]? =
      (patch[key]?).elim target[key]? fun v => settle key v target[key]? := by
  rw [Std.ExtTreeMap.foldl_eq_foldl_toList]
  have overlay : ∀ (entries : List (α × β)) (target : Std.ExtTreeMap α γ cmp),
      entries.Pairwise (fun a b => ¬ cmp a.1 b.1 = .eq) →
      (∀ v, (key, v) ∈ entries →
        (entries.foldl (fun m e => write m e.1 e.2) target)[key]? = settle key v target[key]?) ∧
      ((∀ v, (key, v) ∉ entries) →
        (entries.foldl (fun m e => write m e.1 e.2) target)[key]? = target[key]?) := by
    intro entries
    induction entries with
    | nil => simp
    | cons entry rest ih =>
      obtain ⟨k, v⟩ := entry
      intro target distinct
      obtain ⟨apart, distinct⟩ := List.pairwise_cons.mp distinct
      obtain ⟨settled, untouched⟩ := ih (write target k v) distinct
      simp only [List.foldl_cons, List.mem_cons, Prod.mk.injEq]
      refine ⟨?_, ?_⟩
      · rintro w (⟨rfl, rfl⟩ | later)
        · have absent : ∀ u, (key, u) ∉ rest := by
            intro u member
            exact apart _ member Std.ReflCmp.compare_self
          rw [untouched absent, written, if_pos Std.ReflCmp.compare_self]
        · have differ : ¬ cmp k key = .eq := apart _ later
          rw [settled w later, written, if_neg differ]
      · intro absent
        have other : ¬ cmp k key = .eq := by
          intro same
          exact absent v (.inl ⟨(Std.LawfulEqCmp.eq_of_compare same).symm, rfl⟩)
        rw [untouched fun u member => absent u (.inr member), written, if_neg other]
  obtain ⟨settled, untouched⟩ := overlay patch.toList target patch.distinct_keys_toList
  cases found : patch[key]? with
  | some v => exact settled v (Std.ExtTreeMap.mem_toList_iff_getElem?_eq_some.mpr found)
  | none =>
    have absent : ∀ v, (key, v) ∉ patch.toList := by
      intro v member
      rw [Std.ExtTreeMap.mem_toList_iff_getElem?_eq_some, found] at member
      cases member
    exact untouched absent

/-- The same, where what was there does not matter. -/
theorem getElem?_foldl {write : Std.ExtTreeMap α γ cmp → α → β → Std.ExtTreeMap α γ cmp}
    {settle : β → Option γ}
    (written : ∀ target k v key,
      (write target k v)[key]? = if cmp k key = .eq then settle v else target[key]?)
    (patch : Std.ExtTreeMap α β cmp) (target : Std.ExtTreeMap α γ cmp) (key : α) :
    (patch.foldl write target)[key]? = (patch[key]?.map settle).getD target[key]? := by
  let regardless : α → β → Option γ → Option γ := fun _ v _ => settle v
  have settled : ∀ target k v key, (write target k v)[key]? =
      if cmp k key = .eq then regardless key v target[key]? else target[key]? := written
  rw [getElem?_foldl_settle settled patch target key]
  cases patch[key]? <;> rfl

theorem getElem?_foldl_erase_of_not_mem {keys : List α} {m : Std.ExtTreeMap α β cmp} {key : α}
    (absent : key ∉ keys) : (keys.foldl (fun m k => m.erase k) m)[key]? = m[key]? := by
  induction keys generalizing m with
  | nil => rfl
  | cons k rest ih =>
    simp only [List.mem_cons, not_or] at absent
    obtain ⟨other, absent⟩ := absent
    rw [List.foldl_cons, ih absent, Std.ExtTreeMap.getElem?_erase, if_neg]
    intro same
    exact other (Std.LawfulEqCmp.eq_of_compare same).symm

omit [Std.LawfulEqCmp cmp] in
/-- Erasing keys leaves an entry as it was, or takes it away. -/
theorem getElem?_foldl_erase (keys : List α) (m : Std.ExtTreeMap α β cmp) (key : α) :
    (keys.foldl (fun m k => m.erase k) m)[key]? = none ∨ (keys.foldl (fun m k => m.erase k) m)[key]? = m[key]? := by
  induction keys generalizing m with
  | nil => exact .inr rfl
  | cons k rest ih =>
    rw [List.foldl_cons]
    rcases ih (m.erase k) with gone | kept
    · exact .inl gone
    · rw [kept, Std.ExtTreeMap.getElem?_erase]
      split
      · exact .inl rfl
      · exact .inr rfl

theorem mem_of_getElem?_ofList [BEq α] [Std.LawfulBEqCmp cmp] {entries : List (α × β)} {key : α}
    {b : β} (found : (Std.ExtTreeMap.ofList entries cmp)[key]? = some b) : (key, b) ∈ entries := by
  rw [Std.ExtTreeMap.ofList_eq_insertMany_empty, Std.ExtTreeMap.getElem?_insertMany_list,
    Std.ExtTreeMap.getElem?_empty, Option.or_none, List.findSomeRev?_eq_findSome?_reverse] at found
  obtain ⟨⟨k, v⟩, member, same⟩ := List.exists_of_findSome?_eq_some found
  dsimp only at same
  split at same
  · next equal =>
    cases same
    rw [← Std.LawfulEqCmp.eq_of_compare equal]
    exact List.mem_reverse.mp member
  · cases same

/-- Maps made of one list, under the same keys. -/
theorem getElem?_ofList_map [BEq α] [Std.LawfulBEqCmp cmp] {δ : Type} (keyOf : δ → α) (view : δ → β) (items : List δ) (key : α) :
    (Std.ExtTreeMap.ofList (items.map fun item => (keyOf item, view item)) cmp)[key]? =
      (Std.ExtTreeMap.ofList (items.map fun item => (keyOf item, item)) cmp)[key]?.map view := by
  rw [Std.ExtTreeMap.ofList_eq_insertMany_empty, Std.ExtTreeMap.ofList_eq_insertMany_empty,
    Std.ExtTreeMap.getElem?_insertMany_list, Std.ExtTreeMap.getElem?_insertMany_list,
    Std.ExtTreeMap.getElem?_empty, Std.ExtTreeMap.getElem?_empty, Option.or_none, Option.or_none,
    List.findSomeRev?_eq_findSome?_reverse, List.findSomeRev?_eq_findSome?_reverse, ← List.map_reverse,
    ← List.map_reverse, List.findSome?_map, List.findSome?_map]
  induction items.reverse with
  | nil => rfl
  | cons item rest ih =>
    rw [List.findSome?_cons, List.findSome?_cons, ih]
    simp only [Function.comp_apply]
    split <;> simp_all

/-- A map rebuilt from its values alone, where each value knows its key. -/
theorem getElem?_ofList_toList [BEq α] [LawfulBEq α] [Std.LawfulBEqCmp cmp] {keyOf : β → α}
    {m : Std.ExtTreeMap α β cmp} (keyed : ∀ k v, m[k]? = some v → keyOf v = k) (view : β → γ)
    (key : α) :
    (Std.ExtTreeMap.ofList ((m.toList.map (·.2)).map fun v => (keyOf v, view v)) cmp)[key]? =
      m[key]?.map view := by
  have entries : (m.toList.map (·.2)).map (fun v => (keyOf v, view v)) =
      m.toList.map fun e => (e.1, view e.2) := by
    rw [List.map_map]
    refine List.map_congr_left fun e member => ?_
    rw [← keyed e.1 e.2 (Std.ExtTreeMap.mem_toList_iff_getElem?_eq_some.mp member)]
    rfl
  rw [entries]
  cases found : m[key]? with
  | some v =>
    refine Std.ExtTreeMap.getElem?_ofList_of_mem Std.ReflCmp.compare_self ?_ ?_
    · exact List.pairwise_map.mpr m.distinct_keys_toList
    · exact List.mem_map.mpr
        ⟨(key, v), Std.ExtTreeMap.mem_toList_iff_getElem?_eq_some.mpr found, rfl⟩
  | none =>
    refine Std.ExtTreeMap.getElem?_ofList_of_contains_eq_false ?_
    rw [Bool.eq_false_iff, ne_eq, List.contains_iff_mem]
    intro member
    simp only [List.map_map, List.mem_map, Function.comp_apply] at member
    obtain ⟨e, member, rfl⟩ := member
    rw [Std.ExtTreeMap.mem_toList_iff_getElem?_eq_some.mp member] at found
    cases found

theorem toList_nodup (m : Std.ExtTreeMap α β cmp) : m.toList.Nodup := by
  refine m.distinct_keys_toList.imp fun {a b} differ same => differ ?_
  rw [same]
  exact Std.ReflCmp.compare_self

theorem toList_insert_perm {m : Std.ExtTreeMap α β cmp} {key : α} (absent : m[key]? = none) (b : β) :
    (m.insert key b).toList.Perm ((key, b) :: m.toList) := by
  have fresh : (key, b) ∉ m.toList := by
    rw [Std.ExtTreeMap.mem_toList_iff_getElem?_eq_some, absent]
    rintro ⟨⟩
  refine (List.perm_ext_iff_of_nodup (toList_nodup _)
    (List.nodup_cons.mpr ⟨fresh, toList_nodup m⟩)).mpr ?_
  rintro ⟨k, v⟩
  rw [List.mem_cons, Std.ExtTreeMap.mem_toList_iff_getElem?_eq_some,
    Std.ExtTreeMap.mem_toList_iff_getElem?_eq_some, Std.ExtTreeMap.getElem?_insert, Prod.mk.injEq]
  by_cases same : cmp key k = .eq
  · cases Std.LawfulEqCmp.eq_of_compare same
    simp [absent, same, eq_comm]
  · have apart : k ≠ key := by
      rintro rfl
      exact same Std.ReflCmp.compare_self
    simp [same, apart]

theorem toList_erase_perm {m : Std.ExtTreeMap α β cmp} {key : α} {b : β} (found : m[key]? = some b) :
    m.toList.Perm ((key, b) :: (m.erase key).toList) := by
  have back : (m.erase key).insert key b = m := by
    ext k v
    rw [Std.ExtTreeMap.getElem?_insert, Std.ExtTreeMap.getElem?_erase]
    by_cases same : cmp key k = .eq
    · cases Std.LawfulEqCmp.eq_of_compare same
      simp [found]
    · simp [same]
  have absent : (m.erase key)[key]? = none := by
    rw [Std.ExtTreeMap.getElem?_erase, if_pos Std.ReflCmp.compare_self]
  calc
    List.Perm m.toList ((m.erase key).insert key b).toList := by rw [back]
    List.Perm _ ((key, b) :: (m.erase key).toList) := toList_insert_perm absent b

end Maps
