import HomeCore.Maps
import HomeCore.Types.Json

/-! JSON merge-patch, as RFC 7396 has it: the members of an object are merged one by
one at every depth, those that are null are removed, and any other value replaces
what was there. -/
namespace HomeCore.Json

/-- The members of an object, none where there is none. -/
def members (target : Option Json) : AttrMap := (target.bind asObject).getD ∅

mutual

def mergePatch (target : Option Json) : Json → Json
  | .obj fields => .obj (mergeFields (members target) fields).toList
  | patch => patch

def mergeFields (target : AttrMap) : List (String × Json) → AttrMap
  | [] => target
  | (key, .null) :: rest => mergeFields (target.erase key) rest
  | (key, value) :: rest => mergeFields (target.insert key (mergePatch target[key]? value)) rest

end

mutual

/-- The patch of an object leaves none of its members out, and removes none, at any depth. -/
def Whole (target : Option Json) : Json → Prop
  | .obj fields =>
    (∀ key ∈ members target, key ∈ fields.map (·.1)) ∧ WholeFields (members target) fields
  | _ => True

def WholeFields (target : AttrMap) : List (String × Json) → Prop
  | [] => True
  | (key, value) :: rest => value ≠ .null ∧ Whole target[key]? value ∧ WholeFields target rest

end

mutual

/-- Every object holds each key once, in key order. -/
def InKeyOrder : Json → Prop
  | .obj fields => fields.Pairwise (fun a b => compare a.1 b.1 = .lt) ∧ FieldsInKeyOrder fields
  | _ => True

def FieldsInKeyOrder : List (String × Json) → Prop
  | [] => True
  | (_, value) :: rest => InKeyOrder value ∧ FieldsInKeyOrder rest

end

/-! ## Objects in key order -/

section Fields
variable {fields : List (String × Json)} {key : String} {value : Json}

theorem keys_distinct (ordered : fields.Pairwise fun a b => compare a.1 b.1 = .lt) :
    fields.Pairwise fun a b => a.1 ≠ b.1 := by
  refine ordered.imp fun {a b} less same => ?_
  have equal : compare a.1 b.1 = .eq := Std.compare_eq_iff_eq.mpr same
  rw [equal] at less
  cases less

theorem lookup_cons_ne {k : String} (other : key ≠ k) :
    ((k, value) :: fields).lookup key = fields.lookup key := by
  rw [List.lookup_cons, beq_false_of_ne other]

theorem lookup_eq_some (distinct : fields.Pairwise fun a b => a.1 ≠ b.1) :
    fields.lookup key = some value ↔ (key, value) ∈ fields := by
  induction fields with
  | nil => simp
  | cons entry rest ih =>
    obtain ⟨k, v⟩ := entry
    obtain ⟨apart, distinct⟩ := List.pairwise_cons.mp distinct
    rw [List.mem_cons, Prod.mk.injEq]
    by_cases same : key = k
    · subst same
      rw [List.lookup_cons_self, Option.some_inj]
      constructor
      · exact fun isValue => .inl ⟨rfl, isValue.symm⟩
      · rintro (⟨_, isValue⟩ | later)
        · exact isValue.symm
        · exact absurd rfl (apart (key, value) later)
    · rw [lookup_cons_ne same, ih distinct]
      simp [same]

theorem lookup_eq_none : fields.lookup key = none ↔ key ∉ fields.map (·.1) := by
  rw [List.lookup_eq_none_iff, List.mem_map, not_exists]
  refine forall_congr' fun p => ?_
  rw [bne_iff_ne, ne_comm, not_and]

/-- A map has an object's members where its lookups are the object's. -/
theorem toList_eq_iff {m : AttrMap} (ordered : fields.Pairwise fun a b => compare a.1 b.1 = .lt) :
    m.toList = fields ↔ ∀ key : String, m[key]? = fields.lookup key := by
  have entries (key : String) (value : Json) : (key, value) ∈ m.toList ↔ m[key]? = some value :=
    Std.ExtTreeMap.mem_toList_iff_getElem?_eq_some
  constructor
  · rintro rfl key
    refine Option.ext fun value => ?_
    rw [lookup_eq_some (keys_distinct ordered), entries]
  · intro same
    have perm : m.toList.Perm fields := by
      refine (List.perm_ext_iff_of_nodup ?_ ?_).mpr ?_
      · exact Maps.toList_nodup m
      · exact (keys_distinct ordered).imp fun {a b} apart same => apart (congrArg Prod.fst same)
      · rintro ⟨key, value⟩
        rw [entries, same, lookup_eq_some (keys_distinct ordered)]
    refine perm.eq_of_pairwise ?_ m.ordered_keys_toList ordered
    intro a b _ _ less greater
    exact absurd greater (Std.OrientedCmp.not_lt_of_lt less)

/-- An object built from a map has the map's entries. -/
theorem get_obj_toList (m : AttrMap) (key : String) : (obj m.toList).get key = m[key]? := by
  rw [get, asObject, Option.bind_some]
  cases found : m[key]? with
  | some value =>
    exact Std.ExtTreeMap.getElem?_ofList_of_mem Std.ReflCmp.compare_self m.distinct_keys_toList
      (Std.ExtTreeMap.mem_toList_iff_getElem?_eq_some.mpr found)
  | none =>
    refine Std.ExtTreeMap.getElem?_ofList_of_contains_eq_false ?_
    rw [Bool.eq_false_iff, ne_eq, List.contains_iff_mem]
    intro member
    obtain ⟨⟨other, value⟩, isEntry, rfl⟩ := List.mem_map.mp member
    rw [Std.ExtTreeMap.mem_toList_iff_getElem?_eq_some.mp isEntry] at found
    cases found

/-! ## Merging -/

theorem mergeFields_cons (target : AttrMap) (key : String) (value : Json) (rest : List (String × Json)) :
    mergeFields target ((key, value) :: rest) =
      if value = .null then mergeFields (target.erase key) rest
      else mergeFields (target.insert key (mergePatch target[key]? value)) rest := by
  cases value <;> simp only [mergeFields, reduceCtorEq, if_true, if_false]

/-- Each member settles its own key, from what was there. -/
theorem getElem?_mergeFields (target : AttrMap) (distinct : fields.Pairwise fun a b => a.1 ≠ b.1)
    (key : String) :
    (mergeFields target fields)[key]? = (fields.lookup key).elim target[key]? fun value =>
      if value = .null then none else some (mergePatch target[key]? value) := by
  induction fields generalizing target with
  | nil => rfl
  | cons entry rest ih =>
    obtain ⟨k, v⟩ := entry
    obtain ⟨apart, restDistinct⟩ := List.pairwise_cons.mp distinct
    rw [mergeFields_cons]
    by_cases same : key = k
    · subst same
      have absent : rest.lookup key = none := by
        rw [lookup_eq_none, List.mem_map]
        rintro ⟨entry, later, sameKey⟩
        exact apart entry later sameKey.symm
      rw [List.lookup_cons_self, Option.elim_some]
      split
      · rw [ih _ restDistinct, absent, Option.elim_none, Std.ExtTreeMap.getElem?_erase_self]
      · rw [ih _ restDistinct, absent, Option.elim_none, Std.ExtTreeMap.getElem?_insert_self]
    · have other : ¬ compare k key = .eq := fun equal => same (Std.compare_eq_iff_eq.mp equal).symm
      rw [lookup_cons_ne same]
      split
      · rw [ih _ restDistinct, Std.ExtTreeMap.getElem?_erase, if_neg other]
      · rw [ih _ restDistinct, Std.ExtTreeMap.getElem?_insert, if_neg other]

theorem wholeFields_iff {target : AttrMap} : WholeFields target fields ↔
    ∀ entry ∈ fields, entry.2 ≠ .null ∧ Whole target[entry.1]? entry.2 := by
  induction fields with
  | nil => simp [WholeFields]
  | cons entry rest ih =>
    obtain ⟨key, value⟩ := entry
    rw [WholeFields, ih, List.forall_mem_cons, and_assoc]

/-- An object is its own merge onto the target where it has all of its members, and
each is its own merge onto the member it replaces. -/
theorem mergePatch_obj_iff {target : Option Json}
    (ordered : fields.Pairwise fun a b => compare a.1 b.1 = .lt) :
    mergePatch target (.obj fields) = .obj fields ↔
      (∀ key ∈ members target, key ∈ fields.map (·.1)) ∧
      ∀ entry ∈ fields,
        entry.2 ≠ .null ∧ mergePatch (members target)[entry.1]? entry.2 = entry.2 := by
  have distinct := keys_distinct ordered
  rw [mergePatch, obj.injEq, toList_eq_iff ordered]
  simp only [getElem?_mergeFields _ distinct]
  constructor
  · intro same
    constructor
    · intro key held
      by_contra absent
      have lookup := same key
      rw [lookup_eq_none.mpr absent, Option.elim_none] at lookup
      rw [Std.ExtTreeMap.mem_iff_isSome_getElem?, lookup] at held
      cases held
    · rintro ⟨key, value⟩ listed
      have lookup := same key
      rw [(lookup_eq_some distinct).mpr listed, Option.elim_some] at lookup
      split at lookup
      · cases lookup
      · rename_i nonnull
        exact ⟨nonnull, Option.some.inj lookup⟩
  · rintro ⟨all, each⟩ key
    cases found : fields.lookup key with
    | none =>
      rw [Option.elim_none, Std.ExtTreeMap.getElem?_eq_none]
      exact fun held => lookup_eq_none.mp found (all key held)
    | some value =>
      obtain ⟨nonnull, kept⟩ := each (key, value) ((lookup_eq_some distinct).mp found)
      rw [Option.elim_some, if_neg nonnull, kept]

end Fields

mutual

/-- A value is its own merge onto the target exactly where it is whole. -/
theorem mergePatch_eq_self_iff : ∀ {patch : Json} {target : Option Json}, InKeyOrder patch →
    (mergePatch target patch = patch ↔ Whole target patch)
  | .obj fields, target, ordered => by
    rw [InKeyOrder] at ordered
    rw [mergePatch_obj_iff ordered.1, Whole, wholeFields_iff]
    refine and_congr_right fun _ => forall₂_congr fun entry listed => and_congr_right fun _ => ?_
    exact mergeFields_eq_self_iff ordered.2 entry listed
  | .null, _, _ | .bool _, _, _ | .num _, _, _ | .str _, _, _ | .arr _, _, _ => by
    simp [mergePatch, Whole]

theorem mergeFields_eq_self_iff : ∀ {fields : List (String × Json)} {target : Option Json},
    FieldsInKeyOrder fields → ∀ entry ∈ fields,
      (mergePatch target entry.2 = entry.2 ↔ Whole target entry.2)
  | [], _, _ => nofun
  | (_, value) :: rest, _, ordered => by
    rw [FieldsInKeyOrder] at ordered
    intro entry listed
    rcases List.mem_cons.mp listed with rfl | later
    · exact mergePatch_eq_self_iff ordered.1
    · exact mergeFields_eq_self_iff ordered.2 entry later

end

end HomeCore.Json
