import HomeCore.TopicMap.Router
import HomeCore.Types.Text
import HomeCore.Types.MergePatch
import HomeCore.Writes

/-! The attributes of a JSON payload renamed and coerced, inbound to HomeCore's names and
outbound to the ecosystem's. Both maps of a profile are hash maps: only the inbound direction
goes through one, and it finds the entries in an order that is not fixed. The table of
coercions is a parameter. -/
namespace HomeCore.TopicMap

/-- `coerce::apply`, by the coercion's name. -/
abbrev Coercions := String → Json → Except String Json

section Fields
variable (apply : Coercions)

/-- A coercion that fails leaves the value raw. -/
def coerced (coercion : Option String) (raw : Json) : Json :=
  match coercion with
  | some name => match apply name raw with
    | .ok value => value
    | .error _ => raw
  | none => raw

def extractPath (value : Json) (path : String) : Option Json :=
  (splitText '.' path).foldlM Json.get value

/-- The entries of the field map come in the order that the hash map lists them. -/
def applyFieldMap (payload : Json) (fieldMap : List (String × String))
    (coerceMap : Std.ExtTreeMap String String) : Json :=
  match payload.asObject with
  | none => payload
  | some obj =>
    let result : AttrMap :=
      if fieldMap.isEmpty then obj.foldl (fun result key value => result.insert key value) ∅
      else fieldMap.foldl (fun result (srcKey, dstKey) =>
        match extractPath payload srcKey with
        | some rawVal => result.insert dstKey (coerced apply coerceMap[dstKey]? rawVal)
        | none => result) ∅
    .obj result.toList

/-- The attributes come in the order of their names. -/
def applyFieldMapCmd (payload : Json) (fieldMap coerceMap : Std.ExtTreeMap String String) : Json :=
  match payload.asObject with
  | none => payload
  | some obj =>
    let result : AttrMap := obj.toList.foldl (fun result (hcKey, value) =>
      let ecoKey := (fieldMap[hcKey]?).getD hcKey
      let coercion := (coerceMap[hcKey]?).or coerceMap[ecoKey]?
      result.insert ecoKey (coerced apply coercion value)) ∅
    .obj result.toList

/-! ## What the maps say -/

/-- A value that an attribute may come from, and the coercion declared for it. -/
abbrev Sources := String → Json → Option String → Prop

/-- Inbound, by the path in the field map, or by its own name where there is no field map. -/
def inboundSources (payload : Json) (fieldMap coerceMap : Std.ExtTreeMap String String) : Sources :=
  fun dstKey raw coercion => coercion = coerceMap[dstKey]? ∧
    if fieldMap.isEmpty then payload.get dstKey = some raw
    else ∃ srcKey, fieldMap[srcKey]? = some dstKey ∧ extractPath payload srcKey = some raw

/-- Outbound, by HomeCore's name, under which a coercion is looked up first. -/
def outboundSources (payload : Json) (fieldMap coerceMap : Std.ExtTreeMap String String) : Sources :=
  fun ecoKey raw coercion => ∃ hcKey, payload.get hcKey = some raw ∧
    (fieldMap[hcKey]?).getD hcKey = ecoKey ∧ coercion = (coerceMap[hcKey]?).or coerceMap[ecoKey]?

/-- Every attribute comes from one of its sources, coerced where the coercion succeeds. -/
def HoldsCoerced (sources : Sources) (result : Json) : Prop :=
  ∀ key value, result.get key = some value → ∃ raw coercion, sources key raw coercion ∧
    ∀ name ∈ coercion, ∀ converted, apply name raw = .ok converted → value = converted

/-- Whatever the order in which the hash map lists its entries, the inbound result is the same,
and in both directions every attribute holds the coerced value. -/
structure MapsFields (payload : Json) (fieldMap coerceMap : Std.ExtTreeMap String String) : Prop where
  determined : ∀ first second, first.Perm fieldMap.toList → second.Perm fieldMap.toList →
    applyFieldMap apply payload first coerceMap = applyFieldMap apply payload second coerceMap
  inbound : ∀ listed, listed.Perm fieldMap.toList →
    HoldsCoerced apply (inboundSources payload fieldMap coerceMap) (applyFieldMap apply payload listed coerceMap)
  outbound : HoldsCoerced apply (outboundSources payload fieldMap coerceMap)
    (applyFieldMapCmd apply payload fieldMap coerceMap)

/-- Where there is no field map a coercion that succeeds changes nothing, and where there is one
all that is mapped to an attribute comes to one value. -/
def Unambiguous (payload : Json) (fieldMap coerceMap : Std.ExtTreeMap String String) : Prop :=
  if fieldMap.isEmpty then
    ∀ key raw name converted, payload.get key = some raw → coerceMap[key]? = some name →
      apply name raw = .ok converted → converted = raw
  else
    ∀ first second dstKey firstRaw secondRaw,
      fieldMap[first]? = some dstKey → fieldMap[second]? = some dstKey →
      extractPath payload first = some firstRaw → extractPath payload second = some secondRaw →
      coerced apply coerceMap[dstKey]? firstRaw = coerced apply coerceMap[dstKey]? secondRaw

end Fields
end HomeCore.TopicMap

/-! What the field maps make of a payload. The attributes that are mapped are written one after
another, so the order of the entries shows exactly where two of them come to one attribute with
values that differ. -/
namespace HomeCore.TopicMap
open Writes

variable {apply : Coercions} {payload : Json} {obj : AttrMap} {fieldMap coerceMap : Std.ExtTreeMap String String}
  {listed : List (String × String)}

/-! ## Objects -/

theorem get_of_asObject (isObject : payload.asObject = some obj) (key : String) :
    payload.get key = obj[key]? := by
  rw [Json.get, isObject, Option.bind_some]

theorem get_of_not_object (noObject : payload.asObject = none) (key : String) : payload.get key = none := by
  rw [Json.get, noObject, Option.bind_none]

/-- A path has at least one part, and that is looked for in an object. -/
theorem extractPath_of_not_object (noObject : payload.asObject = none) (path : String) :
    extractPath payload path = none := by
  rw [extractPath]
  cases parts : splitText '.' path with
  | nil =>
    rw [splitText, List.map_eq_nil_iff] at parts
    exact absurd parts (List.splitOn_ne_nil '.' path.toList)
  | cons part rest =>
    rw [List.foldlM_cons, get_of_not_object noObject]
    rfl

/-- A coercion that succeeds decides the value. -/
theorem coerced_of_ok {coercion : Option String} {raw : Json} :
    ∀ name ∈ coercion, ∀ converted, apply name raw = .ok converted → coerced apply coercion raw = converted := by
  rintro name isDeclared converted succeeds
  rw [Option.mem_def.mp isDeclared, coerced, succeeds]

/-! ## Inbound -/

/-- What the entries of the field map write. -/
def writes (apply : Coercions) (payload : Json) (coerceMap : Std.ExtTreeMap String String)
    (listed : List (String × String)) : List (String × Json) :=
  listed.filterMap fun (srcKey, dstKey) =>
    (extractPath payload srcKey).map fun raw => (dstKey, coerced apply coerceMap[dstKey]? raw)

theorem mem_writes {dstKey : String} {value : Json} :
    (dstKey, value) ∈ writes apply payload coerceMap listed ↔
      ∃ srcKey raw, (srcKey, dstKey) ∈ listed ∧ extractPath payload srcKey = some raw ∧
        coerced apply coerceMap[dstKey]? raw = value := by
  rw [writes, List.mem_filterMap]
  constructor
  · rintro ⟨⟨srcKey, target⟩, member, isWrite⟩
    obtain ⟨raw, found, same⟩ := Option.map_eq_some_iff.mp isWrite
    cases same
    exact ⟨srcKey, raw, member, found, rfl⟩
  · rintro ⟨srcKey, raw, member, found, rfl⟩
    exact ⟨(srcKey, dstKey), member, by simp only [found, Option.map_some]⟩

theorem writes_perm {other : List (String × String)} (perm : listed.Perm other) :
    (writes apply payload coerceMap listed).Perm (writes apply payload coerceMap other) :=
  perm.filterMap _

theorem applyFieldMap_listed (isObject : payload.asObject = some obj) (nonempty : listed ≠ []) :
    applyFieldMap apply payload listed coerceMap =
      .obj (written (writes apply payload coerceMap listed) : AttrMap).toList := by
  have mapped : listed.isEmpty = false := List.isEmpty_eq_false_iff.mpr nonempty
  simp only [applyFieldMap, isObject, mapped, Bool.false_eq_true, if_false]
  rw [written, writes, List.foldl_filterMap]
  refine congrArg (fun result : AttrMap => Json.obj result.toList)
    (congrArg (fun step => List.foldl step ∅ listed) ?_)
  funext result field
  obtain ⟨srcKey, dstKey⟩ := field
  dsimp only
  cases extractPath payload srcKey with
  | none => rfl
  | some raw => rfl

/-- With no field map every attribute is passed through as it is. -/
theorem get_applyFieldMap_nil (key : String) :
    (applyFieldMap apply payload [] coerceMap).get key = payload.get key := by
  cases isObject : payload.asObject with
  | none => simp only [applyFieldMap, isObject]
  | some obj =>
    simp only [applyFieldMap, isObject, List.isEmpty_nil, if_true]
    rw [Json.get_obj_toList, get_of_asObject isObject]
    have inserts (target : AttrMap) (k : String) (v : Json) (key : String) : (target.insert k v)[key]? =
        if compare k key = .eq then some v else target[key]? := Std.ExtTreeMap.getElem?_insert
    have copied := Maps.getElem?_foldl inserts obj ∅ key
    rw [copied]
    cases obj[key]? with
    | none => simp
    | some value => rfl

theorem get_applyFieldMap (isObject : payload.asObject = some obj) (nonempty : listed ≠ []) (key : String) :
    (applyFieldMap apply payload listed coerceMap).get key =
      (written (writes apply payload coerceMap listed) : AttrMap)[key]? := by
  rw [applyFieldMap_listed isObject nonempty, Json.get_obj_toList]

theorem mem_listed (perm : listed.Perm fieldMap.toList) {srcKey dstKey : String} :
    (srcKey, dstKey) ∈ listed ↔ fieldMap[srcKey]? = some dstKey := by
  rw [perm.mem_iff, Std.ExtTreeMap.mem_toList_iff_getElem?_eq_some]

theorem listed_nonempty (perm : listed.Perm fieldMap.toList) (mapped : fieldMap.isEmpty = false) :
    listed ≠ [] := by
  rintro rfl
  have none := List.nil_perm.mp perm
  rw [← Std.ExtTreeMap.isEmpty_toList, none] at mapped
  cases mapped

/-- What is mapped comes from a source, and holds the coerced value. -/
theorem inbound_listed (isObject : payload.asObject = some obj) (mapped : fieldMap.isEmpty = false)
    (perm : listed.Perm fieldMap.toList) :
    HoldsCoerced apply (inboundSources payload fieldMap coerceMap)
      (applyFieldMap apply payload listed coerceMap) := by
  intro key value found
  rw [get_applyFieldMap isObject (listed_nonempty perm mapped)] at found
  obtain ⟨srcKey, raw, member, extracted, rfl⟩ := mem_writes.mp (mem_of_getElem?_written found)
  refine ⟨raw, coerceMap[key]?, ⟨rfl, ?_⟩, coerced_of_ok⟩
  rw [mapped, if_neg Bool.false_ne_true]
  exact ⟨srcKey, (mem_listed perm).mp member, extracted⟩

/-- The entry that is listed last is the one that is found. -/
theorem get_listed_last (isObject : payload.asObject = some obj) {front : List (String × String)}
    {srcKey dstKey : String} {raw : Json} (extracted : extractPath payload srcKey = some raw) :
    (applyFieldMap apply payload (front ++ [(srcKey, dstKey)]) coerceMap).get dstKey =
      some (coerced apply coerceMap[dstKey]? raw) := by
  have last : writes apply payload coerceMap (front ++ [(srcKey, dstKey)]) =
      writes apply payload coerceMap front ++ [(dstKey, coerced apply coerceMap[dstKey]? raw)] := by
    simp only [writes, List.filterMap_append, List.filterMap_cons, extracted, Option.map_some, List.filterMap_nil]
  rw [get_applyFieldMap isObject (by simp), last, getElem?_written_last]

/-- Any entry may be listed last. -/
theorem listed_last {entry : String × String} (member : entry ∈ fieldMap.toList) :
    ∃ front : List (String × String), (front ++ [entry]).Perm fieldMap.toList := by
  refine ⟨fieldMap.toList.erase entry, ?_⟩
  exact (List.perm_append_singleton entry _).trans (List.perm_cons_erase member).symm

/-! ## Outbound -/

/-- Outbound everything comes from a source, and holds the coerced value. -/
theorem outbound_coerced (apply : Coercions) (payload : Json) (fieldMap coerceMap : Std.ExtTreeMap String String) :
    HoldsCoerced apply (outboundSources payload fieldMap coerceMap)
      (applyFieldMapCmd apply payload fieldMap coerceMap) := by
  intro key value found
  cases isObject : payload.asObject with
  | none =>
    simp only [applyFieldMapCmd, isObject] at found
    rw [get_of_not_object isObject] at found
    cases found
  | some obj =>
    simp only [applyFieldMapCmd, isObject] at found
    rw [Json.get_obj_toList] at found
    have isWritten : (written (obj.toList.map fun entry =>
        ((fieldMap[entry.1]?).getD entry.1,
          coerced apply ((coerceMap[entry.1]?).or coerceMap[(fieldMap[entry.1]?).getD entry.1]?) entry.2)) :
        AttrMap)[key]? = some value := by
      rw [written, List.foldl_map]
      exact found
    obtain ⟨⟨hcKey, raw⟩, member, same⟩ := List.mem_map.mp (mem_of_getElem?_written isWritten)
    cases same
    refine ⟨raw, _, ⟨hcKey, ?_, rfl, rfl⟩, coerced_of_ok⟩
    rw [get_of_asObject isObject]
    exact Std.ExtTreeMap.mem_toList_iff_getElem?_eq_some.mp member

/-! ## Both ways -/

theorem mapsFields_of_not_object (noObject : payload.asObject = none) :
    MapsFields apply payload fieldMap coerceMap := by
  refine ⟨fun first second _ _ => ?_, fun listed _ key value found => ?_, outbound_coerced apply payload fieldMap coerceMap⟩
  · simp only [applyFieldMap, noObject]
  · simp only [applyFieldMap, noObject] at found
    rw [get_of_not_object noObject] at found
    cases found

theorem unambiguous_of_not_object (noObject : payload.asObject = none) :
    Unambiguous apply payload fieldMap coerceMap := by
  rw [Unambiguous]
  split
  · intro key raw name converted found
    rw [get_of_not_object noObject] at found
    cases found
  · intro first second dstKey firstRaw secondRaw _ _ found
    rw [extractPath_of_not_object noObject] at found
    cases found

/-- With no field map the result is the payload, so what succeeds must change nothing. -/
theorem mapsFields_empty_iff (unmapped : fieldMap.isEmpty = true) :
    MapsFields apply payload fieldMap coerceMap ↔ Unambiguous apply payload fieldMap coerceMap := by
  have none : fieldMap.toList = [] := by
    rw [← List.isEmpty_iff, Std.ExtTreeMap.isEmpty_toList, unmapped]
  rw [Unambiguous, if_pos unmapped]
  constructor
  · intro maps key raw name converted found declared succeeds
    have passed : (applyFieldMap apply payload [] coerceMap).get key = some raw := by
      rw [get_applyFieldMap_nil, found]
    obtain ⟨source, coercion, ⟨isCoercion, isSource⟩, holds⟩ :=
      maps.inbound [] (by rw [none]) key raw passed
    rw [if_pos unmapped, found] at isSource
    cases isSource
    exact (holds name (by rw [isCoercion]; exact declared) converted succeeds).symm
  · intro calm
    refine ⟨fun first second isFirst isSecond => ?_, fun listed perm key value found => ?_, outbound_coerced apply payload fieldMap coerceMap⟩
    · rw [none] at isFirst isSecond
      rw [isFirst.eq_nil, isSecond.eq_nil]
    · rw [none] at perm
      rw [perm.eq_nil, get_applyFieldMap_nil] at found
      refine ⟨value, coerceMap[key]?, ⟨rfl, by rwa [if_pos unmapped]⟩, fun name declared converted succeeds => ?_⟩
      exact (calm key value name converted found declared succeeds).symm

/-- With a field map the order of its entries shows exactly where those for one attribute differ. -/
theorem mapsFields_mapped_iff (isObject : payload.asObject = some obj) (mapped : fieldMap.isEmpty = false) :
    MapsFields apply payload fieldMap coerceMap ↔ Unambiguous apply payload fieldMap coerceMap := by
  rw [Unambiguous, if_neg (by rw [mapped]; exact Bool.false_ne_true)]
  constructor
  · intro maps first second dstKey firstRaw secondRaw isFirst isSecond firstFound secondFound
    obtain ⟨frontFirst, permFirst⟩ := listed_last (Std.ExtTreeMap.mem_toList_iff_getElem?_eq_some.mpr isFirst)
    obtain ⟨frontSecond, permSecond⟩ := listed_last (Std.ExtTreeMap.mem_toList_iff_getElem?_eq_some.mpr isSecond)
    have same := maps.determined _ _ permFirst permSecond
    have firstValue := @get_listed_last apply payload obj coerceMap isObject frontFirst _ dstKey _ firstFound
    have secondValue := @get_listed_last apply payload obj coerceMap isObject frontSecond _ dstKey _ secondFound
    rw [same, secondValue] at firstValue
    exact (Option.some.inj firstValue).symm
  · intro agree
    have agrees : ∀ listed, listed.Perm fieldMap.toList → Agree (writes apply payload coerceMap listed) := by
      intro listed perm dstKey first second isFirst isSecond
      obtain ⟨firstKey, firstRaw, firstListed, firstFound, rfl⟩ := mem_writes.mp isFirst
      obtain ⟨secondKey, secondRaw, secondListed, secondFound, rfl⟩ := mem_writes.mp isSecond
      exact agree firstKey secondKey dstKey firstRaw secondRaw ((mem_listed perm).mp firstListed)
        ((mem_listed perm).mp secondListed) firstFound secondFound
    refine ⟨fun first second isFirst isSecond => ?_, fun listed perm => inbound_listed isObject mapped perm,
      outbound_coerced apply payload fieldMap coerceMap⟩
    rw [applyFieldMap_listed isObject (listed_nonempty isFirst mapped),
      applyFieldMap_listed isObject (listed_nonempty isSecond mapped),
      written_perm (agrees first isFirst) (writes_perm (isFirst.trans isSecond.symm))]

/-- Field mapping is a function of the profile and the payload, and every attribute holds the
coerced value, if and only if the profile is unambiguous on the payload. -/
theorem maps_fields_iff (apply : Coercions) (payload : Json) (fieldMap coerceMap : Std.ExtTreeMap String String) :
    MapsFields apply payload fieldMap coerceMap ↔ Unambiguous apply payload fieldMap coerceMap := by
  cases isObject : payload.asObject with
  | none => exact ⟨fun _ => unambiguous_of_not_object isObject, fun _ => mapsFields_of_not_object isObject⟩
  | some obj =>
    cases mapped : fieldMap.isEmpty with
    | true => exact mapsFields_empty_iff mapped
    | false => exact mapsFields_mapped_iff isObject mapped

/-- What `bool_to_01` makes of a boolean, and no other coercion. -/
def boolTo01 : Coercions
  | "bool_to_01", .bool b => .ok (.str (if b then "1" else "0"))
  | name, _ => .error name

/-- Without a field map the declared coercion is not applied; and of two paths that are mapped to
one attribute, the one that the hash map lists last decides. -/
theorem field_maps_ambiguous :
    ¬ MapsFields boolTo01 (.obj [("on", .bool true)]) ∅ (.ofList [("on", "bool_to_01")]) ∧
      ¬ MapsFields boolTo01 (.obj [("power", .bool true), ("state", .bool false)])
        (.ofList [("power", "on"), ("state", "on")]) ∅ := by
  refine ⟨fun maps => ?_, fun maps => ?_⟩
  · have passed : (applyFieldMap boolTo01 (.obj [("on", .bool true)]) []
        (.ofList [("on", "bool_to_01")])).get "on" = some (.bool true) := by
      rw [get_applyFieldMap_nil]
      rfl
    obtain ⟨raw, coercion, ⟨isCoercion, isSource⟩, holds⟩ :=
      maps.inbound [] (by decide) "on" _ passed
    have isRaw : raw = .bool true := by
      rw [if_pos Std.ExtTreeMap.isEmpty_empty] at isSource
      exact (Option.some.inj isSource).symm
    have wrong := holds "bool_to_01" (by rw [isCoercion]; rfl) (.str "1") (by rw [isRaw]; rfl)
    cases wrong
  · have same := maps.determined [("power", "on"), ("state", "on")] [("state", "on"), ("power", "on")]
      (by decide) (by decide)
    have objects : (applyFieldMap boolTo01 (.obj [("power", .bool true), ("state", .bool false)])
        [("power", "on"), ("state", "on")] ∅).get "on" ≠
      (applyFieldMap boolTo01 (.obj [("power", .bool true), ("state", .bool false)])
        [("state", "on"), ("power", "on")] ∅).get "on" := by decide
    exact objects (congrArg (·.get "on") same)

end HomeCore.TopicMap
