import HomeCore.Devices.ForgottenProofs
import HomeCore.Types.MergePatch

/-! A partial report, beside the merge-patch of RFC 7396. Attributes are merged one by
one, those that are null are removed, and the others replaced as a whole: an object
within one is not merged with what is stored. -/
namespace HomeCore
open Json

/-- The stored attributes, but for provenance that older versions left among them. -/
def withoutProvenance (stored : AttrMap) : AttrMap := provenanceKeys.foldl (·.erase ·) stored

section Reports
variable {stored payload : AttrMap}

theorem getElem?_withoutProvenance (key : String) :
    (withoutProvenance stored)[key]? = if key ∈ provenanceKeys then none else stored[key]? := by
  simp only [withoutProvenance, provenanceKeys, List.foldl_cons, List.foldl_nil,
    Std.ExtTreeMap.getElem?_erase, Std.compare_eq_iff_eq, List.mem_cons, List.not_mem_nil, or_false]
  grind

theorem lookup_toList (m : AttrMap) (key : String) : m.toList.lookup key = m[key]? :=
  ((toList_eq_iff m.ordered_keys_toList).mp rfl key).symm

theorem getElem?_partialReport (key : String) :
    (reportedAttributes stored payload true)[key]? =
      if key ∈ provenanceKeys then none
      else ((stripProvenance payload)[key]?).elim stored[key]? fun value =>
        if value = .null then none else some value := by
  rw [getElem?_reportedAttributes, if_pos rfl, getElem?_applyPartialMergePatch]
  cases (stripProvenance payload)[key]? <;> rfl

/-- The report's merge is the merge-patch exactly where each reading is whole. -/
theorem partial_eq_mergePatch_iff
    (ordered : ∀ (key : String) (value : Json), payload[key]? = some value → InKeyOrder value) :
    reportedAttributes stored payload true =
        mergeFields (withoutProvenance stored) (stripProvenance payload).toList ↔
      ∀ (key : String) (value : Json), (stripProvenance payload)[key]? = some value →
        Whole stored[key]? value := by
  have distinct := keys_distinct (stripProvenance payload).ordered_keys_toList
  have perKey (key : String) : (reportedAttributes stored payload true)[key]? =
        (mergeFields (withoutProvenance stored) (stripProvenance payload).toList)[key]? ↔
      ∀ value, (stripProvenance payload)[key]? = some value → Whole stored[key]? value := by
    rw [getElem?_partialReport, getElem?_mergeFields _ distinct, lookup_toList, getElem?_withoutProvenance]
    by_cases provenance : key ∈ provenanceKeys
    · rw [if_pos provenance, if_pos provenance, stripProvenance_of_mem provenance]
      simp
    · rw [if_neg provenance, if_neg provenance]
      cases read : (stripProvenance payload)[key]? with
      | none => simp
      | some value =>
        have inOrder : InKeyOrder value := by
          refine ordered key value ?_
          rw [getElem?_stripProvenance] at read
          split at read
          · cases read
          · exact read
        rw [Option.elim_some, Option.elim_some]
        simp only [Option.some.injEq, forall_eq']
        rw [← mergePatch_eq_self_iff inOrder]
        by_cases isNull : value = .null
        · rw [if_pos isNull, if_pos isNull, isNull]
          simp [mergePatch]
        · rw [if_neg isNull, if_neg isNull, Option.some_inj, eq_comm]
  constructor
  · intro same key
    exact (perKey key).mp (by rw [same])
  · intro whole
    exact Std.ExtTreeMap.ext_getElem? fun key => (perKey key).mpr (whole key)

end Reports

section Bridge
variable (readers : ChangeReaders) (now : DateTime) (failing : Option StoreCall)
  (bridge : StateBridge) (deviceId : String)

/-- The record after a report. -/
def recordAfter (incoming : Json) (isPartial : Bool) : Option DeviceState :=
  (bridge.handleState readers now failing deviceId incoming isPartial).1.store.getDevice deviceId

theorem recordAfter_attributes {incoming : Json} {payload : AttrMap} (isPartial : Bool)
    (isObject : incoming.asObject = some payload) (handled : Handled bridge.store failing deviceId) :
    (recordAfter readers now failing bridge deviceId incoming isPartial).map (·.attributes) =
      some (reportedAttributes (recordBefore now deviceId bridge.store).attributes payload isPartial) := by
  obtain ⟨after, _, _, sameId, attributes, _, written, _⟩ :=
    handleState_handled readers now failing bridge deviceId incoming isPartial isObject handled
  rw [recordAfter, written, getDevice_upsert, if_pos sameId, Option.map_some, attributes]

theorem ordered_payload {fields : List (String × Json)} (ordered : InKeyOrder (.obj fields))
    {key : String} {value : Json} (found : (Std.ExtTreeMap.ofList fields)[key]? = some value) :
    InKeyOrder value := by
  rw [InKeyOrder] at ordered
  have listed := Maps.mem_of_getElem?_ofList found
  have each : ∀ fields, FieldsInKeyOrder fields → ∀ entry ∈ fields, InKeyOrder entry.2 := by
    intro fields all
    induction fields with
    | nil => rintro _ ⟨⟩
    | cons entry rest ih =>
      obtain ⟨first, later⟩ := all
      exact List.forall_mem_cons.mpr ⟨first, ih later⟩
  exact each fields ordered.2 (key, value) listed

/-- After a partial report, each attribute that it reads as null is gone, each other
one that it reads is as it was read, and the rest are as they were, but for stored
provenance. It is the merge-patch exactly where no reading that is an object removes
a member or leaves out one of the object that it replaces, at any depth. -/
theorem partial_report_merges_attributes (fields : List (String × Json))
    (handled : Handled bridge.store failing deviceId) (ordered : InKeyOrder (.obj fields)) :
    let stored := (recordBefore now deviceId bridge.store).attributes
    let readings := stripProvenance (Std.ExtTreeMap.ofList fields)
    ∃ device, recordAfter readers now failing bridge deviceId (.obj fields) true = some device ∧
      (∀ key : String, device.attributes[key]? =
        if key ∈ provenanceKeys then none
        else readings[key]?.elim stored[key]? fun value => if value = .null then none else some value) ∧
      (device.attributes = mergeFields (withoutProvenance stored) readings.toList ↔
        ∀ (key : String) (value : Json), readings[key]? = some value → Whole stored[key]? value) := by
  intro stored readings
  have attributes := @recordAfter_attributes readers now failing bridge deviceId (.obj fields) _ true
    rfl handled
  obtain ⟨device, after, reported⟩ := Option.map_eq_some_iff.mp attributes
  refine ⟨device, after, ?_, ?_⟩
  · intro key
    rw [reported]
    exact getElem?_partialReport key
  · rw [reported]
    exact partial_eq_mergePatch_iff fun key value found => ordered_payload ordered found

end Bridge

/-! ## A lamp's colour -/

def colourStored : AttrMap :=
  Std.ExtTreeMap.ofList
    [("color", Json.obj [("hue", .num (.posInt 120)), ("saturation", .num (.posInt 80))]),
      ("on", Json.bool true)]

def colourLamp : StateBridge where
  store := DeviceStore.upsert ⟨∅, [], DeviceStore.none_keyed⟩
    { DeviceState.new "hue_1" "Lamp" "hue" 0 with
      attributes := colourStored
      canonicalName := some "lamp" }
  pendingCommandChanges := ∅

def unread : ChangeReaders := ⟨fun _ _ => none, fun _ => none⟩

/-- A new hue replaces the colour, and its saturation is lost. -/
theorem saturation_is_lost :
    let hue : List (String × Json) := [("color", .obj [("hue", .num (.posInt 30))])]
    (recordAfter unread 0 none colourLamp "hue_1" (.obj hue) true).map (·.attributes) ≠
      some (mergeFields colourStored hue) := by
  decide

/-- A whole colour replaces the one before it. -/
theorem whole_colour_is_merged :
    let colour : List (String × Json) :=
      [("color", .obj [("hue", .num (.posInt 30)), ("saturation", .num (.posInt 90))]), ("on", .null)]
    let stored := (recordBefore 0 "hue_1" colourLamp.store).attributes
    let readings := stripProvenance (Std.ExtTreeMap.ofList colour)
    ∃ device, recordAfter unread 0 none colourLamp "hue_1" (.obj colour) true = some device ∧
      (∀ key : String, device.attributes[key]? =
        if key ∈ provenanceKeys then none
        else readings[key]?.elim stored[key]? fun value => if value = .null then none else some value) ∧
      (device.attributes = mergeFields (withoutProvenance stored) readings.toList ↔
        ∀ (key : String) (value : Json), readings[key]? = some value → Whole stored[key]? value) := by
  refine partial_report_merges_attributes unread 0 none colourLamp "hue_1" _ ?_ ?_
  · refine ⟨by rintro ⟨⟩, by rintro ⟨⟩, ?_⟩
    split
    · exact fun _ => by rintro ⟨⟩
    · rename_i unknown
      exact absurd unknown (by decide)
  · simp only [InKeyOrder, FieldsInKeyOrder, List.pairwise_cons, List.forall_mem_cons,
      List.Pairwise.nil, List.not_mem_nil, false_implies, implies_true, and_true]
    decide

end HomeCore
