import HomeCore.Devices.NamesProofs
import HomeCore.Rules.Resolver

/-! Which device a name stands for. A canonical name stands for its device unless
another has it for an id; a label may stand for a device with other letters outside
ASCII, which normalizing leaves out. -/
namespace HomeCore.Resolver

/-! ## Letters -/

/-- The letters and digits of all scripts, and their lower case. -/
structure Alphabet where
  letter : Char → Bool
  lower : Char → List Char
  ascii : ∀ c, c.isAlphanum = true → letter c = true ∧ lower c = [c.toLower]

namespace Alphabet
variable (alphabet : Alphabet)

/-- A text up to letter case, spaces and punctuation. -/
def essence (text : List Char) : List Char :=
  (text.filter alphabet.letter).flatMap alphabet.lower

/-- The letters outside ASCII, in their places among the others. -/
def outline (text : List Char) : List (Option (List Char)) :=
  (text.filter alphabet.letter).map fun c => if c.isAlphanum then none else some (alphabet.lower c)

/-- The places left open are filled with letters of ASCII. -/
def fill : List (Option (List Char)) → List Char → List Char
  | none :: rest, c :: letters => c :: fill rest letters
  | some c :: rest, letters => c ++ fill rest letters
  | _, _ => []

theorem fill_outline (text : List Char) :
    fill (alphabet.outline text) (asciiLetters text) = alphabet.essence text := by
  induction text with
  | nil => rfl
  | cons c rest ih =>
    rw [outline, asciiLetters, essence] at ih ⊢
    cases plain : c.isAlphanum with
    | true =>
      obtain ⟨letter, lower⟩ := alphabet.ascii c plain
      rw [List.filter_cons_of_pos letter, List.filter_cons_of_pos plain, List.map_cons, List.map_cons,
        List.flatMap_cons, if_pos plain, lower, fill, ih]
      rfl
    | false =>
      have other : ¬ c.isAlphanum = true := by
        rw [plain]
        exact Bool.false_ne_true
      rw [List.filter_cons_of_neg other]
      cases letter : alphabet.letter c with
      | true =>
        rw [List.filter_cons_of_pos letter, List.map_cons, List.flatMap_cons, if_neg other, fill, ih]
      | false =>
        rw [List.filter_cons_of_neg (by rw [letter]; exact Bool.false_ne_true)]
        exact ih

/-- Texts with one normal form are the same in essence where their letters outside
ASCII are. -/
theorem essence_eq {a b : List Char} (normal : normalizeNameChars a = normalizeNameChars b)
    (outside : alphabet.outline a = alphabet.outline b) : alphabet.essence a = alphabet.essence b := by
  rw [← fill_outline, ← fill_outline, outside, asciiLetters_of_same normal]

end Alphabet

/-! ## References -/

section References
variable {reference target : String} {devices : List DeviceState}

/-- The names that a person may know a device by. -/
def labels (device : DeviceState) : List String := device.name :: device.nameOverride.toList

theorem nameMatches_iff {device : DeviceState} : nameMatches reference device = true ↔
    ∃ label ∈ labels device, normalizeNameSegment label = normalizeNameSegment reference := by
  simp only [nameMatches, labels, List.mem_cons, exists_eq_or_imp, Bool.or_eq_true_iff, beq_iff_eq,
    Option.any_eq_true, Option.mem_toList]
  exact or_congr eq_comm (exists_congr fun label => and_congr_right fun _ => eq_comm)

/-- No device has the reference for its id or its canonical name. -/
def OnlyLabels (reference : String) (devices : List DeviceState) : Prop :=
  ∀ device ∈ devices, device.deviceId ≠ reference ∧ device.canonicalName ≠ some reference

instance (reference : String) (devices : List DeviceState) : Decidable (OnlyLabels reference devices) :=
  inferInstanceAs (Decidable (∀ device ∈ devices, _))

theorem resolveReference_label (unknown : OnlyLabels reference devices)
    (resolved : resolveReference reference devices = .ok target) :
    ∃ device, devices.filter (nameMatches reference) = [device] ∧ device.deviceId = target := by
  have noId : devices.find? (·.deviceId == reference) = none :=
    List.find?_eq_none.mpr fun device listed => by simpa using (unknown device listed).1
  have noName : devices.find? (·.canonicalName == some reference) = none :=
    List.find?_eq_none.mpr fun device listed => by simpa using (unknown device listed).2
  rw [resolveReference, noId, noName] at resolved
  dsimp only at resolved
  split at resolved
  · rename_i single matched
    exact ⟨single, matched, Except.ok.inj resolved⟩
  · cases resolved
  · cases resolved

/-- A device that has the reference for its id comes before the one that has it for
its canonical name. -/
theorem resolveReference_canonicalName {store : DeviceStore} (apart : CanonicalNamesApart store)
    {device : DeviceState} (listed : device ∈ store.listDevices)
    (holds : device.canonicalName = some reference) :
    resolveReference reference store.listDevices =
      .ok (if store.listDevices.any (·.deviceId == reference) then reference else device.deviceId) := by
  rw [resolveReference]
  split
  · rename_i other found
    have isId := List.find?_some found
    rw [if_pos (List.any_eq_true.mpr ⟨other, List.mem_of_find?_eq_some found, isId⟩)]
    exact congrArg Except.ok (beq_iff_eq.mp isId)
  · rename_i unknown
    have noId : ¬ store.listDevices.any (·.deviceId == reference) = true := by
      rw [List.any_eq_true]
      rintro ⟨other, present, isId⟩
      exact List.find?_eq_none.mp unknown other present isId
    rw [if_neg noId]
    split
    · rename_i other found
      have named : other.canonicalName = some reference := by simpa using List.find?_some found
      rw [apart other (List.mem_of_find?_eq_some found) device listed reference named holds]
    · rename_i absent
      exact absurd (by simpa using holds) (List.find?_eq_none.mp absent device listed)

end References

/-! ## Runs -/

section Steps
variable {Schema : Type} (env : NamingEnv Schema) (alphabet : Alphabet) (home : HomeStore Schema)

inductive NameInput (Schema : Type) where
  | naming (input : NamingInput Schema)
  | resolve (reference : String)

def resolveStep (home : HomeStore Schema) : NameInput Schema → HomeStore Schema
  | .naming input => home.nameStep env input
  | .resolve _ => home

/-- A canonical name resolves to its device, and a label to a device with that
label, up to letter case, spaces and punctuation. -/
def ResolvesRight : NameInput Schema → Prop
  | .naming _ => True
  | .resolve reference =>
    (∀ device ∈ home.devices.listDevices, device.canonicalName = some reference →
      resolveReference reference home.devices.listDevices = .ok device.deviceId) ∧
    (OnlyLabels reference home.devices.listDevices →
      ∀ target, resolveReference reference home.devices.listDevices = .ok target →
        ∃ device ∈ home.devices.listDevices, device.deviceId = target ∧
          ∃ label ∈ labels device,
            alphabet.essence label.toList = alphabet.essence reference.toList)

/-- A canonical name resolves to its device, where no device has it for an id; a label
to a device with a label of the same words of ASCII, in lower case. -/
def ResolvesInAscii : NameInput Schema → Prop
  | .naming _ => True
  | .resolve reference =>
    (∀ device ∈ home.devices.listDevices, device.canonicalName = some reference →
      resolveReference reference home.devices.listDevices =
        .ok (if home.devices.listDevices.any (·.deviceId == reference) then reference
          else device.deviceId)) ∧
    (OnlyLabels reference home.devices.listDevices →
      ∀ target, resolveReference reference home.devices.listDevices = .ok target →
        ∃ device ∈ home.devices.listDevices, device.deviceId = target ∧
          ∃ label ∈ labels device, normalizeNameSegment label = normalizeNameSegment reference ∧
            (alphabet.outline label.toList = alphabet.outline reference.toList →
              alphabet.essence label.toList = alphabet.essence reference.toList))

def NamesCanBeMade : NameInput Schema → Prop
  | .naming input => NamesPossible env home input
  | .resolve _ => True

variable {home} in
theorem resolves_in_ascii (apart : CanonicalNamesApart home.devices) (input : NameInput Schema) :
    ResolvesInAscii alphabet home input := by
  cases input with
  | naming => trivial
  | resolve reference =>
    constructor
    · intro device listed holds
      exact resolveReference_canonicalName apart listed holds
    · intro unknown target resolved
      obtain ⟨device, matched, isTarget⟩ := resolveReference_label unknown resolved
      have kept := List.mem_singleton_self device
      rw [← matched] at kept
      obtain ⟨listed, matches_⟩ := List.mem_filter.mp kept
      obtain ⟨label, isLabel, normal⟩ := nameMatches_iff.mp matches_
      refine ⟨device, listed, isTarget, label, isLabel, normal, fun outside => ?_⟩
      exact alphabet.essence_eq (String.ofList_injective normal) outside

theorem names_stay_kept {can : Prop} (inputs : List (NameInput Schema))
    (kept : NamesKept can home.devices)
    (possible : can → Runs.EachStep (resolveStep env) (NamesCanBeMade env) home inputs) :
    Runs.Always (resolveStep env) (fun home => NamesKept can home.devices) home inputs := by
  induction inputs generalizing home with
  | nil => exact kept
  | cons input rest ih =>
    refine ⟨kept, ih (resolveStep env home input) ?_ fun can => (possible can).2⟩
    cases input with
    | naming input => exact nameStep_inOrder env home kept input fun can => (possible can).1
    | resolve reference => exact kept

/-- In every run no two devices come to have one canonical name, and each reference
that is resolved finds the device that has it for an id or for a name, or one whose
label reads the same in ASCII; in a run in which the names that are made can be made,
they stay in form too. -/
theorem names_find_devices (inputs : List (NameInput Schema))
    (apart : CanonicalNamesApart home.devices) :
    Runs.Always (resolveStep env) (fun home => CanonicalNamesApart home.devices) home inputs ∧
      Runs.EachStep (resolveStep env) (ResolvesInAscii alphabet) home inputs ∧
      (NamesInOrder home.devices →
        Runs.EachStep (resolveStep env) (NamesCanBeMade env) home inputs →
        Runs.Always (resolveStep env) (fun home => NamesInOrder home.devices) home inputs) := by
  have always : Runs.Always (resolveStep env) (fun home => CanonicalNamesApart home.devices)
      home inputs :=
    (names_stay_kept env home inputs apart.kept False.elim).mono fun _ kept => kept.distinct
  refine ⟨always, always.eachStep fun home input apart => resolves_in_ascii alphabet apart input, ?_⟩
  intro inOrder possible
  exact (names_stay_kept env home inputs inOrder.kept fun _ => possible).mono fun _ kept => kept.inOrder

end Steps

/-! ## An empty house -/

def emptyHouse : HomeStore Unit where
  devices := ⟨∅, [], DeviceStore.none_keyed⟩
  areas := ⟨∅, AreaStore.none_keyed⟩
  schemas := ∅
  history := []

def untyped : NamingEnv Unit where
  readers := ⟨fun _ _ => none, fun _ => none⟩
  legacyId := fun _ => ⟨5⟩
  deviceTypes := none
  pendingCommandChanges := ∅
  forDevice := fun _ _ => none

def registers (deviceId name : String) : NameInput Unit :=
  .naming (.message 0 ⟨1⟩ (.registration "hue"
    (.obj [("device_id", .str deviceId), ("name", .str name)])))

/-- The letters of Latin-1. -/
def latin : Alphabet where
  letter c := c.isAlphanum || ('À' ≤ c && c ≤ 'ÿ' && c != '×' && c != '÷')
  lower c :=
    if c.isAlphanum then [c.toLower]
    else if 'À' ≤ c && c ≤ 'Þ' && c != '×' then [Char.ofNat (c.toNat + 32)]
    else [c]
  ascii := by
    intro c plain
    rw [plain, if_pos rfl]
    exact ⟨rfl, rfl⟩

theorem emptyHouse_inOrder : NamesInOrder emptyHouse.devices := by
  have nobody : emptyHouse.devices.listDevices = [] := by decide
  constructor
  · intro device listed
    rw [nobody] at listed
    cases listed
  · intro a aListed
    rw [nobody] at aListed
    cases aListed

theorem registers_possible {home : HomeStore Unit} {deviceId name : String}
    (nameable : Nameable home.devices.listDevices (DeviceState.new deviceId name "hue" 0))
    (isNew : home.devices.getDevice deviceId = none) :
    NamesCanBeMade untyped home (registers deviceId name) := by
  have isRead : readRegistration (.obj [("device_id", .str deviceId), ("name", .str name)]) =
      .ok ⟨deviceId, name, none, none, none, none, none, none⟩ := by rfl
  intro device writes _
  simp only [HomeStore.reported, isRead, Option.mem_def] at writes
  split at writes
  · cases writes
  · rw [isNew] at writes
    cases writes
    exact nameable

/-- Two lamps of one label, and a reference of each kind. -/
theorem two_lamps :
    let inputs := [registers "hue_1" "Café", registers "hue_2" "Café", registers "hue_3" "Büro",
      .resolve "caf_hue_2", .resolve "BÜRO"]
    Runs.Always (resolveStep untyped) (fun home => NamesInOrder home.devices) emptyHouse inputs ∧
      Runs.EachStep (resolveStep untyped) (ResolvesInAscii latin) emptyHouse inputs := by
  intro inputs
  obtain ⟨_, resolves, inOrder⟩ :=
    names_find_devices untyped latin emptyHouse inputs emptyHouse_inOrder.distinct
  refine ⟨inOrder emptyHouse_inOrder ⟨?_, ?_, ?_, trivial, trivial, trivial⟩, resolves⟩
  · exact registers_possible (by decide) (by decide)
  · exact registers_possible (by decide) (by decide)
  · exact registers_possible (by decide) (by decide)

/-- A device without a letter of ASCII has the empty name; a lamp's canonical name
finds the device that has it for an id; and a label finds a device of another. -/
theorem names_that_mislead :
    let after := List.foldl (resolveStep untyped) emptyHouse
    ¬ NamesInOrder (after [registers "灯" "灯"]).devices ∧
    ¬ ResolvesRight latin (after [registers "hue_1" "Lamp", registers "lamp" "Desk"]) (.resolve "lamp") ∧
    ¬ ResolvesRight latin (after [registers "hue_1" "Café"]) (.resolve "Caf") := by
  intro after
  refine ⟨fun inOrder => ?_, fun right => ?_, fun right => ?_⟩
  · have blank : ∃ device ∈ (after [registers "灯" "灯"]).devices.listDevices,
        device.canonicalName = some "" := by
      decide
    obtain ⟨device, listed, holds⟩ := blank
    exact (inOrder.formed device listed "" holds).1 rfl
  · have other := right.1
    revert other
    decide
  · obtain ⟨device, listed, _, label, isLabel, same⟩ :=
      right.2 (by decide) "hue_1" (by decide)
    have only : ∀ device ∈ (after [registers "hue_1" "Café"]).devices.listDevices,
        ∀ label ∈ labels device, latin.essence label.toList ≠ latin.essence "Caf".toList := by
      decide
    exact only device listed label isLabel same

end HomeCore.Resolver
