import HomeCore.Types.Device
import HomeCore.Splitting

/-! Canonical device names: lower-case segments of letters and digits, joined by
underscores, under the room's segment where there is one. -/
namespace HomeCore

def normalizeNameChars (value : List Char) : List Char :=
  let raw := value.map fun c => if c.isAlphanum then c.toLower else '_'
  List.intercalate ['_'] ((raw.splitOn '_').filter (!·.isEmpty))

def normalizeNameSegment (value : String) : String :=
  String.ofList (normalizeNameChars value.toList)

/-- A canonical name that was typed; none where no segment is left of it. -/
def normalizeCanonicalName (value : String) : Option String :=
  let segments := ((value.toList.splitOn '.').map normalizeNameChars).filter (!·.isEmpty)
  if segments.isEmpty then none else some (String.ofList (List.intercalate ['.'] segments))

def canonicalNameBase (device : DeviceState) : String :=
  let name := normalizeNameSegment device.name
  match (device.area.map normalizeNameSegment).filter (· ≠ ""), name == "" with
  | some area, false => area ++ "." ++ name
  | some area, true => area
  | none, false => name
  | none, true => normalizeNameSegment device.deviceId

def nameAvailable (device : DeviceState) (devices : List DeviceState) (candidate : String) : Bool :=
  devices.all fun other =>
    other.deviceId == device.deviceId || other.canonicalName != some candidate

/-- The first free numbered name from `counter` on. The source counts without
a bound; the fuel is one more than the devices that can hold a candidate. -/
def numberedName (free : String → Bool) (suffixed : String) : Nat → Nat → String
  | 0, counter => s!"{suffixed}_{counter}"
  | fuel + 1, counter =>
    if free s!"{suffixed}_{counter}" then s!"{suffixed}_{counter}"
    else numberedName free suffixed fuel (counter + 1)

def ensureUniqueCanonicalName (device : DeviceState) (devices : List DeviceState) : String :=
  let base := canonicalNameBase device
  let suffixed := base ++ "_" ++ normalizeNameSegment device.deviceId
  if nameAvailable device devices base then base
  else if nameAvailable device devices suffixed then suffixed
  else numberedName (nameAvailable device devices) suffixed (devices.length + 1) 2

/-- The name a person asks for, or one made for the device. -/
def candidateName (device : DeviceState) (devices : List DeviceState) :
    Option String → Except String String
  | some raw => match normalizeCanonicalName raw with
    | some candidate => .ok candidate
    | none => .error "canonical_name must contain at least one alphanumeric character"
  | none => .ok (ensureUniqueCanonicalName device devices)

def validateOrGenerateCanonicalName (device : DeviceState) (devices : List DeviceState)
    (requested : Option String) : Except String String :=
  match candidateName device devices requested with
  | .error text => .error text
  | .ok candidate =>
    if nameAvailable device devices candidate then .ok candidate
    else .error s!"canonical_name '{candidate}' is already in use"

end HomeCore

/-! What is normalized is in form: normalizing it again leaves it as it is. A
name made for a device is in form, and free, where there is something to make it
of. -/
namespace HomeCore
open Splitting

/-! ## Segments -/

def normalChar (c : Char) : Char := if c.isAlphanum then c.toLower else '_'

theorem isAlphanum_toLower {c : Char} (letter : c.isAlphanum = true) :
    c.toLower.isAlphanum = true := by
  rcases Bool.or_eq_true_iff.mp letter with alpha | digit
  · simp [Char.isAlphanum, alpha]
  · have same : c.toLower = c := Char.toLower_eq_of_not_isUpper (by
      simp only [Char.isUpper, Char.isDigit, UInt32.le_iff_toNat_le] at digit ⊢
      simp at digit ⊢
      omega)
    rw [same, letter]

theorem normalChar_normalChar (c : Char) : normalChar (normalChar c) = normalChar c := by
  unfold normalChar
  split
  · rename_i letter
    simp [isAlphanum_toLower letter]
  · rfl

theorem normalChar_ne_underscore {c : Char} : normalChar c ≠ '_' ↔ c.isAlphanum = true := by
  rw [normalChar]
  split
  · rename_i letter
    have lower := isAlphanum_toLower letter
    refine iff_of_true (fun same => ?_) letter
    rw [same] at lower
    cases lower
  · rename_i other
    exact iff_of_false (fun different => different rfl) other

/-- Words of lower-case letters and digits, joined by underscores. -/
def Segment : List Char → Prop :=
  Joined '_' fun word => ∀ c ∈ word, normalChar c = c

/-- The letters and digits of ASCII, in lower case. -/
def asciiLetters (text : List Char) : List Char :=
  (text.filter Char.isAlphanum).map Char.toLower

theorem normalizeNameChars_eq (text : List Char) :
    normalizeNameChars text = rejoin '_' id (text.map normalChar) := by
  rw [rejoin, List.map_id]
  rfl

theorem segment_of_normalizeNameChars {text : List Char} (left : normalizeNameChars text ≠ []) :
    Segment (normalizeNameChars text) := by
  rw [normalizeNameChars_eq] at left ⊢
  refine Joined.of_rejoin (fun word listed _ => ?_) left
  have inText := mem_splitOn listed
  refine ⟨fun inside => (inText _ inside).2 rfl, fun c inside => ?_⟩
  obtain ⟨before, _, rfl⟩ := List.mem_map.mp (inText c inside).1
  exact normalChar_normalChar before

namespace Segment
variable {text : List Char}

theorem normalChar_eq (segment : Segment text) {c : Char} (inside : c ∈ text) :
    normalChar c = c := by
  rcases segment.mem inside with rfl | ⟨word, fixed, within⟩
  · rfl
  · exact fixed c within

theorem normalize_eq (segment : Segment text) : normalizeNameChars text = text := by
  have fixed : text.map normalChar = text :=
    (List.map_congr_left fun c inside => segment.normalChar_eq inside).trans (List.map_id text)
  rw [normalizeNameChars_eq, fixed]
  exact Joined.rejoin_eq segment fun word _ => rfl

theorem no_dot (segment : Segment text) : '.' ∉ text :=
  fun inside => absurd (segment.normalChar_eq inside) (by decide)

end Segment

/-- Text that was normalized stays as it is. -/
theorem normalizeNameChars_idem (text : List Char) :
    normalizeNameChars (normalizeNameChars text) = normalizeNameChars text := by
  by_cases left : normalizeNameChars text = []
  · rw [left]
    rfl
  · exact (segment_of_normalizeNameChars left).normalize_eq

/-- Normalizing keeps the letters and digits of ASCII, and nothing else. -/
theorem filter_normalizeNameChars (text : List Char) :
    (normalizeNameChars text).filter (· ≠ '_') = asciiLetters text := by
  have plain : ∀ word ∈ ((text.map normalChar).splitOn '_').filter (!·.isEmpty), '_' ∉ word := by
    intro word listed inside
    exact (mem_splitOn (List.mem_filter.mp listed).1 '_' inside).2 rfl
  have letters : ((fun c => decide (c ≠ '_')) ∘ normalChar) = Char.isAlphanum := by
    funext c
    rw [Function.comp_apply, Bool.eq_iff_iff, decide_eq_true_iff, normalChar_ne_underscore]
  rw [normalizeNameChars_eq, rejoin, List.map_id, filter_intercalate plain,
    List.flatten_filter_not_isEmpty, flatten_splitOn, List.filter_map, letters, asciiLetters]
  refine List.map_congr_left fun c kept => ?_
  rw [normalChar, if_pos (List.mem_filter.mp kept).2]

theorem asciiLetters_of_same {a b : List Char} (same : normalizeNameChars a = normalizeNameChars b) :
    asciiLetters a = asciiLetters b := by
  rw [← filter_normalizeNameChars a, same, filter_normalizeNameChars]

/-- Something is left of the text when it is normalized. -/
def legible (text : String) : Bool := text.toList.any Char.isAlphanum

theorem normalizeNameSegment_ne_empty {text : String} :
    normalizeNameSegment text ≠ "" ↔ legible text = true := by
  have inAscii : asciiLetters text.toList ≠ [] ↔ legible text = true := by
    rw [asciiLetters, ne_eq, List.map_eq_nil_iff, List.filter_eq_nil_iff, legible, List.any_eq_true]
    simp
  rw [← inAscii, ← filter_normalizeNameChars, normalizeNameSegment, ne_eq, String.ofList_eq_empty_iff]
  constructor
  · intro left nothing
    obtain ⟨c, inside, other⟩ := Joined.exists_ne (segment_of_normalizeNameChars left)
    exact List.filter_eq_nil_iff.mp nothing c inside (by simpa using other)
  · intro left nothing
    rw [nothing] at left
    exact left rfl

theorem segment_of_normalizeNameSegment {text : String} (left : normalizeNameSegment text ≠ "") :
    Segment (normalizeNameSegment text).toList := by
  rw [normalizeNameSegment, ne_eq, String.ofList_eq_empty_iff] at left
  rw [normalizeNameSegment, String.toList_ofList]
  exact segment_of_normalizeNameChars left

/-! ## Canonical names -/

/-- Nonempty, and left as it is by `normalizeCanonicalName`. -/
def InForm (name : String) : Prop := name ≠ "" ∧ normalizeCanonicalName name = some name

/-- Segments, joined by dots. -/
def Dotted : List Char → Prop := Joined '.' Segment

theorem dotted_of_normalize {value name : String} (typed : normalizeCanonicalName value = some name) :
    Dotted name.toList := by
  rw [normalizeCanonicalName] at typed
  split at typed
  · cases typed
  · rename_i some_
    rw [← Option.some.inj typed, String.toList_ofList]
    refine Joined.of_words (by simpa using some_) fun word listed => ?_
    obtain ⟨made, nonempty⟩ := List.mem_filter.mp listed
    obtain ⟨part, _, rfl⟩ := List.mem_map.mp made
    have segment := segment_of_normalizeNameChars (by simpa using nonempty)
    exact ⟨by simpa using nonempty, segment.no_dot, segment⟩

theorem Dotted.inForm {name : String} (dotted : Dotted name.toList) : InForm name := by
  have rejoined : rejoin '.' normalizeNameChars name.toList = name.toList :=
    Joined.rejoin_eq dotted fun word segment => Segment.normalize_eq segment
  have some_ : ((name.toList.splitOn '.').map normalizeNameChars).filter (!·.isEmpty) ≠ [] := by
    intro nothing
    rw [rejoin, nothing] at rejoined
    exact Joined.ne_nil dotted rejoined.symm
  constructor
  · rintro rfl
    exact Joined.ne_nil dotted rfl
  · rw [normalizeCanonicalName, if_neg (by simpa using some_)]
    exact congrArg some ((congrArg String.ofList rejoined).trans String.ofList_toList)

/-! ## Names that are made -/

section Made
variable {device : DeviceState} {devices : List DeviceState}

/-- There is a letter or a digit of ASCII in the label, the room or the id. -/
def hasBase (device : DeviceState) : Bool :=
  legible device.name || device.area.any legible || legible device.deviceId

theorem dotted_of_segment {text : String} (left : normalizeNameSegment text ≠ "") :
    Dotted (normalizeNameSegment text).toList := by
  have segment := segment_of_normalizeNameSegment left
  exact .word segment.ne_nil segment.no_dot segment

theorem canonicalNameBase_dotted (based : hasBase device = true) :
    Dotted (canonicalNameBase device).toList := by
  simp only [canonicalNameBase]
  cases room : (device.area.map normalizeNameSegment).filter (· ≠ "") with
  | some area =>
    obtain ⟨reported, left⟩ := Option.filter_eq_some_iff.mp room
    obtain ⟨raw, _, rfl⟩ := Option.map_eq_some_iff.mp reported
    have inRoom := dotted_of_segment (of_decide_eq_true left)
    cases blank : normalizeNameSegment device.name == "" with
    | true => exact inRoom
    | false =>
      rw [String.toList_append, String.toList_append, List.append_assoc]
      exact Joined.append inRoom (dotted_of_segment (by simpa using blank))
  | none =>
    cases blank : normalizeNameSegment device.name == "" with
    | false => exact dotted_of_segment (by simpa using blank)
    | true =>
      refine dotted_of_segment (normalizeNameSegment_ne_empty.mpr ?_)
      have label : legible device.name = false := by
        rw [← Bool.not_eq_true, ← normalizeNameSegment_ne_empty]
        simpa using blank
      have placed : device.area.any legible = false := by
        cases reported : device.area with
        | none => rfl
        | some raw =>
          rw [reported, Option.map_some, Option.filter_eq_none_iff] at room
          rw [Option.any_some, ← Bool.not_eq_true, ← normalizeNameSegment_ne_empty]
          simpa using room
      rwa [hasBase, label, placed] at based

theorem nameAvailable_iff {candidate : String} :
    nameAvailable device devices candidate = true ↔
      ∀ other ∈ devices, other.canonicalName = some candidate → other.deviceId = device.deviceId := by
  rw [nameAvailable, List.all_eq_true]
  refine forall₂_congr fun other _ => ?_
  rw [Bool.or_eq_true_iff, beq_iff_eq, bne_iff_ne]
  tauto

/-! The search for a number ends: each device holds one name at most. -/

def numbered (suffixed : String) (counter : Nat) : String := s!"{suffixed}_{counter}"

theorem numbered_toList (suffixed : String) (n : Nat) :
    (numbered suffixed n).toList = suffixed.toList ++ '_' :: n.repr.toList := by
  have spelled : numbered suffixed n = suffixed ++ "_" ++ n.repr := rfl
  rw [spelled, String.toList_append, String.toList_append, List.append_assoc]
  rfl

theorem numbered_injective (suffixed : String) : (numbered suffixed).Injective := by
  intro a b same
  have digits : a.repr.toList = b.repr.toList := by
    have spelled := congrArg String.toList same
    rw [numbered_toList, numbered_toList] at spelled
    exact List.cons_injective (List.append_cancel_left spelled)
  have back (n : Nat) : Nat.ofDigitChars 10 n.repr.toList 0 = n := by
    rw [Nat.toList_repr]
    exact Nat.ofDigitChars_ten_toDigits
  rw [← back a, digits, back b]

theorem numberedName_eq (free : String → Bool) (suffixed : String) (fuel counter : Nat) :
    ∃ n, numberedName free suffixed fuel counter = numbered suffixed n := by
  induction fuel generalizing counter with
  | zero => exact ⟨counter, rfl⟩
  | succ fuel ih =>
    rw [numberedName]
    split
    · exact ⟨counter, rfl⟩
    · exact ih (counter + 1)

theorem numberedName_free {free : String → Bool} {suffixed : String} {fuel counter n : Nat}
    (from_ : counter ≤ n) (within : n < counter + fuel)
    (isFree : free (numbered suffixed n) = true) :
    free (numberedName free suffixed fuel counter) = true := by
  induction fuel generalizing counter with
  | zero => omega
  | succ fuel ih =>
    rw [numberedName]
    split
    · assumption
    · rename_i taken
      rcases Nat.eq_or_lt_of_le from_ with rfl | later
      · exact absurd isFree taken
      · exact ih later (by omega)

/-- Some number after `counter` is free. -/
theorem exists_available (device : DeviceState) (devices : List DeviceState) (suffixed : String)
    (counter : Nat) : ∃ n, counter ≤ n ∧ n < counter + (devices.length + 1) ∧
      nameAvailable device devices (numbered suffixed n) = true := by
  by_contra! taken
  let tried := (List.range' counter (devices.length + 1)).map (numbered suffixed)
  have apart : tried.Nodup := (List.nodup_range' _).map (numbered_injective suffixed)
  have held : tried ⊆ devices.filterMap (·.canonicalName) := by
    intro name listed
    obtain ⟨n, inRange, rfl⟩ := List.mem_map.mp listed
    obtain ⟨from_, within⟩ := List.mem_range'_1.mp inRange
    have notFree := taken n from_ within
    rw [ne_eq, nameAvailable_iff] at notFree
    push Not at notFree
    obtain ⟨other, stored, holds, _⟩ := notFree
    exact List.mem_filterMap.mpr ⟨other, stored, holds⟩
  have few := (apart.subperm held).length_le
  have most := List.length_filterMap_le (·.canonicalName) devices
  rw [List.length_map, List.length_range'] at few
  omega

/-- There is something to make a name of, and the id can be added to it where it is taken. -/
def Nameable (devices : List DeviceState) (device : DeviceState) : Prop :=
  hasBase device = true ∧
    (nameAvailable device devices (canonicalNameBase device) = true ∨ legible device.deviceId = true)

instance (devices : List DeviceState) (device : DeviceState) : Decidable (Nameable devices device) :=
  inferInstanceAs (Decidable (_ ∧ _))

theorem ensureUniqueCanonicalName_available (device : DeviceState) (devices : List DeviceState) :
    nameAvailable device devices (ensureUniqueCanonicalName device devices) = true := by
  simp only [ensureUniqueCanonicalName]
  split
  · assumption
  · split
    · assumption
    · obtain ⟨n, from_, within, isFree⟩ := exists_available device devices
        (canonicalNameBase device ++ "_" ++ normalizeNameSegment device.deviceId) 2
      exact numberedName_free from_ within isFree

theorem Segment.append {text more : List Char} (segment : Segment text) (also : Segment more) :
    Segment (text ++ '_' :: more) :=
  Joined.append segment also

theorem Dotted.suffixed {text more : List Char} (dotted : Dotted text) (segment : Segment more) :
    Dotted (text ++ '_' :: more) := by
  refine Joined.lengthen dotted ?_ fun word is => is.append segment
  intro inside
  rcases List.mem_cons.mp inside with same | within
  · cases same
  · exact segment.no_dot within

theorem segment_repr (n : Nat) : Segment n.repr.toList := by
  have digit {c : Char} (inside : c ∈ n.repr.toList) : c.isDigit = true := by
    rw [Nat.toList_repr] at inside
    exact Nat.isDigit_of_mem_toDigits (by decide) (by decide) inside
  refine .word ?_ (fun inside => absurd (digit inside) (by decide)) fun c inside => ?_
  · rw [Nat.toList_repr]
    exact Nat.toDigits_ne_nil
  · have isDigit := digit inside
    rw [normalChar, if_pos (by rw [Char.isAlphanum, isDigit, Bool.or_true])]
    refine Char.toLower_eq_of_not_isUpper ?_
    simp only [Char.isUpper, Char.isDigit, UInt32.le_iff_toNat_le] at isDigit ⊢
    simp at isDigit ⊢
    omega

theorem numbered_dotted {suffixed : String} (dotted : Dotted suffixed.toList) (n : Nat) :
    Dotted (numbered suffixed n).toList := by
  rw [numbered_toList]
  exact dotted.suffixed (segment_repr n)

theorem ensureUniqueCanonicalName_inForm (nameable : Nameable devices device) :
    InForm (ensureUniqueCanonicalName device devices) := by
  obtain ⟨based, suffix⟩ := nameable
  have base := canonicalNameBase_dotted based
  simp only [ensureUniqueCanonicalName]
  split
  · exact base.inForm
  · rename_i taken
    have id := segment_of_normalizeNameSegment
      (normalizeNameSegment_ne_empty.mpr (suffix.resolve_left taken))
    have suffixed : Dotted (canonicalNameBase device ++ "_" ++
        normalizeNameSegment device.deviceId).toList := by
      rw [String.toList_append, String.toList_append, List.append_assoc]
      exact base.suffixed id
    split
    · exact suffixed.inForm
    · obtain ⟨n, named⟩ := numberedName_eq (nameAvailable device devices)
        (canonicalNameBase device ++ "_" ++ normalizeNameSegment device.deviceId)
        (devices.length + 1) 2
      rw [named]
      exact (numbered_dotted suffixed n).inForm

theorem validateOrGenerateCanonicalName_ok {can : Prop} {requested : Option String} {name : String}
    (settled : validateOrGenerateCanonicalName device devices requested = .ok name)
    (nameable : can → requested = none → Nameable devices device) :
    (can → InForm name) ∧ nameAvailable device devices name = true := by
  rw [validateOrGenerateCanonicalName] at settled
  cases asked : candidateName device devices requested with
  | error text => simp [asked] at settled
  | ok candidate =>
    simp only [asked] at settled
    split at settled
    · rename_i isFree
      cases settled
      refine ⟨?_, isFree⟩
      cases requested with
      | none =>
        cases asked
        exact fun can => ensureUniqueCanonicalName_inForm (nameable can rfl)
      | some raw =>
        rw [candidateName] at asked
        split at asked
        · rename_i typed
          cases asked
          exact fun _ => (dotted_of_normalize typed).inForm
        · cases asked
    · cases settled

end Made

end HomeCore
