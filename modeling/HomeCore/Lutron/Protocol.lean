import HomeCore.Types.Text

/-! Lines of the Lutron Integration Protocol, `~CMD_TYPE,integration_id,action[,value...]`,
as the RA2 plugin reads them. -/
namespace HomeCore.Lutron

abbrev Text := List Char

/-! ## Numbers as the standard library reads them -/

def digitsValue (digits : Text) : Nat := digits.foldl (fun n c => n * 10 + (c.toNat - 48)) 0

/-- `parse` for an unsigned integer of so many bits: digits, and a plus before them if any. -/
def parseUnsigned (bits : Nat) (text : Text) : Option Nat :=
  let digits := if text.head? = some '+' then text.tail else text
  if digits ≠ [] ∧ digits.all Char.isDigit ∧ digitsValue digits < 2 ^ bits then
    some (digitsValue digits)
  else none

/-- `f64`. The two zeros are one value here. -/
inductive F64 where
  | finite (q : Rat)
  | infinite (negative : Bool)
  | nan
  deriving DecidableEq

/-- The double nearest to a magnitude, ties to the even significand. -/
def nearest (q : Rat) : F64 :=
  let scaled := q * 2 ^ 1074
  let unit : Rat := 2 ^ (Nat.log2 ⌊scaled⌋₊ - 52)
  let low := ⌊scaled / unit⌋₊
  let rest := scaled / unit - low
  let units := if rest < 1 / 2 then low else if 1 / 2 < rest then low + 1 else low + low % 2
  let value := units * unit / 2 ^ 1074
  if value < 2 ^ 1024 then .finite value else .infinite false

def F64.neg : F64 → F64
  | .finite q => .finite (-q)
  | .infinite negative => .infinite !negative
  | .nan => .nan

def parseExponent : Text → Option Int
  | [] => some 0
  | e :: rest =>
    let digits := if rest.head? = some '+' ∨ rest.head? = some '-' then rest.tail else rest
    if e.toLower = 'e' ∧ digits ≠ [] ∧ digits.all Char.isDigit then
      some (if rest.head? = some '-' then -digitsValue digits else digitsValue digits)
    else none

/-- Digits with a point among them or at an end, and an exponent if any. -/
def parseNumber (text : Text) : Option F64 :=
  let (whole, rest) := text.span Char.isDigit
  let (fraction, rest) := match rest with
    | '.' :: after => after.span Char.isDigit
    | _ => ([], rest)
  if whole = [] ∧ fraction = [] then none
  else (parseExponent rest).map fun exponent =>
    nearest (digitsValue (whole ++ fraction) * (10 : Rat) ^ (exponent - (fraction.length : Int)))

/-- `parse::<f64>`. -/
def parseF64 (text : Text) : Option F64 :=
  let magnitude := if text.head? = some '+' ∨ text.head? = some '-' then text.tail else text
  let word := String.ofList (magnitude.map Char.toLower)
  let read :=
    if word = "inf" ∨ word = "infinity" then some (.infinite false)
    else if word = "nan" then some .nan
    else parseNumber magnitude
  if text.head? = some '-' then read.map F64.neg else read

/-! ## Messages -/

inductive OutputAction where
  | zoneLevel
  | raise
  | lower
  | stop
  | flash
  deriving DecidableEq

inductive DeviceAction where
  | press
  | release
  | doubleClick
  | led (state : Nat)
  deriving DecidableEq

inductive OccupancyState where
  | occupied
  | vacant
  | unknown
  deriving DecidableEq

inductive LipMessage where
  /-- `~OUTPUT,{id},1,{level}` -/
  | output (integrationId : Nat) (action : OutputAction) (value : F64)
  /-- `~DEVICE,{id},{component},{action}[,{value}]` -/
  | device (integrationId component : Nat) (action : DeviceAction)
  /-- `~GROUP,{id},3,{state}` -/
  | group (integrationId : Nat) (state : OccupancyState)
  | prompt
  | error (text : Text)
  | unknown (text : Text)
  deriving DecidableEq

def join (parts : List Text) : Text := List.intercalate [','] parts

def parseOutput (parts : List Text) : Option LipMessage := do
  match parseUnsigned 32 (← parts[1]?) with
  | none => return .unknown (join parts)
  | some id => match parseUnsigned 8 (← parts[2]?) with
    | none => return .unknown (join parts)
    | some action =>
      let value := (parts[3]?.bind parseF64).getD (.finite 0)
      match action with
      | 1 => return .output id .zoneLevel value
      | 2 => return .output id .raise value
      | 3 => return .output id .lower value
      | 4 => return .output id .stop value
      | 5 => return .output id .flash value
      | _ => return .unknown (join parts)

def parseDevice (parts : List Text) : Option LipMessage := do
  match parseUnsigned 32 (← parts[1]?) with
  | none => return .unknown (join parts)
  | some id => match parseUnsigned 32 (← parts[2]?) with
    | none => return .unknown (join parts)
    | some component => match parseUnsigned 8 (← parts[3]?) with
      | none => return .unknown (join parts)
      | some 3 => return .device id component .press
      | some 4 => return .device id component .release
      | some 6 => return .device id component .doubleClick
      | some 9 => match parts[4]?.bind (parseUnsigned 8) with
        | none => return .unknown (join parts)
        | some state => return .device id component (.led state)
      | some _ => return .unknown (join parts)

def parseGroup (parts : List Text) : Option LipMessage := do
  match parseUnsigned 32 (← parts[1]?) with
  | none => return .unknown (join parts)
  | some id => return .group id <| match parts[3]?.bind (parseUnsigned 32) with
    | some 3 => .occupied
    | some 4 => .vacant
    | _ => .unknown

/-- `LipMessage::parse`, none where a field is read that is not there. -/
def parse (line : Text) : Option LipMessage :=
  match trim line with
  | 'G' :: 'N' :: 'E' :: 'T' :: '>' :: _ => some .prompt
  | '~' :: body =>
    let parts := body.splitOn ','
    if parts.length < 3 then some (.unknown (trim line))
    else if parts.head? = some "OUTPUT".toList then parseOutput parts
    else if parts.head? = some "DEVICE".toList then parseDevice parts
    else if parts.head? = some "GROUP".toList then parseGroup parts
    else if parts.head? = some "ERROR".toList then some (.error (join parts.tail))
    else some (.unknown (trim line))
  | line => some (.unknown line)

/-! ## What the messages are documented for -/

/-- The fields of a line that starts with a tilde. -/
def fields (line : Text) : Option (List Text) :=
  match trim line with
  | '~' :: body => some (body.splitOn ',')
  | _ => none

def OutputAction.code : OutputAction → Nat
  | .zoneLevel => 1
  | .raise => 2
  | .lower => 3
  | .stop => 4
  | .flash => 5

def DeviceAction.code : DeviceAction → Nat
  | .press => 3
  | .release => 4
  | .doubleClick => 6
  | .led _ => 9

/-- A message about a state comes of a line with the fields it needs, further values
after them or none, and what it says of a level or a state is what the line says. -/
def Documented (line : Text) : LipMessage → Prop
  | .output integrationId action value => ∃ id code more,
      fields line = some ("OUTPUT".toList :: id :: code :: more) ∧
      parseUnsigned 32 id = some integrationId ∧ parseUnsigned 8 code = some action.code ∧
      (action = .zoneLevel → ∃ q, more.head?.bind parseF64 = some (.finite q) ∧ value = .finite q)
  | .device integrationId component action => ∃ id part code more,
      fields line = some ("DEVICE".toList :: id :: part :: code :: more) ∧
      parseUnsigned 32 id = some integrationId ∧ parseUnsigned 32 part = some component ∧
      parseUnsigned 8 code = some action.code ∧
      ∀ state, action = .led state → more.head?.bind (parseUnsigned 8) = some state
  | .group integrationId state => ∃ id more,
      fields line = some ("GROUP".toList :: id :: "3".toList :: more) ∧
      parseUnsigned 32 id = some integrationId ∧
      (state = .occupied → more.head?.bind (parseUnsigned 32) = some 3) ∧
      (state = .vacant → more.head?.bind (parseUnsigned 32) = some 4)
  | _ => True

/-- A device line that ends before its action. -/
def CutShort (line : Text) : Prop := ∃ id part,
  fields line = some ["DEVICE".toList, id, part] ∧ (parseUnsigned 32 id).isSome ∧
    (parseUnsigned 32 part).isSome

/-- A level line without a finite level. -/
def Levelless (line : Text) : Prop := ∃ id code more,
  fields line = some ("OUTPUT".toList :: id :: code :: more) ∧ (parseUnsigned 32 id).isSome ∧
    parseUnsigned 8 code = some 1 ∧ ∀ q, more.head?.bind parseF64 ≠ some (.finite q)

/-- A group line whose action is not the occupancy state. -/
def OtherGroup (line : Text) : Prop := ∃ id code more,
  fields line = some ("GROUP".toList :: id :: code :: more) ∧ (parseUnsigned 32 id).isSome ∧
    code ≠ "3".toList

/-! ## The readers -/

section Readers
variable {line id code part : Text} {more : List Text}

theorem documented_output (isLine : fields line = some ("OUTPUT".toList :: id :: code :: more))
    {integrationId : Nat} {action : OutputAction} {value : F64} :
    Documented line (.output integrationId action value) ↔
      parseUnsigned 32 id = some integrationId ∧ parseUnsigned 8 code = some action.code ∧
        (action = .zoneLevel → ∃ q, more.head?.bind parseF64 = some (.finite q) ∧ value = .finite q) := by
  rw [Documented, isLine]
  constructor
  · rintro ⟨id, code, more, same, reads⟩
    cases same
    exact reads
  · intro reads
    exact ⟨id, code, more, rfl, reads⟩

theorem levelless_iff (isLine : fields line = some ("OUTPUT".toList :: id :: code :: more)) :
    Levelless line ↔ (parseUnsigned 32 id).isSome ∧ parseUnsigned 8 code = some 1 ∧
      ∀ q, more.head?.bind parseF64 ≠ some (.finite q) := by
  rw [Levelless, isLine]
  constructor
  · rintro ⟨id, code, more, same, lacks⟩
    cases same
    exact lacks
  · intro lacks
    exact ⟨id, code, more, rfl, lacks⟩

/-- Actions other than 1 need no value. -/
theorem parseOutput_other (isLine : fields line = some ("OUTPUT".toList :: id :: code :: more)) {n action : Nat}
    (readsId : parseUnsigned 32 id = some n) (readsCode : parseUnsigned 8 code = some action)
    (other : action ≠ 1) :
    ∃ message, parseOutput ("OUTPUT".toList :: id :: code :: more) = some message ∧
      Documented line message := by
  simp only [parseOutput, List.getElem?_cons_succ, List.getElem?_cons_zero, Option.bind_eq_bind,
    Option.bind_some, readsId, readsCode]
  split
  · exact absurd rfl other
  all_goals refine ⟨_, rfl, ?_⟩
  case h_6 => trivial
  all_goals exact (documented_output isLine).mpr ⟨readsId, readsCode, fun impossible => by cases impossible⟩

theorem output_documented_iff (isLine : fields line = some ("OUTPUT".toList :: id :: code :: more)) :
    (∃ message, parseOutput ("OUTPUT".toList :: id :: code :: more) = some message ∧
      Documented line message) ↔ ¬ Levelless line := by
  rw [levelless_iff isLine]
  cases readsId : parseUnsigned 32 id with
  | none => simp [parseOutput, readsId, Documented]
  | some n =>
    by_cases isLevel : parseUnsigned 8 code = some 1
    · have read : parseOutput ("OUTPUT".toList :: id :: code :: more) =
          some (.output n .zoneLevel ((more.head?.bind parseF64).getD (.finite 0))) := by
        simp [parseOutput, readsId, isLevel, List.head?_eq_getElem?]
      simp only [read, Option.some.injEq, exists_eq_left', documented_output isLine, readsId, isLevel,
        OutputAction.code, true_and, forall_const, Option.isSome_some, not_forall, ne_eq, not_not]
      refine exists_congr fun q => ?_
      constructor
      · exact And.left
      · intro level
        exact ⟨level, by rw [level, Option.getD_some]⟩
    · have noLevel : ¬ ((some n).isSome = true ∧ parseUnsigned 8 code = some 1 ∧
          ∀ q, more.head?.bind parseF64 ≠ some (.finite q)) := fun lacks => isLevel lacks.2.1
      refine iff_of_true ?_ noLevel
      cases readsCode : parseUnsigned 8 code with
      | none => simp [parseOutput, readsId, readsCode, Documented]
      | some action =>
        refine parseOutput_other isLine readsId readsCode ?_
        rintro rfl
        exact isLevel readsCode

theorem cutShort_iff (isLine : fields line = some ("DEVICE".toList :: id :: part :: more)) :
    CutShort line ↔ more = [] ∧ (parseUnsigned 32 id).isSome ∧ (parseUnsigned 32 part).isSome := by
  rw [CutShort, isLine]
  constructor
  · rintro ⟨id, part, same, reads⟩
    cases same
    exact ⟨rfl, reads⟩
  · rintro ⟨rfl, reads⟩
    exact ⟨id, part, rfl, reads⟩

/-- A device line with an action is read, whatever the action. -/
theorem parseDevice_acts {n component : Nat}
    (isLine : fields line = some ("DEVICE".toList :: id :: part :: code :: more))
    (readsId : parseUnsigned 32 id = some n) (readsPart : parseUnsigned 32 part = some component) :
    ∃ message, parseDevice ("DEVICE".toList :: id :: part :: code :: more) = some message ∧
      Documented line message := by
  have documented {action : DeviceAction} (readsCode : parseUnsigned 8 code = some action.code)
      (state : ∀ state, action = .led state → more.head?.bind (parseUnsigned 8) = some state) :
      Documented line (.device n component action) :=
    ⟨id, part, code, more, isLine, readsId, readsPart, readsCode, state⟩
  simp only [parseDevice, List.getElem?_cons_succ, List.getElem?_cons_zero, Option.bind_eq_bind,
    Option.bind_some, readsId, readsPart]
  split
  · exact ⟨_, rfl, trivial⟩
  · next readsCode => exact ⟨_, rfl, documented readsCode fun _ impossible => by cases impossible⟩
  · next readsCode => exact ⟨_, rfl, documented readsCode fun _ impossible => by cases impossible⟩
  · next readsCode => exact ⟨_, rfl, documented readsCode fun _ impossible => by cases impossible⟩
  · next readsCode =>
    split
    · exact ⟨_, rfl, trivial⟩
    · next state readsState =>
      refine ⟨_, rfl, documented readsCode ?_⟩
      rintro _ ⟨⟩
      rwa [List.head?_eq_getElem?]
  · exact ⟨_, rfl, trivial⟩

theorem device_documented_iff (isLine : fields line = some ("DEVICE".toList :: id :: part :: more)) :
    (∃ message, parseDevice ("DEVICE".toList :: id :: part :: more) = some message ∧
      Documented line message) ↔ ¬ CutShort line := by
  rw [cutShort_iff isLine]
  cases readsId : parseUnsigned 32 id with
  | none => simp [parseDevice, readsId, Documented]
  | some n => cases readsPart : parseUnsigned 32 part with
    | none => simp [parseDevice, readsId, readsPart, Documented]
    | some component => cases more with
      | nil => simp [parseDevice, readsId, readsPart]
      | cons code more => simpa using parseDevice_acts isLine readsId readsPart

theorem otherGroup_iff (isLine : fields line = some ("GROUP".toList :: id :: code :: more)) :
    OtherGroup line ↔ (parseUnsigned 32 id).isSome ∧ code ≠ "3".toList := by
  rw [OtherGroup, isLine]
  constructor
  · rintro ⟨id, code, more, same, other⟩
    cases same
    exact other
  · intro other
    exact ⟨id, code, more, rfl, other⟩

theorem group_documented_iff (isLine : fields line = some ("GROUP".toList :: id :: code :: more)) :
    (∃ message, parseGroup ("GROUP".toList :: id :: code :: more) = some message ∧
      Documented line message) ↔ ¬ OtherGroup line := by
  rw [otherGroup_iff isLine]
  cases readsId : parseUnsigned 32 id with
  | none => simp [parseGroup, readsId, Documented]
  | some n =>
    simp only [parseGroup, List.getElem?_cons_succ, List.getElem?_cons_zero, Option.bind_eq_bind,
      Option.bind_some, readsId, Option.pure_def, Option.some.injEq, exists_eq_left', Documented, isLine,
      Option.isSome_some, true_and, ne_eq, not_not]
    constructor
    · rintro ⟨_, _, same, _⟩
      cases same
      rfl
    · rintro rfl
      refine ⟨id, more, rfl, readsId, ?_, ?_⟩
      all_goals
        rw [List.head?_eq_getElem?]
        split
      all_goals simp_all

end Readers

/-! ## Every line -/

section Lines
variable {line first id code : Text} {parts more : List Text}

theorem parse_of_fields (isLine : fields line = some parts) :
    parse line =
      if parts.length < 3 then some (.unknown (trim line))
      else if parts.head? = some "OUTPUT".toList then parseOutput parts
      else if parts.head? = some "DEVICE".toList then parseDevice parts
      else if parts.head? = some "GROUP".toList then parseGroup parts
      else if parts.head? = some "ERROR".toList then some (.error (join parts.tail))
      else some (.unknown (trim line)) := by
  rw [fields] at isLine
  split at isLine
  · next body starts =>
    cases isLine
    rw [parse, starts]
    rfl
  · cases isLine

/-- Without a tilde the line is a prompt or unknown. -/
theorem parse_of_no_fields (noLine : fields line = none) :
    ∃ message, parse line = some message ∧ Documented line message := by
  rw [fields] at noLine
  split at noLine
  · cases noLine
  · next other =>
    rw [parse]
    split
    · exact ⟨_, rfl, trivial⟩
    · next body starts => exact absurd starts (other body)
    · exact ⟨_, rfl, trivial⟩

theorem CutShort.fields (cutShort : CutShort line) :
    ∃ id code more, fields line = some ("DEVICE".toList :: id :: code :: more) := by
  obtain ⟨id, part, isLine, _⟩ := cutShort
  exact ⟨id, part, [], isLine⟩

theorem Levelless.fields (levelless : Levelless line) :
    ∃ id code more, fields line = some ("OUTPUT".toList :: id :: code :: more) := by
  obtain ⟨id, code, more, isLine, _⟩ := levelless
  exact ⟨id, code, more, isLine⟩

theorem OtherGroup.fields (otherGroup : OtherGroup line) :
    ∃ id code more, fields line = some ("GROUP".toList :: id :: code :: more) := by
  obtain ⟨id, code, more, isLine, _⟩ := otherGroup
  exact ⟨id, code, more, isLine⟩

/-- Where the line is of another kind, the kind's reader has no part in it. -/
theorem not_of_kind (isLine : fields line = some (first :: id :: code :: more)) {other : Text}
    (differs : first ≠ other) :
    ¬ ∃ id code more, fields line = some (other :: id :: code :: more) := by
  rintro ⟨_, _, _, same⟩
  rw [isLine] at same
  cases same
  exact differs rfl

/-- A line is read, and read as documented, exactly when it is none of three: a device line cut
short, a level line without a level, a group line of another action. -/
theorem parse_documented_iff (line : Text) :
    (∃ message, parse line = some message ∧ Documented line message) ↔
      ¬ CutShort line ∧ ¬ Levelless line ∧ ¬ OtherGroup line := by
  cases isLine : fields line with
  | none =>
    refine iff_of_true (parse_of_no_fields isLine) ⟨?_, ?_, ?_⟩
    · rintro ⟨_, _, found, _⟩
      simp [isLine] at found
    · rintro ⟨_, _, _, found, _⟩
      simp [isLine] at found
    · rintro ⟨_, _, _, found, _⟩
      simp [isLine] at found
  | some parts =>
    rw [parse_of_fields isLine]
    rcases parts with _ | ⟨first, _ | ⟨id, _ | ⟨code, more⟩⟩⟩
    case cons.cons.cons =>
      have notCutShort (differs : first ≠ "DEVICE".toList) : ¬ CutShort line :=
        fun cutShort => not_of_kind isLine differs cutShort.fields
      have notLevelless (differs : first ≠ "OUTPUT".toList) : ¬ Levelless line :=
        fun levelless => not_of_kind isLine differs levelless.fields
      have notOtherGroup (differs : first ≠ "GROUP".toList) : ¬ OtherGroup line :=
        fun otherGroup => not_of_kind isLine differs otherGroup.fields
      rw [if_neg (by simp)]
      simp only [List.head?_cons, Option.some.injEq]
      split
      · next isOutput =>
        subst isOutput
        rw [output_documented_iff isLine]
        simp [notCutShort (by decide), notOtherGroup (by decide)]
      · next notOutput =>
        split
        · next isDevice =>
          subst isDevice
          rw [device_documented_iff isLine]
          simp [notLevelless notOutput, notOtherGroup (by decide)]
        · next notDevice =>
          split
          · next isGroup =>
            subst isGroup
            rw [group_documented_iff isLine]
            simp [notCutShort notDevice, notLevelless notOutput]
          · next notGroup =>
            have others : ∃ message, (if first = "ERROR".toList then
                some (LipMessage.error (join (first :: id :: code :: more).tail))
                else some (.unknown (trim line))) = some message ∧ Documented line message := by
              split <;> exact ⟨_, rfl, trivial⟩
            exact iff_of_true others ⟨notCutShort notDevice, notLevelless notOutput, notOtherGroup notGroup⟩
    all_goals
      refine iff_of_true ⟨_, rfl, trivial⟩ ⟨fun cutShort => ?_, fun levelless => ?_, fun otherGroup => ?_⟩
      · obtain ⟨_, _, _, same⟩ := cutShort.fields
        simp [isLine] at same
      · obtain ⟨_, _, _, same⟩ := levelless.fields
        simp [isLine] at same
      · obtain ⟨_, _, _, same⟩ := otherGroup.fields
        simp [isLine] at same

theorem parseOutput_reads : ∃ message, parseOutput (first :: id :: code :: more) = some message := by
  simp only [parseOutput, List.getElem?_cons_succ, List.getElem?_cons_zero, Option.bind_eq_bind,
    Option.bind_some]
  split
  · exact ⟨_, rfl⟩
  · split
    · exact ⟨_, rfl⟩
    · split <;> exact ⟨_, rfl⟩

theorem parseGroup_reads : ∃ message, parseGroup (first :: id :: code :: more) = some message := by
  simp only [parseGroup, List.getElem?_cons_succ, List.getElem?_cons_zero, Option.bind_eq_bind,
    Option.bind_some]
  split <;> exact ⟨_, rfl⟩

/-- A level line or a group line stops the reader nowhere, whatever it lacks. -/
theorem parse_reads (whole : ¬ CutShort line) : ∃ message, parse line = some message := by
  by_cases levelless : Levelless line
  · obtain ⟨id, code, more, isLine⟩ := levelless.fields
    rw [parse_of_fields isLine, if_neg (by simp), if_pos (by rfl)]
    exact parseOutput_reads
  by_cases otherGroup : OtherGroup line
  · obtain ⟨id, code, more, isLine⟩ := otherGroup.fields
    rw [parse_of_fields isLine, if_neg (by simp), if_neg (by simp), if_neg (by simp), if_pos (by rfl)]
    exact parseGroup_reads
  obtain ⟨message, reads, _⟩ := (parse_documented_iff line).mpr ⟨whole, levelless, otherGroup⟩
  exact ⟨message, reads⟩

end Lines

/-- Only a line that is cut short stops the reader, and none of the documented kinds gives it a state
that it does not say. -/
theorem lines_read_as_documented {line : Text} (whole : ¬ CutShort line) :
    ∃ message, parse line = some message ∧
      (¬ Levelless line → ¬ OtherGroup line → Documented line message) := by
  obtain ⟨message, reads⟩ := parse_reads whole
  refine ⟨message, reads, fun level occupancy => ?_⟩
  obtain ⟨same, readsSame, documented⟩ := (parse_documented_iff line).mpr ⟨whole, level, occupancy⟩
  rw [reads] at readsSame
  cases readsSame
  exact documented

/-- A level line is read as documented, and one without its level is read. -/
theorem level_lines_read :
    (∃ message, parse "~OUTPUT,7,1,75.00".toList = some message ∧
      Documented "~OUTPUT,7,1,75.00".toList message) ∧
    ∃ message, parse "~OUTPUT,7,1".toList = some message := by
  have isLine : fields "~OUTPUT,7,1,75.00".toList =
      some ["OUTPUT".toList, "7".toList, "1".toList, "75.00".toList] := by decide
  have isBare : fields "~OUTPUT,7,1".toList = some ["OUTPUT".toList, "7".toList, "1".toList] := by decide
  have reads : parseF64 "75.00".toList = some (.finite 75) := by decide +kernel
  constructor
  · obtain ⟨message, isRead, documented⟩ := lines_read_as_documented fun cutShort =>
      not_of_kind isLine (by decide) cutShort.fields
    refine ⟨message, isRead, documented (fun levelless => ?_) fun otherGroup => ?_⟩
    · exact ((levelless_iff isLine).mp levelless).2.2 75 reads
    · exact not_of_kind isLine (by decide) otherGroup.fields
  · obtain ⟨message, isRead, _⟩ := lines_read_as_documented fun cutShort =>
      not_of_kind isBare (by decide) cutShort.fields
    exact ⟨message, isRead⟩

/-- A group line without a state says that the state is unknown. -/
theorem group_read_without_state : ¬ ∀ line integrationId state,
    parse line = some (.group integrationId state) →
      ∃ id stated, fields line = some ["GROUP".toList, id, "3".toList, stated] := by
  intro always
  obtain ⟨id, stated, found⟩ := always "~GROUP,62,3".toList 62 .unknown (by decide)
  have isLine : fields "~GROUP,62,3".toList = some ["GROUP".toList, "62".toList, "3".toList] := by decide
  rw [isLine] at found
  cases found

end HomeCore.Lutron
