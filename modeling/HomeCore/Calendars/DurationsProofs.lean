import HomeCore.Calendars.Durations

/-! Which DURATION texts are read safely and rightly. The loop keeps one amount for each unit,
the last one before its letter, and nothing bounds the amounts but their 64 bits; so the sum
can leave the range of a length, and the end of an event the range of a moment. -/
namespace HomeCore.Calendars

/-! ## The amounts in a text -/

def isUnit (inTime : Bool) (c : Char) : Bool :=
  if inTime then c = 'H' || c = 'M' || c = 'S' else c = 'D' || c = 'W'

/-- The units of a text, each with the digits since the last one, and the digits after them. -/
def readParts (inTime : Bool) : List Char → List Char → List (List Char × Char) × List Char
  | digits, [] => ([], digits)
  | digits, c :: rest =>
    if isUnit inTime c then
      ((digits, c) :: (readParts inTime [] rest).1, (readParts inTime [] rest).2)
    else readParts inTime (if isDigit c then digits ++ [c] else digits) rest

/-- Days and weeks up to the first `T`. Digits that no unit follows there are the first after
it, too. -/
def datePart (text : List Char) : List (List Char × Char) × List Char :=
  readParts false [] (text.takeWhile (· ≠ 'T'))

def timePart (text : List Char) : List (List Char × Char) :=
  (readParts true (datePart text).2 (text.dropWhile (· ≠ 'T'))).1

def partAmount (part : List Char × Char) : Nat :=
  if part.2 = 'W' then amount part.1 * 7 else amount part.1

/-- The amount before the last of these units, or else the one before. -/
def lastAmount (units : List Char) (before : Nat) (parts : List (List Char × Char)) : Nat :=
  ((parts.filter (·.2 ∈ units)).getLast?.map partAmount).getD before

/-- The seconds that the last amounts come to. -/
def lengthSeconds (text : List Char) : Nat :=
  lastAmount ['D', 'W'] 0 (datePart text).1 * 86400 + lastAmount ['H'] 0 (timePart text) * 3600 +
    lastAmount ['M'] 0 (timePart text) * 60 + lastAmount ['S'] 0 (timePart text)

/-- A number of weeks stays in 64 bits as days. -/
def weekFits (part : List Char × Char) : Bool := part.2 ≠ 'W' || amount part.1 * 7 ≤ maxI64

def weeksFit (text : List Char) : Bool := (datePart text).1.all weekFits

/-- The amounts stay in the range of a moment from the start, and what the grammar allows has
no sign and no number beyond 64 bits. -/
structure DurationFits (text : String) (start : Moment) : Prop where
  amounts : ∀ rest, trim text.toList = 'P' :: rest → weeksFit rest = true ∧
    start.nanos + lengthSeconds rest * second ≤ maxMoment
  plain : ∀ (sign : Sign) (value : DurValue), text.toList = sign.text ++ value.text →
    sign = .unsigned ∧ ∀ part ∈ value.parts, part.1.value ≤ maxI64

/-! ## The loop reads the amounts -/

/-- A unit after its digits. -/
def readPart (scan : DurationScan) (part : List Char × Char) : Except DurationFault DurationScan :=
  scanChar { scan with numBuf := part.1 } part.2

theorem isUnit_cases {inTime : Bool} {c : Char} (unit : isUnit inTime c = true) :
    (inTime = false ∧ (c = 'D' ∨ c = 'W')) ∨ (inTime = true ∧ (c = 'H' ∨ c = 'M' ∨ c = 'S')) := by
  cases inTime with
  | false => exact .inl ⟨rfl, by simpa [isUnit] using unit⟩
  | true => exact .inr ⟨rfl, by simpa [isUnit, or_assoc] using unit⟩

theorem isUnit_not_digit {inTime : Bool} {c : Char} (unit : isUnit inTime c = true) :
    isDigit c = false ∧ c ≠ 'T' := by
  rcases isUnit_cases unit with ⟨_, rfl | rfl⟩ | ⟨_, rfl | rfl | rfl⟩
  all_goals decide

/-- A unit leaves no digits, and nothing of the phase changes. -/
theorem readPart_ok {scan after : DurationScan} {digits : List Char} {c : Char}
    (unit : isUnit scan.inTime c = true) (read : readPart scan (digits, c) = .ok after) :
    after.numBuf = [] ∧ after.inTime = scan.inTime := by
  rcases isUnit_cases unit with ⟨phase, rfl | rfl⟩ | ⟨phase, rfl | rfl | rfl⟩
  all_goals simp only [readPart, scanChar, phase] at read
  · cases read
    exact ⟨rfl, phase.symm⟩
  · simp [isDigit] at read
    split at read
    · cases read
      exact ⟨rfl, phase.symm⟩
    · cases read
  all_goals
    cases read
    exact ⟨rfl, phase.symm⟩

theorem scanChar_digit {scan : DurationScan} {c : Char} (digit : isDigit c = true) (other : c ≠ 'T') :
    scanChar scan c = .ok { scan with numBuf := scan.numBuf ++ [c] } := by
  rw [scanChar, if_neg other, if_pos digit]

theorem scanChar_other {scan : DurationScan} {c : Char} (digit : isDigit c = false) (other : c ≠ 'T')
    (unit : isUnit scan.inTime c = false) : scanChar scan c = .ok scan := by
  cases phase : scan.inTime with
  | false =>
    rw [phase] at unit
    simp_all [scanChar, isUnit]
  | true =>
    rw [phase] at unit
    simp_all [scanChar, isUnit]

theorem scanChar_inTime {scan : DurationScan} (phase : scan.inTime = true) :
    scanChar scan 'T' = .ok scan := by
  cases scan
  cases phase
  rfl

theorem digit_ne_T {c : Char} (digit : isDigit c = true) : c ≠ 'T' := by
  rintro rfl
  exact absurd digit (by decide)

/-- Within one phase the loop reads part by part, and is left with the digits after the last. -/
theorem scan_parts (text : List Char) (scan : DurationScan) (digits : List Char)
    (phase : scan.inTime = true ∨ 'T' ∉ text) :
    text.foldlM scanChar { scan with numBuf := digits } =
      ((readParts scan.inTime digits text).1.foldlM readPart scan).map fun read =>
        { read with numBuf := (readParts scan.inTime digits text).2 } := by
  induction text generalizing scan digits with
  | nil => rfl
  | cons c rest ih =>
    have later : scan.inTime = true ∨ 'T' ∉ rest :=
      phase.imp_right fun apart inside => apart (List.mem_cons_of_mem c inside)
    rw [List.foldlM_cons]
    cases unit : isUnit scan.inTime c with
    | true =>
      simp only [readParts, unit, if_true, List.foldlM_cons]
      change (readPart scan (digits, c) >>= fun read => rest.foldlM scanChar read) = _
      cases read : readPart scan (digits, c) with
      | error fault => rfl
      | ok after =>
        obtain ⟨empty, same⟩ := readPart_ok unit read
        have goesOn := ih after [] (by rwa [same])
        have eta : { after with numBuf := [] } = after := by
          cases after
          cases empty
          rfl
        rw [eta, same] at goesOn
        exact goesOn
    | false =>
      simp only [readParts, unit, Bool.false_eq_true, if_false]
      cases digit : isDigit c with
      | true =>
        rw [scanChar_digit digit (digit_ne_T digit)]
        exact ih scan (digits ++ [c]) later
      | false =>
        have kept : scanChar { scan with numBuf := digits } c = .ok { scan with numBuf := digits } := by
          by_cases isT : c = 'T'
          · subst isT
            exact scanChar_inTime (phase.resolve_right fun apart => apart List.mem_cons_self)
          · exact scanChar_other digit isT unit
        rw [kept]
        exact ih scan digits later

theorem lastAmount_cons (units : List Char) (before : Nat) (part : List Char × Char)
    (rest : List (List Char × Char)) :
    lastAmount units before (part :: rest) =
      lastAmount units (if part.2 ∈ units then partAmount part else before) rest := by
  simp only [lastAmount, List.filter_cons, decide_eq_true_eq]
  split
  · rw [List.getLast?_cons]
    cases (rest.filter (·.2 ∈ units)).getLast? <;> rfl
  · rfl

theorem lastAmount_none (before : Nat) {units : List Char} {parts : List (List Char × Char)}
    (none_ : ∀ part ∈ parts, part.2 ∉ units) : lastAmount units before parts = before := by
  have empty : parts.filter (·.2 ∈ units) = [] := by
    rw [List.filter_eq_nil_iff]
    simpa using none_
  rw [lastAmount, empty]
  rfl

/-- What a scan has after a part. -/
def scanAfter (scan : DurationScan) (parts : List (List Char × Char)) : DurationScan where
  days := lastAmount ['D', 'W'] scan.days parts
  hours := lastAmount ['H'] scan.hours parts
  minutes := lastAmount ['M'] scan.minutes parts
  seconds := lastAmount ['S'] scan.seconds parts
  inTime := scan.inTime
  numBuf := if parts = [] then scan.numBuf else []

theorem readPart_eq {scan : DurationScan} {part : List Char × Char}
    (unit : isUnit scan.inTime part.2 = true) :
    readPart scan part = if weekFits part then .ok (scanAfter scan [part]) else .error .overflowed := by
  obtain ⟨digits, c⟩ := part
  rcases isUnit_cases unit with ⟨phase, rfl | rfl⟩ | ⟨phase, rfl | rfl | rfl⟩
  all_goals
    simp [readPart, scanChar, isDigit, phase, weekFits, scanAfter, lastAmount, partAmount]

theorem fold_parts (parts : List (List Char × Char)) (scan : DurationScan)
    (units : ∀ part ∈ parts, isUnit scan.inTime part.2 = true) :
    parts.foldlM readPart scan =
      if parts.all weekFits then .ok (scanAfter scan parts) else .error .overflowed := by
  induction parts generalizing scan with
  | nil => rfl
  | cons part rest ih =>
    rw [List.foldlM_cons, readPart_eq (units part List.mem_cons_self), List.all_cons]
    cases fits : weekFits part with
    | false => rfl
    | true =>
      change rest.foldlM readPart (scanAfter scan [part]) = _
      rw [ih (scanAfter scan [part]) fun other member => units other (List.mem_cons_of_mem part member)]
      have whole : scanAfter (scanAfter scan [part]) rest = scanAfter scan (part :: rest) := by
        simp [scanAfter, lastAmount_cons]
        simp [lastAmount]
      rw [whole, Bool.true_and]

theorem readParts_units (inTime : Bool) (digits text : List Char) :
    ∀ part ∈ (readParts inTime digits text).1, isUnit inTime part.2 = true := by
  induction text generalizing digits with
  | nil => simp [readParts]
  | cons c rest ih =>
    simp only [readParts]
    split
    · rename_i unit
      intro part member
      rcases List.mem_cons.mp member with rfl | later
      · exact unit
      · exact ih [] part later
    · exact ih _

/-! ## The length -/

theorem checkedDelta_of_nonneg {nanos : Int} (nonneg : 0 ≤ nanos) :
    checkedDelta nanos = if nanos ≤ maxDelta then .ok nanos else .error .panicked := by
  have low : -maxDelta ≤ nanos := le_trans (by decide) nonneg
  simp [checkedDelta, low]

theorem checkedDelta_bind {nanos : Int} (nonneg : 0 ≤ nanos) (next : Int → Except DurationFault Int) :
    (checkedDelta nanos >>= next) = if nanos ≤ maxDelta then next nanos else .error .panicked := by
  rw [checkedDelta_of_nonneg nonneg]
  split <;> rfl

def DurationScan.total (scan : DurationScan) : Nat :=
  scan.days * 86400 + scan.hours * 3600 + scan.minutes * 60 + scan.seconds

/-- The sum panics exactly where it leaves the range, since no part is negative. -/
theorem length_eq (scan : DurationScan) :
    scan.length = if scan.total * second ≤ maxDelta then .ok (scan.total * second)
      else .error .panicked := by
  have whole : (scan.total : Int) * second = scan.days * (86400 * second) +
      scan.hours * (3600 * second) + scan.minutes * (60 * second) + scan.seconds * second := by
    simp only [DurationScan.total]
    push_cast
    ring
  rw [whole, DurationScan.length]
  have nonneg : ∀ (n : Nat) (unit : Int), 0 ≤ unit → 0 ≤ n * unit := fun n unit positive =>
    Int.mul_nonneg (Int.natCast_nonneg n) positive
  have days := nonneg scan.days (86400 * second) (by decide)
  have hours := nonneg scan.hours (3600 * second) (by decide)
  have minutes := nonneg scan.minutes (60 * second) (by decide)
  have seconds := nonneg scan.seconds second (by decide)
  generalize scan.days * (86400 * second) = d at *
  generalize scan.hours * (3600 * second) = h at *
  generalize scan.minutes * (60 * second) = m at *
  generalize scan.seconds * second = s at *
  have upToHours := Int.add_nonneg days hours
  have upToMinutes := Int.add_nonneg upToHours minutes
  simp only [checkedDelta_bind days, checkedDelta_bind hours, checkedDelta_bind upToHours,
    checkedDelta_bind minutes, checkedDelta_bind upToMinutes, checkedDelta_bind seconds,
    checkedDelta_of_nonneg (Int.add_nonneg upToMinutes seconds)]
  generalize maxDelta = most
  split_ifs
  all_goals first | rfl | omega

theorem T_notMem_takeWhile (text : List Char) : 'T' ∉ text.takeWhile (· ≠ 'T') := by
  intro inside
  have other := List.mem_takeWhile_imp inside
  exact absurd other (by decide)

/-- Up to the first `T`, or through the whole text. -/
theorem scan_date (text : List Char) :
    (text.takeWhile (· ≠ 'T')).foldlM scanChar .start =
      if weeksFit text then
        .ok { scanAfter .start (datePart text).1 with numBuf := (datePart text).2 }
      else .error .overflowed := by
  have parts := scan_parts (text.takeWhile (· ≠ 'T')) .start [] (.inr (T_notMem_takeWhile text))
  have units : ∀ part ∈ (datePart text).1, isUnit DurationScan.start.inTime part.2 = true :=
    readParts_units false [] _
  change _ = ((datePart text).1.foldlM readPart .start).map _ at parts
  rw [fold_parts _ _ units] at parts
  refine parts.trans ?_
  change Except.map _ (if weeksFit text = true then _ else _) = _
  split <;> rfl

theorem times_fit (text : List Char) : (timePart text).all weekFits = true := by
  rw [List.all_eq_true]
  intro part member
  have unit : isUnit true part.2 = true := readParts_units true _ _ part member
  have noWeek : part.2 ≠ 'W' := by
    rintro is
    rw [is] at unit
    exact absurd unit (by decide)
  simp [weekFits, noWeek]

theorem notMem_units {inTime : Bool} {units : List Char} {parts : List (List Char × Char)}
    (inPhase : ∀ part ∈ parts, isUnit inTime part.2 = true)
    (others : ∀ c ∈ units, isUnit inTime c = false) : ∀ part ∈ parts, part.2 ∉ units := by
  intro part member inside
  have unit := inPhase part member
  rw [others part.2 inside] at unit
  cases unit

theorem dropWhile_T (text : List Char) :
    text.dropWhile (· ≠ 'T') = [] ∨ ∃ rest, text.dropWhile (· ≠ 'T') = 'T' :: rest := by
  induction text with
  | nil => exact .inl rfl
  | cons c rest ih =>
    rw [List.dropWhile_cons]
    split
    · exact ih
    · rename_i isT
      refine .inr ⟨rest, ?_⟩
      rw [show c = 'T' by simpa using isT]

/-- What the date units leave of an hour, a minute or a second is nothing, and the time units
leave the days as they are. -/
theorem lastAmount_otherPhase {inTime : Bool} {units : List Char} {parts : List (List Char × Char)}
    (before : Nat) (inPhase : ∀ part ∈ parts, isUnit inTime part.2 = true)
    (others : ∀ c ∈ units, isUnit inTime c = false) : lastAmount units before parts = before :=
  lastAmount_none before (notMem_units inPhase others)

theorem scan_split (text : List Char) :
    text.foldlM scanChar .start =
      (text.takeWhile (· ≠ 'T')).foldlM scanChar .start >>= fun scan =>
        (text.dropWhile (· ≠ 'T')).foldlM scanChar scan := by
  rw [← List.foldlM_append, List.takeWhile_append_dropWhile]

theorem scan_overflows {text : List Char} (unfit : weeksFit text = false) :
    text.foldlM scanChar .start = .error .overflowed := by
  rw [scan_split, scan_date, if_neg (by simp [unfit])]
  rfl

/-- What the loop has read in the end. -/
theorem scan_total {text : List Char} (fits : weeksFit text = true) :
    ∃ scan, text.foldlM scanChar .start = .ok scan ∧ scan.total = lengthSeconds text := by
  have dates : ∀ part ∈ (datePart text).1, isUnit false part.2 = true := readParts_units false [] _
  have times : ∀ part ∈ timePart text, isUnit true part.2 = true := readParts_units true _ _
  have noHours : lastAmount ['H'] 0 (datePart text).1 = 0 :=
    lastAmount_otherPhase 0 dates (by simp [isUnit])
  have noMinutes : lastAmount ['M'] 0 (datePart text).1 = 0 :=
    lastAmount_otherPhase 0 dates (by simp [isUnit])
  have noSeconds : lastAmount ['S'] 0 (datePart text).1 = 0 :=
    lastAmount_otherPhase 0 dates (by simp [isUnit])
  have sameDays : ∀ before, lastAmount ['D', 'W'] before (timePart text) = before := fun before =>
    lastAmount_otherPhase before times (by simp [isUnit])
  rw [scan_split, scan_date, if_pos fits]
  change ∃ scan, (text.dropWhile (· ≠ 'T')).foldlM scanChar
    { scanAfter .start (datePart text).1 with numBuf := (datePart text).2 } = .ok scan ∧ _
  rcases dropWhile_T text with ended | ⟨rest, isT⟩
  · rw [ended]
    refine ⟨_, rfl, ?_⟩
    have noTime : timePart text = [] := by
      rw [timePart, ended]
      rfl
    have empty : ∀ units, lastAmount units 0 [] = 0 := fun _ => rfl
    simp only [DurationScan.total, scanAfter, DurationScan.start, lengthSeconds, noTime, noHours,
      noMinutes, noSeconds, empty]
  · have inTime : timePart text = (readParts true (datePart text).2 rest).1 := by
      rw [timePart, isT]
      rfl
    have parts := scan_parts rest { scanAfter .start (datePart text).1 with inTime := true }
      (datePart text).2 (.inl rfl)
    rw [fold_parts _ _ (by rw [← inTime]; exact times), ← inTime, if_pos (times_fit text)] at parts
    rw [isT, List.foldlM_cons]
    refine ⟨_, parts, ?_⟩
    simp only [DurationScan.total, scanAfter, DurationScan.start, lengthSeconds, noHours, noMinutes,
      noSeconds, sameDays]

/-! ## Reading a text -/

theorem parse_of_scan {text : String} {rest : List Char} (plain : trim text.toList = 'P' :: rest) :
    parseIcsDuration text = rest.foldlM scanChar .start >>= fun scan =>
      scan.length >>= fun length => pure (some length) := by
  rw [parseIcsDuration, plain]
  rfl

theorem parse_of_plain {text : String} {rest : List Char} (plain : trim text.toList = 'P' :: rest) :
    parseIcsDuration text =
      if weeksFit rest then
        if (lengthSeconds rest : Int) * second ≤ maxDelta then .ok (some (lengthSeconds rest * second))
        else .error .panicked
      else .error .overflowed := by
  rw [parse_of_scan plain]
  cases fits : weeksFit rest with
  | false =>
    rw [scan_overflows fits, if_neg Bool.false_ne_true]
    rfl
  | true =>
    obtain ⟨scan, read, total⟩ := scan_total fits
    have length : scan.length = _ := length_eq scan
    rw [total] at length
    have goesOn : (Except.ok scan >>= fun scan => scan.length >>= fun length => pure (some length)) =
        scan.length >>= fun length => pure (some length) := pure_bind scan _
    rw [read, goesOn, length, if_pos rfl]
    by_cases small : (lengthSeconds rest : Int) * second ≤ maxDelta
    · rw [if_pos small, if_pos small]
      rfl
    · rw [if_neg small, if_neg small]
      rfl

theorem parse_of_other {text : String} (other : ∀ rest, trim text.toList ≠ 'P' :: rest) :
    parseIcsDuration text = .ok none := by
  rw [parseIcsDuration]
  split
  · rename_i rest is
    exact (other rest is).elim
  · rfl

/-! ## Texts of the grammar -/

theorem isUnit_of_digit {inTime : Bool} {c : Char} (digit : isDigit c = true) : isUnit inTime c = false := by
  cases unit : isUnit inTime c with
  | false => rfl
  | true =>
    rw [(isUnit_not_digit unit).1] at digit
    cases digit

theorem readParts_digits {inTime : Bool} (before digits rest : List Char)
    (areDigits : ∀ c ∈ digits, isDigit c = true) :
    readParts inTime before (digits ++ rest) = readParts inTime (before ++ digits) rest := by
  induction digits generalizing before with
  | nil => rw [List.nil_append, List.append_nil]
  | cons c digits ih =>
    have digit := areDigits c List.mem_cons_self
    rw [List.cons_append, readParts, isUnit_of_digit digit, if_neg Bool.false_ne_true, if_pos digit,
      ih (before ++ [c]) fun d member => areDigits d (List.mem_cons_of_mem c member)]
    rw [List.append_assoc, List.singleton_append]

/-- The parts as the loop sees them. -/
def plainParts (parts : List (Digits × Char)) : List (List Char × Char) :=
  parts.map fun part => (part.1.chars, part.2)

theorem readParts_write {inTime : Bool} (parts : List (Digits × Char))
    (units : ∀ part ∈ parts, isUnit inTime part.2 = true) :
    readParts inTime [] (writeParts parts) = (plainParts parts, []) := by
  induction parts with
  | nil => rfl
  | cons part rest ih =>
    have digits : ∀ c ∈ part.1.chars, isDigit c = true := List.all_eq_true.mp part.1.areDigits
    have later := ih fun other member => units other (List.mem_cons_of_mem part member)
    have written : writeParts (part :: rest) = part.1.chars ++ part.2 :: writeParts rest := by
      simp [writeParts]
    rw [written, readParts_digits [] _ _ digits, readParts, if_pos (units part List.mem_cons_self), later]
    rfl

theorem dateParts_units (value : DurValue) : ∀ part ∈ value.dateParts, isUnit false part.2 = true := by
  cases value with
  | weeks n => simp [DurValue.dateParts, isUnit]
  | days n time => simp [DurValue.dateParts, isUnit]
  | time part => simp [DurValue.dateParts]

theorem timePart_units (time : TimePart) : ∀ part ∈ time.parts, isUnit true part.2 = true := by
  rcases time with ⟨n, _ | ⟨m, _ | s⟩⟩ | ⟨n, _ | s⟩ | n
  all_goals simp [TimePart.parts, isUnit]

theorem timeParts_units (value : DurValue) :
    ∀ part ∈ value.timeParts.getD [], isUnit true part.2 = true := by
  cases value with
  | weeks n => simp [DurValue.timeParts]
  | days n time =>
    cases time with
    | none => simp [DurValue.timeParts]
    | some time => exact timePart_units time
  | time part => exact timePart_units part

/-- What stands after the `P`. -/
def DurValue.body (value : DurValue) : List Char :=
  writeParts value.dateParts ++ (value.timeParts.elim [] fun parts => 'T' :: writeParts parts)

theorem writeParts_ne_T {inTime : Bool} {parts : List (Digits × Char)}
    (units : ∀ part ∈ parts, isUnit inTime part.2 = true) : ∀ c ∈ writeParts parts, c ≠ 'T' := by
  intro c inside
  obtain ⟨part, member, there⟩ := List.mem_flatMap.mp inside
  rcases List.mem_append.mp there with digit | unit
  · exact digit_ne_T (List.all_eq_true.mp part.1.areDigits c digit)
  · rw [List.mem_singleton.mp unit]
    exact (isUnit_not_digit (units part member)).2

theorem datePart_body (value : DurValue) : datePart value.body = (plainParts value.dateParts, []) := by
  have apart := writeParts_ne_T (dateParts_units value)
  have front : value.body.takeWhile (· ≠ 'T') = writeParts value.dateParts := by
    rw [DurValue.body, List.takeWhile_append_of_pos (by simpa using apart)]
    cases value.timeParts with
    | none => simp
    | some parts => simp
  rw [datePart, front, readParts_write _ (dateParts_units value)]

theorem timePart_body (value : DurValue) : timePart value.body = plainParts (value.timeParts.getD []) := by
  have apart := writeParts_ne_T (dateParts_units value)
  have back : value.body.dropWhile (· ≠ 'T') =
      value.timeParts.elim [] fun parts => 'T' :: writeParts parts := by
    rw [DurValue.body, List.dropWhile_append_of_pos (by simpa using apart)]
    cases value.timeParts with
    | none => rfl
    | some parts => simp
  have units := timeParts_units value
  rw [timePart, back, datePart_body]
  cases some_ : value.timeParts with
  | none => rfl
  | some parts =>
    rw [some_] at units
    change (readParts true [] (writeParts parts)).1 = plainParts parts
    rw [readParts_write parts units]

/-- What the loop makes of a text of the grammar. -/
theorem lengthSeconds_body (value : DurValue) :
    lengthSeconds value.body =
      (value.parts.map fun part => amount part.1.chars * unitSeconds part.2).sum := by
  rw [lengthSeconds, datePart_body, timePart_body]
  have times : ∀ time : TimePart,
      lastAmount ['H'] 0 (plainParts time.parts) * 3600 + lastAmount ['M'] 0 (plainParts time.parts) * 60 +
        lastAmount ['S'] 0 (plainParts time.parts) =
          (time.parts.map fun part => amount part.1.chars * unitSeconds part.2).sum := by
    intro time
    rcases time with ⟨n, _ | ⟨m, _ | s⟩⟩ | ⟨n, _ | s⟩ | n
    all_goals
      simp [TimePart.parts, plainParts, lastAmount, partAmount, unitSeconds]
    all_goals omega
  cases value with
  | weeks n =>
    simp [DurValue.dateParts, DurValue.timeParts, DurValue.parts, plainParts, lastAmount, partAmount,
      unitSeconds]
    omega
  | days n time =>
    cases time with
    | none =>
      simp [DurValue.dateParts, DurValue.timeParts, DurValue.parts, plainParts, lastAmount, partAmount,
        unitSeconds]
    | some time =>
      have rest := times time
      simp only [DurValue.dateParts, DurValue.timeParts, DurValue.parts, Option.map_some,
        Option.getD_some, List.cons_append, List.nil_append, List.map_cons, List.sum_cons, ← rest]
      have days : lastAmount ['D', 'W'] 0 (plainParts [(n, 'D')]) = amount n.chars := by
        simp [plainParts, lastAmount, partAmount]
      rw [days, show unitSeconds 'D' = 86400 from rfl]
      ring
  | time part =>
    have rest := times part
    simp only [DurValue.dateParts, DurValue.timeParts, DurValue.parts, Option.getD_some,
      List.nil_append, ← rest]
    simp [plainParts, lastAmount]

/-! ## Trimming -/

theorem trim_eq_self {text : List Char} (front : ∀ c ∈ text.head?, isWhitespace c = false)
    (back : ∀ c ∈ text.getLast?, isWhitespace c = false) : trim text = text := by
  have start : trimStart text = text := by
    cases text with
    | nil => rfl
    | cons c rest => rw [trimStart, List.dropWhile_cons, if_neg (by simp [front c rfl])]
  rw [trim, start]
  cases reversed : text.reverse with
  | nil => simpa using reversed.symm
  | cons c rest =>
    have last : isWhitespace c = false := by
      apply back
      rw [← List.head?_reverse, reversed]
      rfl
    rw [List.dropWhile_cons, if_neg (by simp [last]), ← reversed, List.reverse_reverse]

theorem getLast?_writeParts (parts : List (Digits × Char)) :
    (writeParts parts).getLast? = parts.getLast?.map (·.2) := by
  rcases List.eq_nil_or_concat parts with rfl | ⟨front, last, rfl⟩
  · rfl
  · simp [writeParts]

theorem getLast?_timeParts (time : TimePart) :
    ∃ c, (writeParts time.parts).getLast? = some c ∧ isWhitespace c = false := by
  rw [getLast?_writeParts]
  rcases time with ⟨n, _ | ⟨m, _ | s⟩⟩ | ⟨n, _ | s⟩ | n
  all_goals exact ⟨_, rfl, rfl⟩

theorem getLast?_body (value : DurValue) :
    ∃ c, value.body.getLast? = some c ∧ isWhitespace c = false := by
  cases value with
  | weeks n =>
    refine ⟨'W', ?_, by decide⟩
    simp [DurValue.body, DurValue.dateParts, DurValue.timeParts, getLast?_writeParts]
  | days n time =>
    cases time with
    | none =>
      refine ⟨'D', ?_, by decide⟩
      simp [DurValue.body, DurValue.dateParts, DurValue.timeParts, getLast?_writeParts]
    | some time =>
      obtain ⟨c, last, dark⟩ := getLast?_timeParts time
      refine ⟨c, ?_, dark⟩
      simp [DurValue.body, DurValue.timeParts, List.getLast?_append, List.getLast?_cons, last]
  | time part =>
    obtain ⟨c, last, dark⟩ := getLast?_timeParts part
    refine ⟨c, ?_, dark⟩
    simp [DurValue.body, DurValue.timeParts, List.getLast?_append, List.getLast?_cons, last]

theorem trim_text (sign : Sign) (value : DurValue) :
    trim (sign.text ++ value.text) = sign.text ++ value.text := by
  apply trim_eq_self
  · intro c isFirst
    cases sign with
    | unsigned | plus | minus =>
      cases isFirst
      decide
  · intro c isLast
    obtain ⟨last, ends, dark⟩ := getLast?_body value
    have whole : sign.text ++ value.text = sign.text ++ 'P' :: value.body := rfl
    rw [whole, List.getLast?_append, List.getLast?_cons, ends] at isLast
    cases isLast
    exact dark

/-! ## When reading is sound -/

theorem amount_le (digits : Digits) : amount digits.chars ≤ digits.value := by
  rw [amount]
  split
  · exact Nat.le_refl _
  · exact Nat.zero_le _

theorem amount_eq_iff (digits : Digits) :
    amount digits.chars = digits.value ↔ digits.value ≤ maxI64 := by
  rw [amount, Digits.value]
  constructor
  · intro same
    by_contra large
    rw [if_neg fun both => large both.2] at same
    omega
  · intro small
    rw [if_pos ⟨digits.nonempty, small⟩]

/-- The amounts of a list add up rightly where each of them is read rightly. -/
theorem sum_amounts_iff {parts : List (Digits × Char)} (units : ∀ part ∈ parts, 0 < unitSeconds part.2) :
    (parts.map fun part => amount part.1.chars * unitSeconds part.2).sum =
        (parts.map fun part => part.1.value * unitSeconds part.2).sum ↔
      ∀ part ∈ parts, part.1.value ≤ maxI64 := by
  induction parts with
  | nil => simp
  | cons part rest ih =>
    have later := ih fun other member => units other (List.mem_cons_of_mem part member)
    have positive := units part List.mem_cons_self
    have head : amount part.1.chars * unitSeconds part.2 ≤ part.1.value * unitSeconds part.2 :=
      Nat.mul_le_mul_right _ (amount_le part.1)
    have tail : (rest.map fun part => amount part.1.chars * unitSeconds part.2).sum ≤
        (rest.map fun part => part.1.value * unitSeconds part.2).sum :=
      List.sum_le_sum fun other _ => Nat.mul_le_mul_right _ (amount_le other.1)
    rw [List.forall_mem_cons, ← later, List.map_cons, List.map_cons, List.sum_cons, List.sum_cons,
      ← amount_eq_iff part.1]
    constructor
    · intro same
      have first : amount part.1.chars * unitSeconds part.2 = part.1.value * unitSeconds part.2 := by
        omega
      exact ⟨Nat.eq_of_mul_eq_mul_right positive first, by omega⟩
    · rintro ⟨first, others⟩
      rw [first, others]

theorem parts_units (value : DurValue) : ∀ part ∈ value.parts, 0 < unitSeconds part.2 := by
  intro part member
  have unit : isUnit false part.2 = true ∨ isUnit true part.2 = true := by
    rcases List.mem_append.mp member with date | time
    · exact .inl (dateParts_units value part date)
    · exact .inr (timeParts_units value part time)
  rcases unit with unit | unit
  all_goals
    rcases isUnit_cases unit with ⟨_, is | is⟩ | ⟨_, is | is | is⟩
  all_goals
    rw [is]
    decide

/-- A text of the grammar without a sign is read as it denotes where its numbers fit. -/
theorem denotes_iff (value : DurValue) :
    (lengthSeconds value.body : Int) * second = value.denotes ↔
      ∀ part ∈ value.parts, part.1.value ≤ maxI64 := by
  rw [← sum_amounts_iff (parts_units value), ← lengthSeconds_body, DurValue.denotes]
  constructor
  · intro same
    exact_mod_cast Int.eq_of_mul_eq_mul_right (by decide) same
  · intro same
    rw [same]

theorem signed_not_plain {sign : Sign} (signed : sign ≠ .unsigned) (value : DurValue) (rest : List Char) :
    sign.text ++ value.text ≠ 'P' :: rest := by
  cases sign with
  | unsigned => exact (signed rfl).elim
  | plus | minus =>
    intro same
    exact absurd (List.cons.inj same).1 (by decide)

/-- A length that ends in the range of a moment is in the range of a length. -/
theorem length_in_range {start : Moment} {nanos : Int} (ends : start.nanos + nanos ≤ maxMoment) :
    nanos ≤ maxDelta := by
  have span : maxMoment - minMoment ≤ maxDelta := by decide
  have begins := start.notBefore
  omega

theorem after_iff {start : Moment} {nanos : Int} (nonneg : 0 ≤ nanos) :
    (∃ moment, start.after nanos = .ok moment) ↔ start.nanos + nanos ≤ maxMoment := by
  have begins : minMoment ≤ start.nanos + nanos := by
    have := start.notBefore
    omega
  rw [Moment.after]
  constructor
  · rintro ⟨moment, is⟩
    split at is
    · rename_i inRange
      exact inRange.2
    · cases is
  · intro fits
    exact ⟨_, if_pos ⟨begins, fits⟩⟩

theorem length_nonneg (text : List Char) : 0 ≤ (lengthSeconds text : Int) * second :=
  Int.mul_nonneg (Int.natCast_nonneg _) (by decide)

/-- What is read, where the amounts fit. -/
theorem parse_of_fits {text : String} {rest : List Char} (plain : trim text.toList = 'P' :: rest)
    (fits : weeksFit rest = true) (small : (lengthSeconds rest : Int) * second ≤ maxDelta) :
    parseIcsDuration text = .ok (some (lengthSeconds rest * second)) := by
  rw [parse_of_plain plain, if_pos fits, if_pos small]

theorem fits_of_read {text : String} {rest : List Char} (plain : trim text.toList = 'P' :: rest)
    {read : Option Int} (is : parseIcsDuration text = .ok read) :
    weeksFit rest = true ∧ read = some (lengthSeconds rest * second) := by
  rw [parse_of_plain plain] at is
  split at is
  · split at is
    · cases is
      exact ⟨‹_›, rfl⟩
    · cases is
  · cases is

/-- For every text and every start: reading the text and adding the length to the start are
sound if and only if the amounts in it fit, and a text of the grammar has no sign and no
number beyond 64 bits. -/
theorem duration_sound_iff (text : String) (start : Moment) :
    DurationSound text start ↔ DurationFits text start := by
  constructor
  · intro sound
    obtain ⟨read, is⟩ := sound.returns
    refine ⟨?_, ?_⟩
    · intro rest plain
      obtain ⟨fits, rfl⟩ := fits_of_read plain is
      exact ⟨fits, (after_iff (length_nonneg rest)).mp (sound.ends _ is)⟩
    · intro sign value written
      have denoted := sound.denotes sign value written
      have whole : trim text.toList = sign.text ++ value.text := by
        rw [written, trim_text]
      by_cases unsigned : sign = .unsigned
      · subst unsigned
        obtain ⟨_, same⟩ := fits_of_read whole denoted
        refine ⟨rfl, (denotes_iff value).mp ?_⟩
        exact (Option.some.inj same).symm
      · have unread : parseIcsDuration text = .ok none := by
          refine parse_of_other fun rest => ?_
          rw [whole]
          exact signed_not_plain unsigned value rest
        rw [unread] at denoted
        cases denoted
  · intro fits
    by_cases plain : ∃ rest, trim text.toList = 'P' :: rest
    · obtain ⟨rest, plain⟩ := plain
      obtain ⟨weeks, ends⟩ := fits.amounts rest plain
      have read := parse_of_fits plain weeks (length_in_range ends)
      refine ⟨⟨_, read⟩, ?_, ?_⟩
      · intro sign value written
        obtain ⟨rfl, numbers⟩ := fits.plain sign value written
        have whole : trim text.toList = 'P' :: value.body := by
          rw [written, trim_text]
          rfl
        rw [plain] at whole
        cases whole
        rw [read, (denotes_iff value).mpr numbers]
        rfl
      · intro delta is
        rw [read] at is
        cases is
        exact (after_iff (length_nonneg rest)).mpr ends
    · have unread : parseIcsDuration text = .ok none :=
        parse_of_other fun rest is => plain ⟨rest, is⟩
      refine ⟨⟨none, unread⟩, ?_, ?_⟩
      · intro sign value written
        obtain ⟨rfl, _⟩ := fits.plain sign value written
        refine (plain ⟨value.body, ?_⟩).elim
        rw [written, trim_text]
        rfl
      · intro delta is
        rw [unread] at is
        cases is

/-- The start of the year 2026. -/
def newYear : Moment where
  nanos := 1767225600 * second
  notBefore := by decide
  notAfter := by decide

/-- Reading two hundred thousand million days panics. -/
theorem long_duration_panics : ¬ ∀ text start, DurationSound text start := by
  intro sound
  obtain ⟨read, is⟩ := (sound "P200000000000D" newYear).returns
  have panics : parseIcsDuration "P200000000000D" = .error .panicked := by decide
  rw [panics] at is
  cases is

end HomeCore.Calendars
