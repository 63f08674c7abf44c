import HomeCore.TopicMap.Patterns
import HomeCore.TopicMap.RouterProofs

/-! What a pattern matches. Its text is read back as it was written, unless a closing brace
stands before a variable; no slice is off a character boundary, and one is out of order just
where what comes before a variable and what comes after it overlap in a part of the topic. -/
namespace HomeCore.TopicMap
open Slices

/-! ## Cutting at byte offsets and at characters is the same -/

theorem braces_apart : openingBrace ≠ closingBrace := by decide

theorem bytes_openingBrace (rest : Text) : bytes (openingBrace :: rest) = 1 + bytes rest :=
  bytes_cons openingBrace rest

theorem idxOf?_append {sought : Char} {front : Text} (absent : sought ∉ front) (back : Text) :
    (front ++ sought :: back).idxOf? sought = some front.length := by
  induction front with
  | nil => simp [List.idxOf?_cons]
  | cons c rest ih =>
    rw [List.mem_cons, not_or] at absent
    have other : (c == sought) = false := beq_eq_false_iff_ne.mpr fun same => absent.1 same.symm
    rw [List.cons_append, List.idxOf?_cons, other, ih absent.2]
    rfl

/-- What stands around the braces, where there are both. -/
inductive Braces : Text → Prop
  | missing {text : Text} : openingBrace ∉ text ∨ closingBrace ∉ text → Braces text
  | paired {before name after : Text} : openingBrace ∉ before → closingBrace ∉ before →
      closingBrace ∉ name → Braces (before ++ openingBrace :: (name ++ closingBrace :: after))
  | crossed {before between after : Text} : closingBrace ∉ before → openingBrace ∉ before →
      openingBrace ∉ between → Braces (before ++ closingBrace :: (between ++ openingBrace :: after))

theorem braces (text : Text) : Braces text := by
  by_cases opened : openingBrace ∈ text
  · by_cases closed : closingBrace ∈ text
    · obtain ⟨before, rest, rfl, first⟩ := List.eq_append_cons_of_mem opened
      by_cases earlier : closingBrace ∈ before
      · obtain ⟨front, between, rfl, isFirst⟩ := List.eq_append_cons_of_mem earlier
        rw [List.mem_append, List.mem_cons, not_or, not_or] at first
        rw [List.append_assoc, List.cons_append]
        exact .crossed isFirst first.1 first.2.2
      · have later : closingBrace ∈ rest := by
          rcases List.mem_append.mp closed with inside | inside
          · exact absurd inside earlier
          · rcases List.mem_cons.mp inside with same | within
            · exact absurd same.symm braces_apart
            · exact within
        obtain ⟨name, after, rfl, isFirst⟩ := List.eq_append_cons_of_mem later
        exact .paired first earlier isFirst
    · exact .missing (.inr closed)
  · exact .missing (.inl opened)

theorem cutSegment_paired {before name after : Text} (opens : openingBrace ∉ before)
    (plain : closingBrace ∉ before) (closes : closingBrace ∉ name) :
    cutSegment (before ++ openingBrace :: (name ++ closingBrace :: after)) =
      some (if before.isEmpty && after.isEmpty then .capture (String.ofList name)
        else .partialCapture before (String.ofList name) after) := by
  have opened := find?_append opens (name ++ closingBrace :: after)
  have closed : find? closingBrace ((before ++ openingBrace :: name) ++ closingBrace :: after) =
      some (bytes (before ++ openingBrace :: name)) := by
    refine find?_append ?_ after
    rw [List.mem_append, List.mem_cons, not_or, not_or]
    exact ⟨plain, braces_apart.symm, closes⟩
  rw [List.append_assoc, List.cons_append, bytes_append, bytes_openingBrace] at closed
  have first := slice?_between [] before (openingBrace :: (name ++ closingBrace :: after))
  have second := slice?_between (before ++ [openingBrace]) name (closingBrace :: after)
  have third := back?_append (before ++ openingBrace :: (name ++ [closingBrace])) after
  simp only [List.nil_append, bytes_nil, Nat.zero_add] at first
  have oneByte : bytes [openingBrace] = 1 := rfl
  have lastByte : bytes [closingBrace] = 1 := rfl
  simp only [bytes_append, oneByte, List.append_assoc, List.cons_append, List.nil_append,
    Nat.add_assoc] at second
  simp only [bytes_append, bytes_openingBrace, lastByte, List.append_assoc, List.cons_append,
    List.nil_append] at third
  have order : bytes before < bytes before + (1 + bytes name) := by omega
  have offset : bytes before + (1 + (bytes name + 1)) = bytes before + (1 + bytes name) + 1 := by omega
  rw [offset] at third
  simp only [cutSegment, opened, closed, if_pos order, first, second, third, Option.bind_eq_bind,
    Option.bind_some]
  split <;> rfl

theorem parseSegment_paired {before name after : Text} (opens : openingBrace ∉ before)
    (plain : closingBrace ∉ before) (closes : closingBrace ∉ name) :
    parseSegment (before ++ openingBrace :: (name ++ closingBrace :: after)) =
      if before.isEmpty && after.isEmpty then .capture (String.ofList name)
        else .partialCapture before (String.ofList name) after := by
  have opened := idxOf?_append opens (name ++ closingBrace :: after)
  have closed : ((before ++ openingBrace :: name) ++ closingBrace :: after).idxOf? closingBrace =
      some (before ++ openingBrace :: name).length := by
    refine idxOf?_append ?_ after
    rw [List.mem_append, List.mem_cons, not_or, not_or]
    exact ⟨plain, braces_apart.symm, closes⟩
  have upTo := @List.take_left _ (before ++ openingBrace :: name) (closingBrace :: after)
  have inner : (before ++ openingBrace :: name).drop (before.length + 1) = name := by
    simp
  have past : (before ++ openingBrace :: name ++ closingBrace :: after).drop
      ((before ++ openingBrace :: name).length + 1) = after := by
    have whole : before ++ openingBrace :: name ++ closingBrace :: after =
        (before ++ openingBrace :: (name ++ [closingBrace])) ++ after := by simp
    rw [whole]
    refine List.drop_left' ?_
    simp only [List.length_append, List.length_cons, List.length_nil]
    omega
  rw [List.append_assoc, List.cons_append] at closed upTo past
  have order : before.length < (before ++ openingBrace :: name).length := by simp
  simp only [parseSegment, opened, closed, if_pos order, List.take_left, upTo, inner, past]

theorem crossed_opens {before between : Text} (opens : openingBrace ∉ before)
    (later : openingBrace ∉ between) : openingBrace ∉ before ++ closingBrace :: between := by
  rw [List.mem_append, List.mem_cons, not_or, not_or]
  exact ⟨opens, braces_apart, later⟩

theorem cutSegment_crossed {before between after : Text} (plain : closingBrace ∉ before)
    (opens : openingBrace ∉ before) (later : openingBrace ∉ between) :
    cutSegment (before ++ closingBrace :: (between ++ openingBrace :: after)) =
      some (.literal (before ++ closingBrace :: (between ++ openingBrace :: after))) := by
  have closed := find?_append plain (between ++ openingBrace :: after)
  have opened : find? openingBrace ((before ++ closingBrace :: between) ++ openingBrace :: after) =
      some (bytes (before ++ closingBrace :: between)) := by
    exact find?_append (crossed_opens opens later) after
  rw [List.append_assoc, List.cons_append] at opened
  have order : ¬ bytes (before ++ closingBrace :: between) < bytes before := by
    rw [bytes_append]
    omega
  simp only [cutSegment, opened, closed, if_neg order]

theorem parseSegment_crossed {before between after : Text} (plain : closingBrace ∉ before)
    (opens : openingBrace ∉ before) (later : openingBrace ∉ between) :
    parseSegment (before ++ closingBrace :: (between ++ openingBrace :: after)) =
      .literal (before ++ closingBrace :: (between ++ openingBrace :: after)) := by
  have closed := idxOf?_append plain (between ++ openingBrace :: after)
  have opened : ((before ++ closingBrace :: between) ++ openingBrace :: after).idxOf? openingBrace =
      some (before ++ closingBrace :: between).length := by
    exact idxOf?_append (crossed_opens opens later) after
  rw [List.append_assoc, List.cons_append] at opened
  have order : ¬ (before ++ closingBrace :: between).length < before.length := by
    rw [List.length_append]
    omega
  simp only [parseSegment, opened, closed, if_neg order]

theorem idxOf?_absent {sought : Char} {text : Text} (absent : sought ∉ text) : text.idxOf? sought = none :=
  List.idxOf?_eq_none_iff.mpr absent

theorem cutSegment_missing {text : Text} (missing : openingBrace ∉ text ∨ closingBrace ∉ text) :
    cutSegment text = some (.literal text) := by
  rcases missing with opens | closes
  · simp only [cutSegment, find?_eq_none opens]
  · simp only [cutSegment, find?_eq_none closes]
    cases find? openingBrace text <;> rfl

theorem parseSegment_missing {text : Text} (missing : openingBrace ∉ text ∨ closingBrace ∉ text) :
    parseSegment text = .literal text := by
  rcases missing with opens | closes
  · simp only [parseSegment, idxOf?_absent opens]
  · simp only [parseSegment, idxOf?_absent closes]
    cases text.idxOf? openingBrace <;> rfl

/-- Parsing cuts no text out of order or off a character boundary. -/
theorem cutSegment_eq (text : Text) : cutSegment text = some (parseSegment text) := by
  cases braces text with
  | missing missing => rw [cutSegment_missing missing, parseSegment_missing missing]
  | paired opens plain closes =>
    rw [cutSegment_paired opens plain closes, parseSegment_paired opens plain closes]
  | crossed plain opens later =>
    rw [cutSegment_crossed plain opens later, parseSegment_crossed plain opens later]

theorem cutPattern_eq (pattern : Text) : cutPattern pattern = some (parsePattern pattern) := by
  rw [cutPattern, parsePattern]
  induction pattern.splitOn '/' with
  | nil => rfl
  | cons text rest ih =>
    rw [List.mapM_cons, cutSegment_eq, ih]
    rfl

/-- A text that starts with one text and ends with another is cut between them, unless they
overlap. -/
theorem slice?_enclosed {part before after : Text} (starts : before <+: part) (finishes : after <:+ part) :
    slice? part (bytes before) (bytes part - bytes after) =
      if before.length + after.length ≤ part.length then
        some ((part.take (part.length - after.length)).drop before.length)
      else none := by
  obtain ⟨rest, isPart⟩ := starts
  obtain ⟨front, isAlso⟩ := finishes
  have sizes : bytes part = bytes front + bytes after := by rw [← isAlso, bytes_append]
  have lengths : part.length = front.length + after.length := by rw [← isAlso, List.length_append]
  rw [sizes, lengths, Nat.add_sub_cancel, Nat.add_sub_cancel]
  rcases List.append_eq_append_iff.mp (isPart.trans isAlso.symm) with ⟨middle, isFront, isRest⟩ |
    ⟨overlap, isBefore, isAfter⟩
  · have between := slice?_between before middle after
    rw [if_pos (by rw [isFront, List.length_append]; omega), ← isAlso, List.take_left, isFront,
      List.drop_left, bytes_append]
    exact between
  · cases overlap with
    | nil =>
      rw [List.append_nil] at isBefore
      have between := slice?_between front [] after
      rw [if_pos (by rw [isBefore]), ← isAlso, List.take_left, isBefore, List.drop_length]
      simpa using between
    | cons c overlap =>
      have positive := c.utf8Size_pos
      rw [if_neg (by rw [isBefore, List.length_append, List.length_cons]; omega)]
      refine slice?_crossed part ?_
      rw [isBefore, bytes_append, bytes_cons]
      omega

theorem cutParts_eq (vars : Vars) (segments : List Segment) (parts : List Text) :
    cutParts vars segments parts = matchParts vars segments parts := by
  induction segments generalizing vars parts with
  | nil => simp only [cutParts, matchParts]
  | cons segment rest ih =>
    cases parts with
    | nil => cases segment <;> simp only [cutParts, matchParts]
    | cons part parts =>
      cases segment with
      | literal text => simp only [cutParts, matchParts, ih]
      | capture name => simp only [cutParts, matchParts, ih]
      | partialCapture before name after =>
        simp only [cutParts, matchParts]
        split
        next encloses =>
          rw [Bool.and_eq_true, List.isPrefixOf_iff_prefix, List.isSuffixOf_iff_suffix] at encloses
          rw [slice?_enclosed encloses.1 encloses.2]
          by_cases fits : before.length + after.length ≤ part.length
          · simp only [if_pos fits, ih]
          · simp only [if_neg fits]
        next => rfl

theorem matchPattern_eq (pattern topic : Text) :
    matchPattern pattern topic = matchSegments (parsePattern pattern) topic := by
  simp only [matchPattern, cutPattern_eq, matchSegments, cutParts_eq]

/-! ## Patterns are read back as they were written -/

namespace Written

/-- What the segment's text is read as. -/
def read : Written → Segment
  | literal text => .literal text
  | named before name after =>
    if closingBrace ∈ before then .literal (named before name after).text
    else if before.isEmpty && after.isEmpty then .capture name else .partialCapture before name after

theorem text_named (before : Text) (name : String) (after : Text) :
    (named before name after).text =
      before ++ openingBrace :: (name.toList ++ closingBrace :: after) := by
  simp [text, placeholder]

theorem text_whole {segment : Written} (plain : segment.Plain) : '/' ∉ segment.text := by
  cases segment with
  | literal text => exact plain.1
  | named before name after =>
    obtain ⟨first, inner, last, _⟩ := plain
    rw [text_named]
    simp only [List.mem_append, List.mem_cons, not_or]
    exact ⟨first, by decide, inner, by decide, last⟩

theorem parseSegment_literal {text : Text} (plain : (literal text).Plain) :
    parseSegment text = .literal text := by
  cases braces text with
  | missing missing => exact parseSegment_missing missing
  | @paired before name after opens closed closes =>
    exact absurd (by simp) (plain.2 before name after)
  | crossed closed opens later => exact parseSegment_crossed closed opens later

theorem parseSegment_text {segment : Written} (plain : segment.Plain) :
    parseSegment segment.text = segment.read := by
  cases segment with
  | literal text => exact parseSegment_literal plain
  | named before name after =>
    obtain ⟨_, _, _, opens, closes⟩ := plain
    simp only [read]
    by_cases misread : closingBrace ∈ before
    · rw [if_pos misread]
      obtain ⟨front, between, rfl, isFirst⟩ := List.eq_append_cons_of_mem misread
      rw [List.mem_append, List.mem_cons, not_or, not_or] at opens
      rw [text_named, List.append_assoc, List.cons_append]
      exact parseSegment_crossed isFirst opens.1 opens.2.2
    · rw [if_neg misread, text_named, parseSegment_paired opens misread closes, String.ofList_toList]

end Written

theorem parsePattern_text (pattern : Pattern) :
    parsePattern pattern.text = pattern.segments.map Written.read := by
  have whole : ∀ text ∈ pattern.segments.map Written.text, '/' ∉ text := by
    intro text member
    obtain ⟨segment, isSegment, rfl⟩ := List.mem_map.mp member
    exact Written.text_whole (pattern.plain segment isSegment)
  have some : pattern.segments.map Written.text ≠ [] := by simpa using pattern.nonempty
  have split : pattern.text.splitOn '/' = pattern.segments.map Written.text :=
    List.splitOn_intercalate '/' whole some
  rw [parsePattern, split, List.map_map]
  exact List.map_congr_left fun segment isSegment => Written.parseSegment_text (pattern.plain segment isSegment)

/-! ## One part -/

section Parts
variable {earlier : Vars} {rest : List Segment} {parts : List Text} {part : Text}

theorem matchParts_text {text : Text} :
    matchParts earlier (.literal text :: rest) (part :: parts) =
      if text = part then matchParts earlier rest parts else .unmatched := rfl

/-- A whole segment is captured as one with nothing around the variable. -/
theorem matchParts_read {before after : Text} {name : String} (readable : closingBrace ∉ before) :
    matchParts earlier ((Written.named before name after).read :: rest) (part :: parts) =
      matchParts earlier (.partialCapture before name after :: rest) (part :: parts) := by
  rw [Written.read, if_neg readable]
  split
  next empty =>
    rw [Bool.and_eq_true, List.isEmpty_iff, List.isEmpty_iff] at empty
    rw [empty.1, empty.2]
    simp [matchParts]
  next => rfl

theorem matchParts_misread {before after : Text} {name : String} (misread : closingBrace ∈ before) :
    matchParts earlier ((Written.named before name after).read :: rest) (part :: parts) =
      if (Written.named before name after).text = part then matchParts earlier rest parts
      else .unmatched := by
  rw [Written.read, if_pos misread, matchParts_text]

/-- What a segment makes of its part. -/
inductive Outcome (segment : Written) (part : Text) : Prop
  /-- The texts are the same, and nothing is captured. -/
  | same : segment.Takes part → (∀ (earlier : Vars) rest parts,
      matchParts earlier (segment.read :: rest) (part :: parts) = matchParts earlier rest parts) →
      (∀ name, segment.name? = some name → ¬ segment.Readable ∧ part = segment.text) → Outcome segment part
  | captured (before : Text) (name : String) (value after : Text) :
      segment = .named before name after → segment.Readable → part = before ++ value ++ after →
      (∀ (earlier : Vars) rest parts, matchParts earlier (segment.read :: rest) (part :: parts) =
        matchParts (earlier.insert name value) rest parts) → Outcome segment part
  | refused : ¬ segment.Takes part → ¬ segment.Overlaps part → (∀ (earlier : Vars) rest parts,
      matchParts earlier (segment.read :: rest) (part :: parts) = .unmatched) → Outcome segment part
  | panicked : segment.Overlaps part → (∀ (earlier : Vars) rest parts,
      matchParts earlier (segment.read :: rest) (part :: parts) = .panicked) → Outcome segment part

theorem enclosed {before after part : Text} (starts : before <+: part) (finishes : after <:+ part)
    (fits : before.length + after.length ≤ part.length) : ∃ value, part = before ++ value ++ after := by
  obtain ⟨rest, rfl⟩ := starts
  obtain ⟨front, same⟩ := finishes
  rcases List.append_eq_append_iff.mp same with ⟨middle, isBefore, isAfter⟩ | ⟨middle, isFront, isRest⟩
  · have none : middle = [] := by
      have lengths := congrArg List.length isAfter
      rw [List.length_append] at lengths fits
      exact List.length_eq_zero_iff.mp (by omega)
    rw [none, List.nil_append] at isAfter
    exact ⟨[], by rw [List.append_nil, isAfter]⟩
  · exact ⟨middle, by rw [isRest, List.append_assoc]⟩

theorem Written.Takes.apart {segment : Written} (takes : segment.Takes part) : ¬ segment.Overlaps part := by
  intro overlaps
  cases segment with
  | literal text => exact overlaps
  | named before name after =>
    obtain ⟨readable, _, _, short⟩ := overlaps
    rw [Written.Takes, if_neg readable] at takes
    obtain ⟨value, rfl⟩ := takes
    simp only [List.length_append] at short
    omega

theorem outcome_readable {before after : Text} {name : String} (readable : closingBrace ∉ before) :
    Outcome (.named before name after) part := by
  have reads (earlier : Vars) (rest : List Segment) (parts : List Text) :
      matchParts earlier ((Written.named before name after).read :: rest) (part :: parts) =
        matchParts earlier (.partialCapture before name after :: rest) (part :: parts) :=
    matchParts_read readable
  by_cases encloses : before <+: part ∧ after <:+ part
  · by_cases fits : before.length + after.length ≤ part.length
    · obtain ⟨value, isPart⟩ := enclosed encloses.1 encloses.2 fits
      refine .captured before name value after rfl readable isPart fun earlier rest parts => ?_
      rw [reads, isPart, matchParts_enclosed]
    · refine .panicked ⟨readable, encloses.1, encloses.2, by omega⟩ fun earlier rest parts => ?_
      rw [reads]
      simp [matchParts, encloses, fits]
  · refine .refused ?_ (fun overlaps => encloses ⟨overlaps.2.1, overlaps.2.2.1⟩) fun earlier rest parts => ?_
    · rw [Written.Takes, if_neg readable]
      rintro ⟨value, rfl⟩
      exact encloses ⟨⟨value ++ after, by rw [List.append_assoc]⟩, List.suffix_append _ _⟩
    · rw [reads]
      simp only [matchParts, Bool.and_eq_true, List.isPrefixOf_iff_prefix, List.isSuffixOf_iff_suffix,
        if_neg encloses]

theorem outcome (segment : Written) (part : Text) : Outcome segment part := by
  cases segment with
  | literal text =>
    by_cases same : text = part
    · exact .same same.symm (fun earlier rest parts => by rw [Written.read, matchParts_text, if_pos same])
        (fun name isName => by cases isName)
    · refine .refused (fun takes => same takes.symm) (fun overlaps => overlaps) fun earlier rest parts => ?_
      rw [Written.read, matchParts_text, if_neg same]
  | named before name after =>
    by_cases misread : closingBrace ∈ before
    · have takes : (Written.named before name after).Takes part ↔
          part = (Written.named before name after).text := by
        rw [Written.Takes, if_pos misread]
      by_cases same : (Written.named before name after).text = part
      · exact .same (takes.mpr same.symm)
          (fun earlier rest parts => by rw [matchParts_misread misread, if_pos same])
          (fun other _ => ⟨not_not_intro misread, same.symm⟩)
      · refine .refused (fun isTaken => same (takes.mp isTaken).symm) (fun overlaps => overlaps.1 misread)
          fun earlier rest parts => ?_
        rw [matchParts_misread misread, if_neg same]
    · exact outcome_readable misread

end Parts

/-! ## All parts -/

section Whole
variable {segments : List Written} {parts : List Text} {earlier result : Vars}

theorem matchParts_panicked_iff (lengths : parts.length = segments.length) :
    matchParts earlier (segments.map Written.read) parts = .panicked ↔ OverlapReached segments parts := by
  induction segments generalizing earlier parts with
  | nil =>
    obtain rfl := List.length_eq_zero_iff.mp lengths
    simp [matchParts, OverlapReached]
  | cons segment rest ih =>
    obtain ⟨part, parts, rfl⟩ := List.exists_cons_of_length_eq_add_one lengths
    have others (earlier : Vars) : matchParts earlier (rest.map Written.read) parts = .panicked ↔
        OverlapReached rest parts := ih (Nat.succ.inj lengths)
    rw [List.map_cons, OverlapReached]
    cases outcome segment part with
    | same takes continues _ =>
      rw [continues, others]
      constructor
      · exact fun later => .inr ⟨takes, later⟩
      · rintro (overlaps | ⟨_, later⟩)
        · exact absurd overlaps takes.apart
        · exact later
    | captured before name value after isSegment readable isPart continues =>
      have takes : segment.Takes part := by
        rw [isSegment, Written.Takes, if_neg (by rwa [isSegment] at readable)]
        exact ⟨value, isPart⟩
      rw [continues, others]
      constructor
      · exact fun later => .inr ⟨takes, later⟩
      · rintro (overlaps | ⟨_, later⟩)
        · exact absurd overlaps takes.apart
        · exact later
    | refused untaken apart stops =>
      rw [stops]
      constructor
      · intro impossible
        cases impossible
      · rintro (overlaps | ⟨takes, _⟩)
        · exact absurd overlaps apart
        · exact absurd takes untaken
    | panicked overlaps stops =>
      rw [stops]
      exact ⟨fun _ => .inl overlaps, fun _ => rfl⟩

/-- What replaces a variable: what was captured, or the variable's own text. -/
def replacement (captured : Vars) (name : String) : Text := (captured[name]?).getD (placeholder name)

/-- Where a pattern matched, each part is its segment with what replaces the variable, and just
the variables that were read are captured. -/
theorem matchParts_matched (lengths : parts.length = segments.length)
    (distinct : (segments.filterMap Written.name?).Nodup)
    (fresh : ∀ name ∈ segments.filterMap Written.name?, earlier[name]? = none)
    (matched : matchParts earlier (segments.map Written.read) parts = .matched result) :
    parts = segments.map (Written.fill (replacement result)) ∧
      (∀ segment ∈ segments, ∀ name, segment.name? = some name →
        (segment.Readable ↔ result[name]?.isSome = true)) ∧
      ∀ name ∉ segments.filterMap Written.name?, result[name]? = earlier[name]? := by
  induction segments generalizing earlier parts with
  | nil =>
    obtain rfl := List.length_eq_zero_iff.mp lengths
    simp only [List.map_nil, matchParts] at matched
    cases matched
    exact ⟨rfl, fun segment member => (by cases member), fun name _ => rfl⟩
  | cons segment rest ih =>
    obtain ⟨part, parts, rfl⟩ := List.exists_cons_of_length_eq_add_one lengths
    have others := Nat.succ.inj lengths
    rw [List.map_cons] at matched
    cases outcome segment part with
    | refused untaken apart stops =>
      rw [stops] at matched
      cases matched
    | panicked overlaps stops =>
      rw [stops] at matched
      cases matched
    | same takes continues unread =>
      rw [continues] at matched
      cases segment with
      | literal text =>
        obtain ⟨filled, read, untouched⟩ := ih others distinct fresh matched
        refine ⟨?_, ?_, untouched⟩
        · rw [List.map_cons, Written.fill, filled, show part = text from takes]
        · intro other member name isName
          rcases List.mem_cons.mp member with rfl | later
          · cases isName
          · exact read other later name isName
      | named before name after =>
        obtain ⟨unreadable, isPart⟩ := unread name rfl
        obtain ⟨absent, distinctRest⟩ := List.nodup_cons.mp distinct
        obtain ⟨filled, read, untouched⟩ :=
          ih others distinctRest (fun other member => fresh other (List.mem_cons_of_mem name member)) matched
        have missing : result[name]? = none := by
          rw [untouched name absent]
          exact fresh name List.mem_cons_self
        refine ⟨?_, ?_, ?_⟩
        · have own : part = (Written.named before name after).fill (replacement result) := by
            rw [isPart, Written.text, Written.fill, replacement, missing, Option.getD_none]
          rw [List.map_cons, filled, own]
        · intro other member found isName
          rcases List.mem_cons.mp member with rfl | later
          · cases isName
            rw [missing]
            simpa using unreadable
          · exact read other later found isName
        · intro other apart
          exact untouched other fun inside => apart (List.mem_cons_of_mem name inside)
    | captured before name value after isSegment readable isPart continues =>
      rw [continues] at matched
      subst isSegment
      obtain ⟨absent, distinctRest⟩ := List.nodup_cons.mp distinct
      have inserted (other : String) (apart : other ≠ name) :
          (earlier.insert name value)[other]? = earlier[other]? := by
        rw [Std.ExtTreeMap.getElem?_insert, if_neg]
        exact fun same => apart (Std.compare_eq_iff_eq.mp same).symm
      have freshRest : ∀ other ∈ rest.filterMap Written.name?, (earlier.insert name value)[other]? = none := by
        intro other member
        rw [inserted other fun same => absent (same ▸ member)]
        exact fresh other (List.mem_cons_of_mem name member)
      obtain ⟨filled, read, untouched⟩ := ih others distinctRest freshRest matched
      have found : result[name]? = some value := by
        rw [untouched name absent, Std.ExtTreeMap.getElem?_insert_self]
      refine ⟨?_, ?_, ?_⟩
      · have own : part = (Written.named before name after).fill (replacement result) := by
          rw [isPart, Written.fill, replacement, found, Option.getD_some]
        rw [List.map_cons, filled, own]
      · intro other member key isName
        rcases List.mem_cons.mp member with rfl | later
        · cases isName
          simpa [found] using readable
        · exact read other later key isName
      · intro other apart
        rw [untouched other fun inside => apart (List.mem_cons_of_mem name inside), inserted]
        rintro rfl
        exact apart List.mem_cons_self

/-- Parts that their segments take match. -/
theorem matchParts_taken (lengths : parts.length = segments.length)
    (taken : List.Forall₂ (fun segment part => segment.Takes part) segments parts) :
    ∃ result, matchParts earlier (segments.map Written.read) parts = .matched result := by
  induction taken generalizing earlier with
  | nil => exact ⟨earlier, rfl⟩
  | @cons segment part rest parts takes _ ih =>
    have others := Nat.succ.inj lengths
    rw [List.map_cons]
    cases outcome segment part with
    | same _ continues _ =>
      rw [continues]
      exact ih others
    | captured before name value after _ _ _ continues =>
      rw [continues]
      exact ih others
    | refused untaken _ _ => exact absurd takes untaken
    | panicked overlaps _ => exact absurd overlaps takes.apart

theorem takes_fill (values : String → Text) {segment : Written} (readable : segment.Readable) :
    segment.Takes (segment.fill values) := by
  cases segment with
  | literal text => rfl
  | named before name after =>
    rw [Written.Takes, if_neg readable]
    exact ⟨values name, rfl⟩

end Whole

/-! ## Patterns -/

section Patterns
variable {pattern : Pattern} {values : String → Text} {topic : Text}

theorem Pattern.name_mem {segment : Written} {name : String} (member : segment ∈ pattern.segments)
    (isName : segment.name? = some name) : name ∈ pattern.names :=
  List.mem_filterMap.mpr ⟨segment, member, isName⟩

/-- The parts of an instance are its segments with the variables replaced. -/
theorem Pattern.Instance.parts (is : pattern.Instance values topic) :
    topic.splitOn '/' = pattern.segments.map (Written.fill values) := by
  obtain ⟨whole, rfl⟩ := is
  refine List.splitOn_intercalate '/' ?_ (by simpa using pattern.nonempty)
  intro part member
  obtain ⟨segment, isSegment, rfl⟩ := List.mem_map.mp member
  have plain := pattern.plain segment isSegment
  cases segment with
  | literal text => exact plain.1
  | named before name after =>
    simp only [Written.fill, List.mem_append, not_or]
    exact ⟨⟨plain.1, whole name (Pattern.name_mem isSegment rfl)⟩, plain.2.2.1⟩

theorem Pattern.Instance.of_parts (filled : topic.splitOn '/' = pattern.segments.map (Written.fill values)) :
    pattern.Instance values topic := by
  refine ⟨?_, ?_⟩
  · intro name member inside
    obtain ⟨segment, isSegment, isName⟩ := List.mem_filterMap.mp member
    have part : segment.fill values ∈ topic.splitOn '/' := filled ▸ List.mem_map_of_mem isSegment
    cases segment with
    | literal text => cases isName
    | named before own after =>
      cases isName
      refine (Splitting.mem_splitOn part '/' ?_).2 rfl
      simp [Written.fill, inside]
  · rw [← filled, List.intercalate_splitOn]

/-- No segment is reached whose part starts with what stands before the variable and ends with
what stands after it, and is shorter than the two; and where the topic is an instance, no
closing brace stands before a variable. -/
def Pattern.Undisturbed (pattern : Pattern) (topic : Text) : Prop :=
  ((topic.splitOn '/').length = pattern.segments.length →
      ¬ OverlapReached pattern.segments (topic.splitOn '/')) ∧
    ((∃ values, pattern.Instance values topic) → ∀ segment ∈ pattern.segments, segment.Readable)

theorem matchPattern_text (pattern : Pattern) (topic : Text) :
    matchPattern pattern.text topic =
      if (topic.splitOn '/').length = pattern.segments.length then
        matchParts ∅ (pattern.segments.map Written.read) (topic.splitOn '/')
      else .unmatched := by
  rw [matchPattern_eq, parsePattern_text, matchSegments, List.length_map]
  simp only [ne_eq, ite_not]

/-- A pattern matches just its instances, and captures what replaces its variables, exactly
where it is undisturbed. -/
theorem matches_exactly_iff (pattern : Pattern) (topic : Text) :
    pattern.MatchesExactly topic ↔ pattern.Undisturbed topic := by
  rw [Pattern.MatchesExactly, Pattern.Undisturbed, matchPattern_text]
  by_cases lengths : (topic.splitOn '/').length = pattern.segments.length
  · rw [if_pos lengths]
    have panics : matchParts ∅ (pattern.segments.map Written.read) (topic.splitOn '/') = .panicked ↔
        OverlapReached pattern.segments (topic.splitOn '/') := matchParts_panicked_iff lengths
    cases isOutcome : matchParts ∅ (pattern.segments.map Written.read) (topic.splitOn '/') with
    | panicked =>
      have overlap := panics.mp isOutcome
      exact ⟨False.elim, fun undisturbed => undisturbed.1 lengths overlap⟩
    | unmatched =>
      have calm : ¬ OverlapReached pattern.segments (topic.splitOn '/') := by
        rw [← panics, isOutcome]
        exact fun impossible => by cases impossible
      constructor
      · intro none
        refine ⟨fun _ => calm, ?_⟩
        rintro ⟨values, is⟩
        exact absurd is (none values)
      · rintro ⟨_, readable⟩ values is
        have taken : List.Forall₂ (fun segment part => segment.Takes part) pattern.segments
            (topic.splitOn '/') := by
          rw [is.parts, List.forall₂_map_right_iff, List.forall₂_same]
          exact fun segment member => takes_fill values (readable ⟨values, is⟩ segment member)
        obtain ⟨result, matched⟩ := @matchParts_taken _ _ ∅ lengths taken
        rw [isOutcome] at matched
        cases matched
    | matched result =>
      have calm : ¬ OverlapReached pattern.segments (topic.splitOn '/') := by
        rw [← panics, isOutcome]
        exact fun impossible => by cases impossible
      obtain ⟨filled, read, untouched⟩ :=
        matchParts_matched lengths pattern.distinct (fun name _ => Std.ExtTreeMap.getElem?_empty) isOutcome
      have is := Pattern.Instance.of_parts filled
      constructor
      · rintro ⟨values, _, captures⟩
        refine ⟨fun _ => calm, fun _ segment member => ?_⟩
        cases segment with
        | literal text => trivial
        | named before name after =>
          rw [read _ member name rfl, captures, if_pos (Pattern.name_mem member rfl), Option.isSome_some]
      · rintro ⟨_, readable⟩
        refine ⟨replacement result, is, fun name => ?_⟩
        split
        next member =>
          obtain ⟨segment, isSegment, isName⟩ := List.mem_filterMap.mp member
          have found := (read segment isSegment name isName).mp (readable ⟨_, is⟩ segment isSegment)
          obtain ⟨value, lookup⟩ := Option.isSome_iff_exists.mp found
          rw [replacement, lookup, Option.getD_some]
        next absent => rw [untouched name absent, Std.ExtTreeMap.getElem?_empty]
  · rw [if_neg lengths]
    have none (values : String → Text) : ¬ pattern.Instance values topic := by
      intro is
      exact lengths (by rw [is.parts, List.length_map])
    constructor
    · refine fun _ => ⟨fun same => absurd same lengths, ?_⟩
      rintro ⟨values, is⟩
      exact absurd is (none values)
    · exact fun _ => none

end Patterns

/-- `ab{x}ba`, whose two ends overlap in `aba`. -/
def palindrome : Pattern where
  segments := [.named "ab".toList "x" "ba".toList]
  nonempty := by simp
  plain := by simp [Written.Plain, openingBrace, closingBrace]
  distinct := by simp [Written.name?]

/-- `a}{x}`, which is read as literal text. -/
def closedFirst : Pattern where
  segments := [.named "a\x7d".toList "x" []]
  nonempty := by simp
  plain := by simp [Written.Plain, openingBrace, closingBrace]
  distinct := by simp [Written.name?]

theorem overlapping_ends_panic :
    (¬ ∀ (pattern : Pattern) (topic : Text), pattern.MatchesExactly topic) ∧
      ¬ palindrome.MatchesExactly "aba".toList ∧ ¬ closedFirst.MatchesExactly "a\x7dlamp".toList := by
  have panics : matchPattern palindrome.text "aba".toList = .panicked := by
    rfl
  have refuses : matchPattern closedFirst.text "a\x7dlamp".toList = .unmatched := by
    rfl
  have first : ¬ palindrome.MatchesExactly "aba".toList := by
    rw [Pattern.MatchesExactly, panics]
    exact id
  refine ⟨fun always => first (always _ _), first, ?_⟩
  rw [Pattern.MatchesExactly, refuses]
  intro none
  refine none (fun _ => "lamp".toList) ⟨by simp, ?_⟩
  decide

end HomeCore.TopicMap
