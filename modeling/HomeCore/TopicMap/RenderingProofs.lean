import HomeCore.TopicMap.Rendering
import HomeCore.TopicMap.PatternsProofs

/-! What rendering gives. While no placeholder but the template's own is ever replaced, it is the
template with every value put in at once, whatever the order of the map; then it undoes a match
just where the segments of one name captured one text. -/
namespace HomeCore.TopicMap

/-! ## One name -/

section Replacing
variable {pattern replacement rest : Text}

theorem replaceFrom_passed_over (skipped : Text) :
    replaceFrom pattern replacement skipped.length (skipped ++ rest) =
      replaceFrom pattern replacement 0 rest := by
  induction skipped with
  | nil => rfl
  | cons c skipped ih => exact ih

theorem replaceFrom_here (nonempty : pattern ≠ []) :
    replaceFrom pattern replacement 0 (pattern ++ rest) =
      replacement ++ replaceFrom pattern replacement 0 rest := by
  cases pattern with
  | nil => exact absurd rfl nonempty
  | cons c pattern =>
    have starts : (c :: pattern).isPrefixOf (c :: (pattern ++ rest)) = true :=
      List.isPrefixOf_iff_prefix.mpr ⟨rest, rfl⟩
    rw [List.cons_append, replaceFrom, if_pos starts, List.length_cons, Nat.add_sub_cancel,
      replaceFrom_passed_over]

/-- What no occurrence starts in is left. -/
theorem replaceFrom_passed {passed : Text}
    (absent : ∀ front c back, passed = front ++ c :: back → ¬ pattern <+: c :: back ++ rest) :
    replaceFrom pattern replacement 0 (passed ++ rest) =
      passed ++ replaceFrom pattern replacement 0 rest := by
  induction passed with
  | nil => rfl
  | cons c passed ih =>
    have elsewhere : ¬ pattern.isPrefixOf (c :: (passed ++ rest)) = true := by
      rw [List.isPrefixOf_iff_prefix]
      exact absent [] c passed rfl
    rw [List.cons_append, replaceFrom, if_neg elsewhere, ih]
    · rfl
    · rintro front d back rfl
      exact absent (c :: front) d back rfl

/-- Replaced with itself, a pattern is left. -/
theorem replaceFrom_self (nonempty : pattern ≠ []) (skipped : Nat) (text : Text) :
    replaceFrom pattern pattern skipped text = text.drop skipped := by
  induction text generalizing skipped with
  | nil => cases skipped <;> rfl
  | cons c text ih =>
    cases skipped with
    | succ skipped => exact ih skipped
    | zero =>
      rw [replaceFrom]
      split
      next starts =>
        obtain ⟨after, isText⟩ := List.isPrefixOf_iff_prefix.mp starts
        cases pattern with
        | nil => exact absurd rfl nonempty
        | cons d pattern =>
          obtain ⟨rfl, isRest⟩ := List.cons.inj isText
          have rest : text = pattern ++ after := isRest.symm
          rw [ih, List.length_cons, Nat.add_sub_cancel, rest, List.drop_left]
          rfl
      next => rw [ih, List.drop_zero, List.drop_zero]

end Replacing

section Filling
variable {vars : Vars} {filled : List String} {pieces : List Piece} {name : String} {value : Text}

theorem placeholder_nonempty (name : String) : placeholder name ≠ [] := List.cons_ne_nil _ _

theorem partlyFilled_nil (pieces : List Piece) : partlyFilled vars [] pieces = templateText pieces := by
  induction pieces with
  | nil => rfl
  | cons piece rest ih =>
    cases piece with
    | char c => exact congrArg (c :: ·) ih
    | named name => exact congrArg (placeholder name ++ ·) ih

/-- Only the names with values count among the filled. -/
theorem partlyFilled_congr {other : List String}
    (same : ∀ name ∈ vars, name ∈ filled ↔ name ∈ other) (pieces : List Piece) :
    partlyFilled vars filled pieces = partlyFilled vars other pieces := by
  refine List.flatMap_congr fun piece _ => ?_
  cases piece with
  | char c => rfl
  | named name =>
    by_cases valued : name ∈ vars
    · simp only [Piece.fill, same name valued]
    · rw [Piece.fill, Piece.fill, Std.ExtTreeMap.getElem?_eq_none valued, Option.getD_none, ite_self, ite_self]

theorem StandsOwn.tail {piece : Piece} (own : StandsOwn vars filled (piece :: pieces) name)
    (unfilled : name ∉ filled) : StandsOwn vars filled pieces name := by
  intro front back found
  have whole : partlyFilled vars filled (piece :: pieces) =
      (piece.fill vars filled ++ front) ++ placeholder name ++ back := by
    rw [List.append_assoc, List.append_assoc, ← List.append_assoc front, ← found]
    rfl
  obtain ⟨before, after, isPieces, isFront⟩ := own _ _ whole
  cases before with
  | nil =>
    obtain ⟨rfl, -⟩ := List.cons.inj isPieces
    have empty := (List.append_eq_nil_iff.mp isFront.symm).1
    rw [Piece.fill, if_neg unfilled] at empty
    exact absurd empty (placeholder_nonempty name)
  | cons first before =>
    obtain ⟨rfl, rfl⟩ := List.cons.inj isPieces
    exact ⟨before, after, rfl, List.append_cancel_left isFront⟩

/-- Where every placeholder of a name is the template's own, replacing the name fills it in. -/
theorem replace_own (own : StandsOwn vars filled pieces name) (unfilled : name ∉ filled)
    (lookup : vars[name]? = some value) :
    replaceFrom (placeholder name) value 0 (partlyFilled vars filled pieces) =
      partlyFilled vars (name :: filled) pieces := by
  induction pieces with
  | nil => rfl
  | cons piece pieces ih =>
    have rest := ih (own.tail unfilled)
    by_cases isName : piece = .named name
    · subst isName
      have now : Piece.fill vars filled (.named name) = placeholder name := if_neg unfilled
      have after : Piece.fill vars (name :: filled) (.named name) = value := by
        rw [Piece.fill, if_pos List.mem_cons_self, lookup, Option.getD_some]
      calc replaceFrom (placeholder name) value 0 (partlyFilled vars filled (.named name :: pieces))
        _ = replaceFrom (placeholder name) value 0 (placeholder name ++ partlyFilled vars filled pieces) := by
          rw [partlyFilled, List.flatMap_cons, now]
          rfl
        _ = value ++ partlyFilled vars (name :: filled) pieces := by
          rw [replaceFrom_here (placeholder_nonempty name), rest]
        _ = partlyFilled vars (name :: filled) (.named name :: pieces) := by
          rw [partlyFilled, partlyFilled, List.flatMap_cons, after]
    · have same : piece.fill vars (name :: filled) = piece.fill vars filled := by
        cases piece with
        | char c => rfl
        | named other =>
          have others : other ≠ name := fun same => isName (congrArg Piece.named same)
          simp only [Piece.fill, List.mem_cons, others, false_or]
      have absent : ∀ front c back, piece.fill vars filled = front ++ c :: back →
          ¬ placeholder name <+: c :: back ++ partlyFilled vars filled pieces := by
        rintro front c back isFill ⟨after, found⟩
        have whole : partlyFilled vars filled (piece :: pieces) = front ++ placeholder name ++ after := by
          rw [List.append_assoc, found, partlyFilled, List.flatMap_cons, isFill, List.append_assoc]
          rfl
        obtain ⟨before, later, isPieces, isFront⟩ := own _ _ whole
        cases before with
        | nil => exact isName (List.cons.inj isPieces).1
        | cons first before =>
          obtain ⟨rfl, -⟩ := List.cons.inj isPieces
          have long := congrArg List.length isFront
          rw [partlyFilled, List.flatMap_cons, isFill] at long
          simp only [List.length_append, List.length_cons] at long
          omega
      calc replaceFrom (placeholder name) value 0 (partlyFilled vars filled (piece :: pieces))
        _ = replaceFrom (placeholder name) value 0 (piece.fill vars filled ++ partlyFilled vars filled pieces) := rfl
        _ = piece.fill vars filled ++ partlyFilled vars (name :: filled) pieces := by
          rw [replaceFrom_passed absent, rest]
        _ = partlyFilled vars (name :: filled) (piece :: pieces) := by
          rw [← same]
          rfl

/-- One that is its own value is filled in as it stands. -/
theorem replace_same (lookup : vars[name]? = some (placeholder name)) :
    replaceFrom (placeholder name) (placeholder name) 0 (partlyFilled vars filled pieces) =
      partlyFilled vars (name :: filled) pieces := by
  rw [replaceFrom_self (placeholder_nonempty name), List.drop_zero]
  refine List.flatMap_congr fun piece _ => ?_
  cases piece with
  | char c => rfl
  | named other =>
    by_cases isName : other = name
    · subst isName
      simp only [Piece.fill, lookup, Option.getD_some, ite_self]
    · simp only [Piece.fill, List.mem_cons, isName, false_or]

end Filling

/-! ## One after another -/

section Each
variable {vars : Vars} {pieces : List Piece} {entries : List (String × Text)}

theorem replaceEach_append (first second : List (String × Text)) (text : Text) :
    replaceEach (first ++ second) text = replaceEach second (replaceEach first text) :=
  List.foldl_append

/-- Either everything replaced was the template's own, or there is the first that was not. -/
theorem replaceEach_own_or_other (pieces : List Piece) (distinct : (entries.map Prod.fst).Nodup)
    (valued : ∀ entry ∈ entries, vars[entry.1]? = some entry.2) :
    replaceEach entries (templateText pieces) = partlyFilled vars (entries.map Prod.fst) pieces ∨
      ∃ done name value rest, entries = done ++ (name, value) :: rest ∧ value ≠ placeholder name ∧
        replaceEach done (templateText pieces) = partlyFilled vars (done.map Prod.fst) pieces ∧
        ¬ StandsOwn vars (done.map Prod.fst) pieces name := by
  induction entries using List.reverseRecOn with
  | nil => exact .inl (partlyFilled_nil pieces).symm
  | append_singleton done entry ih =>
    obtain ⟨name, value⟩ := entry
    rw [List.map_append, List.nodup_append] at distinct
    have unfilled : name ∉ done.map Prod.fst := fun earlier =>
      distinct.2.2 name earlier name List.mem_cons_self rfl
    have lookup := valued (name, value) (List.mem_append_right done List.mem_cons_self)
    rcases ih distinct.1 fun entry member => valued entry (List.mem_append_left _ member) with
      right | ⟨earlier, other, its, rest, isDone, changed, right, foreign⟩
    · have filled (step : replaceFrom (placeholder name) value 0 (partlyFilled vars (done.map Prod.fst) pieces) =
          partlyFilled vars (name :: done.map Prod.fst) pieces) :
          replaceEach (done ++ [(name, value)]) (templateText pieces) =
            partlyFilled vars ((done ++ [(name, value)]).map Prod.fst) pieces := by
        rw [replaceEach_append, right, replaceEach, List.foldl_cons, List.foldl_nil, step]
        refine partlyFilled_congr (fun other _ => ?_) pieces
        simp only [List.map_append, List.map_cons, List.map_nil, List.mem_append, List.mem_cons,
          List.not_mem_nil, or_false]
        exact or_comm
      by_cases same : value = placeholder name
      · subst same
        exact .inl (filled (replace_same lookup))
      · by_cases own : StandsOwn vars (done.map Prod.fst) pieces name
        · exact .inl (filled (replace_own own unfilled lookup))
        · exact .inr ⟨done, name, value, [], rfl, same, right, own⟩
    · refine .inr ⟨earlier, other, its, rest ++ [(name, value)], ?_, changed, right, foreign⟩
      rw [isDone, List.append_assoc]
      rfl

theorem names_listed (vars : Vars) : (vars.toList.map Prod.fst).Nodup := by
  rw [Std.ExtTreeMap.map_fst_toList_eq_keys]
  exact Std.ExtTreeMap.nodup_keys

theorem value_listed {entry : String × Text} (member : entry ∈ vars.toList) :
    vars[entry.1]? = some entry.2 := Std.ExtTreeMap.mem_toList_iff_getElem?_eq_some.mp member

/-- Whatever the order of the map, rendering puts in every value at once. -/
theorem render_own (own : OwnPlaceholders vars pieces) (hash : HashOrder) :
    renderTemplate hash (templateText pieces) vars = filledIn vars pieces := by
  have perm := hash.perm vars.toList
  have distinct := (perm.map Prod.fst).nodup_iff.mpr (names_listed vars)
  have valued : ∀ entry ∈ hash.order vars.toList, vars[entry.1]? = some entry.2 := fun entry member =>
    value_listed (perm.mem_iff.mp member)
  rcases replaceEach_own_or_other pieces distinct valued with
    right | ⟨done, name, value, rest, listed, changed, -, foreign⟩
  · refine right.trans (partlyFilled_congr (fun name valued => ?_) pieces)
    rw [(perm.map Prod.fst).mem_iff, Std.ExtTreeMap.map_fst_toList_eq_keys]
  · have unfilled : name ∉ done.map Prod.fst := by
      rw [listed, List.map_append, List.nodup_append] at distinct
      exact fun earlier => distinct.2.2 name earlier name List.mem_cons_self rfl
    have lookup := valued (name, value) (by rw [listed]; exact List.mem_append_right done List.mem_cons_self)
    exact absurd (own _ name value unfilled lookup changed) foreign

/-- The order that lists the given entries in another way. -/
def HashOrder.listing {given listed : List (String × Text)} (perm : listed.Perm given) : HashOrder where
  order entries := if entries = given then listed else entries
  perm entries := by
    split
    next same => exact same ▸ perm
    next => exact .refl entries

/-- Where a placeholder may come to stand that is not the template's, some order replaces one. -/
theorem other_replaced (foreign : ¬ OwnPlaceholders vars pieces) : ReplacesOther vars pieces := by
  simp only [OwnPlaceholders, not_forall] at foreign
  obtain ⟨filled, name, value, unfilled, lookup, changed, notOwn⟩ := foreign
  let isFilled := fun entry : String × Text => decide (entry.1 ∈ filled)
  -- The names of `filled` first, then the one that is not the template's, then the others.
  have later : (name, value) ∈ vars.toList.filter (!isFilled ·) := by
    refine List.mem_filter.mpr ⟨Std.ExtTreeMap.mem_toList_iff_getElem?_eq_some.mpr lookup, ?_⟩
    simpa [isFilled] using unfilled
  obtain ⟨front, back, others⟩ := List.append_of_mem later
  have perm : (vars.toList.filter isFilled ++ (name, value) :: (front ++ back)).Perm vars.toList :=
    calc vars.toList.filter isFilled ++ (name, value) :: (front ++ back)
      _ |>.Perm (vars.toList.filter isFilled ++ vars.toList.filter (!isFilled ·)) := by
        rw [others]
        exact (List.perm_middle.symm).append_left _
      _ |>.Perm vars.toList := List.filter_append_perm _ _
  have order : (HashOrder.listing perm).order vars.toList =
      vars.toList.filter isFilled ++ (name, value) :: (front ++ back) := if_pos rfl
  have distinct : ((vars.toList.filter isFilled).map Prod.fst).Nodup :=
    (names_listed vars).sublist (List.filter_sublist.map Prod.fst)
  have same : partlyFilled vars ((vars.toList.filter isFilled).map Prod.fst) = partlyFilled vars filled := by
    refine funext (partlyFilled_congr fun other valued => ?_)
    obtain ⟨its, isIts⟩ := Option.isSome_iff_exists.mp (Std.ExtTreeMap.mem_iff_isSome_getElem?.mp valued)
    constructor
    · intro member
      obtain ⟨entry, isEntry, rfl⟩ := List.mem_map.mp member
      simpa [isFilled] using (List.mem_filter.mp isEntry).2
    · intro member
      refine List.mem_map.mpr ⟨(other, its), List.mem_filter.mpr ⟨?_, ?_⟩, rfl⟩
      · exact Std.ExtTreeMap.mem_toList_iff_getElem?_eq_some.mpr isIts
      · simpa [isFilled] using member
  rcases replaceEach_own_or_other pieces distinct fun entry member => value_listed (List.mem_of_mem_filter member) with
    right | ⟨done, first, its, rest, isDone, firstChanged, right, firstForeign⟩
  · refine ⟨.listing perm, _, front ++ back, name, value, order, changed, right, ?_⟩
    rw [StandsOwn, same]
    exact notOwn
  · refine ⟨.listing perm, done, rest ++ (name, value) :: (front ++ back), first, its, ?_, firstChanged,
      right, firstForeign⟩
    rw [order, isDone, List.append_assoc]
    rfl

end Each

/-! ## Patterns as templates -/

section Patterns
variable {vars : Vars} {filled : List String} {segments : List Segment}

theorem partlyFilled_chars (text : Text) : partlyFilled vars filled (text.map .char) = text := by
  induction text with
  | nil => rfl
  | cons c rest ih => exact congrArg (c :: ·) ih

theorem partlyFilled_append (first second : List Piece) :
    partlyFilled vars filled (first ++ second) =
      partlyFilled vars filled first ++ partlyFilled vars filled second := List.flatMap_append

theorem partlyFilled_capture (before after : Text) (name : String) :
    partlyFilled vars filled (Segment.partialCapture before name after).pieces =
      before ++ Piece.fill vars filled (.named name) ++ after := by
  rw [Segment.pieces, List.append_cons, partlyFilled_append, partlyFilled_append, partlyFilled_chars,
    partlyFilled_chars]
  congr 2
  exact List.append_nil _

theorem partlyFilled_segments (segments : List Segment) :
    partlyFilled vars filled (List.intercalate [.char '/'] (segments.map Segment.pieces)) =
      List.intercalate ['/'] (segments.map fun segment => partlyFilled vars filled segment.pieces) := by
  rw [partlyFilled, Splitting.flatMap_intercalate, List.map_map]
  rfl

theorem templateText_parseSegment (text : Text) : templateText (parseSegment text).pieces = text := by
  rw [← @partlyFilled_nil ∅]
  cases braces text with
  | missing absent =>
    rw [parseSegment_missing absent]
    exact partlyFilled_chars text
  | crossed closes plain opens =>
    rw [parseSegment_crossed closes plain opens]
    exact partlyFilled_chars _
  | @paired before name after opens plain closes =>
    have named : Piece.fill ∅ [] (.named (String.ofList name)) = openingBrace :: (name ++ [closingBrace]) := by
      rw [Piece.fill, if_neg List.not_mem_nil, placeholder, String.toList_ofList]
      rfl
    rw [parseSegment_paired opens plain closes]
    split
    next alone =>
      rw [Bool.and_eq_true, List.isEmpty_iff, List.isEmpty_iff] at alone
      obtain ⟨rfl, rfl⟩ := alone
      rw [Segment.pieces, partlyFilled, List.flatMap_singleton, named]
      rfl
    next => rw [partlyFilled_capture, named, List.append_assoc, List.cons_append, List.append_assoc]; rfl

/-- The template that a pattern is has the pattern's text. -/
theorem templateText_patternPieces (pattern : Text) : templateText (patternPieces pattern) = pattern := by
  rw [← @partlyFilled_nil ∅, patternPieces, partlyFilled_segments, parsePattern, List.map_map]
  have whole : (fun segment => partlyFilled ∅ [] (Segment.pieces segment)) ∘ parseSegment = id := by
    funext text
    rw [Function.comp_apply, partlyFilled_nil, templateText_parseSegment, id_eq]
  rw [whole, List.map_id, List.intercalate_splitOn]

theorem fill_pieces {segment : Segment} (valued : ∀ name, segment.name? = some name → name ∈ vars) :
    segment.fill vars = some (filledIn vars segment.pieces) := by
  have named (name : String) (isName : segment.name? = some name) :
      vars[name]? = some (Piece.fill vars vars.keys (.named name)) := by
    obtain ⟨value, lookup⟩ :=
      Option.isSome_iff_exists.mp (Std.ExtTreeMap.mem_iff_isSome_getElem?.mp (valued name isName))
    rw [Piece.fill, if_pos (Std.ExtTreeMap.mem_keys.mpr (valued name isName)), lookup, Option.getD_some]
  cases segment with
  | literal text => exact congrArg some (partlyFilled_chars text).symm
  | capture name =>
    rw [Segment.fill, named name rfl, filledIn, Segment.pieces, partlyFilled, List.flatMap_singleton]
  | partialCapture before name after =>
    rw [Segment.fill, named name rfl, Option.map_some, filledIn, partlyFilled_capture]

theorem fillPattern_pieces
    (valued : ∀ segment ∈ segments, ∀ name, segment.name? = some name → name ∈ vars) :
    fillPattern segments vars =
      some (filledIn vars (List.intercalate [.char '/'] (segments.map Segment.pieces))) := by
  have filled : segments.mapM (Segment.fill vars) =
      some (segments.map fun segment => filledIn vars segment.pieces) := by
    induction segments with
    | nil => rfl
    | cons segment rest ih =>
      rw [List.mapM_cons, fill_pieces (valued segment List.mem_cons_self),
        ih fun other member => valued other (List.mem_cons_of_mem segment member)]
      rfl
  rw [fillPattern, filled, Option.map_some, filledIn, partlyFilled_segments]
  rfl

theorem fillPattern_congr {values : Vars} (same : ∀ segment ∈ segments, ∀ name : String,
    segment.name? = some name → vars[name]? = values[name]?) :
    fillPattern segments vars = fillPattern segments values := by
  have filled : segments.mapM (Segment.fill vars) = segments.mapM (Segment.fill values) := by
    induction segments with
    | nil => rfl
    | cons segment rest ih =>
      have first : segment.fill vars = segment.fill values := by
        have own := same segment List.mem_cons_self
        cases segment with
        | literal text => rfl
        | capture name => exact own name rfl
        | partialCapture before name after => rw [Segment.fill, Segment.fill, own name rfl]
      rw [List.mapM_cons, List.mapM_cons, first,
        ih fun other member => same other (List.mem_cons_of_mem segment member)]
  rw [fillPattern, fillPattern, filled]

/-- What was captured before stays so, and every name of the segments is captured. -/
theorem matchParts_valued {earlier result : Vars} {parts : List Text} (lengths : parts.length = segments.length)
    (matched : matchParts earlier segments parts = .matched result) :
    (∀ name ∈ earlier, name ∈ result) ∧
      ∀ segment ∈ segments, ∀ name, segment.name? = some name → name ∈ result := by
  induction segments generalizing earlier parts with
  | nil =>
    simp only [matchParts] at matched
    cases matched
    exact ⟨fun name member => member, fun segment member => by cases member⟩
  | cons segment rest ih =>
    cases parts with
    | nil => cases lengths
    | cons part parts =>
      have shorter : parts.length = rest.length := Nat.succ.inj lengths
      -- A segment with a name inserts it, whatever it captures.
      have inserted (name : String) (value : Text) (isName : segment.name? = some name)
          (later : matchParts (earlier.insert name value) rest parts = .matched result) :
          (∀ name ∈ earlier, name ∈ result) ∧
            ∀ other ∈ segment :: rest, ∀ name, other.name? = some name → name ∈ result := by
        obtain ⟨kept, others⟩ := ih shorter later
        refine ⟨fun other member => kept other (Std.ExtTreeMap.mem_insert.mpr (.inr member)), ?_⟩
        intro other member its isIts
        rcases List.mem_cons.mp member with rfl | inRest
        · cases isName.symm.trans isIts
          exact kept name Std.ExtTreeMap.mem_insert_self
        · exact others other inRest its isIts
      cases segment with
      | literal text =>
        simp only [matchParts] at matched
        split at matched
        · obtain ⟨kept, others⟩ := ih shorter matched
          refine ⟨kept, fun other member name isName => ?_⟩
          rcases List.mem_cons.mp member with rfl | inRest
          · cases isName
          · exact others other inRest name isName
        · cases matched
      | capture name => exact inserted name part rfl (by simpa only [matchParts] using matched)
      | partialCapture before name after =>
        simp only [matchParts] at matched
        split at matched
        · split at matched
          · exact inserted name _ rfl matched
          · cases matched
        · cases matched

theorem matchSegments_valued {topic : Text} {captured : Vars}
    (matched : matchSegments segments topic = .matched captured) :
    ∀ segment ∈ segments, ∀ name, segment.name? = some name → name ∈ captured := by
  simp only [matchSegments] at matched
  split at matched
  · cases matched
  · next lengths => exact (matchParts_valued (not_ne_iff.mp lengths) matched).2

/-- The captured values fill the pattern to the topic just where it is so filled by any. -/
theorem filled_iff_oneValueEach {pattern topic : Text} {captured : Vars}
    (matched : matchSegments (parsePattern pattern) topic = .matched captured) :
    filledIn captured (patternPieces pattern) = topic ↔ OneValueEach pattern topic := by
  have filled : fillPattern (parsePattern pattern) captured =
      some (filledIn captured (patternPieces pattern)) := fillPattern_pieces (matchSegments_valued matched)
  constructor
  · rintro rfl
    exact ⟨captured, matchSegments_unseparated matched, filled⟩
  · rintro ⟨values, unseparated, isTopic⟩
    have nonempty : parsePattern pattern ≠ [] := by
      simp [parsePattern, List.splitOn_ne_nil]
    have own := matchSegments_fill unseparated nonempty (parsePattern_whole pattern) isTopic
    cases matched.symm.trans own
    have same : fillPattern (parsePattern pattern) (restrictTo (parsePattern pattern) values) =
        fillPattern (parsePattern pattern) values := by
      refine fillPattern_congr fun segment member name isName => ?_
      have listed : (parsePattern pattern).any (·.name? = some name) = true :=
        List.any_eq_true.mpr ⟨segment, member, decide_eq_true isName⟩
      rw [restrictTo, Std.ExtTreeMap.getElem?_filter']
      cases values[name]? with
      | none => rfl
      | some value => rw [Option.filter_some, if_pos listed]
    exact Option.some.inj (filled.symm.trans (same.trans isTopic))

end Patterns

/-! ## The ordinary case -/

/-- No brace but those of the placeholders. -/
def Piece.Plain : Piece → Prop
  | .char c => c ≠ openingBrace
  | .named name => openingBrace ∉ name.toList ∧ closingBrace ∉ name.toList

instance : DecidablePred Piece.Plain
  | .char c => inferInstanceAs (Decidable (c ≠ openingBrace))
  | .named name => inferInstanceAs (Decidable (openingBrace ∉ name.toList ∧ closingBrace ∉ name.toList))

section Plain
variable {vars : Vars} {filled : List String} {pieces : List Piece}

theorem fill_named (filled : List String) (name : String) :
    (∃ value, vars[name]? = some value ∧ Piece.fill vars filled (.named name) = value) ∨
      Piece.fill vars filled (.named name) = placeholder name := by
  by_cases isFilled : name ∈ filled
  · rw [Piece.fill, if_pos isFilled]
    cases lookup : vars[name]? with
    | none => exact .inr rfl
    | some value => exact .inl ⟨value, rfl, rfl⟩
  · exact .inr (if_neg isFilled)

/-- Among values without braces, an opening brace is that of a placeholder. -/
theorem opening_at (values : ∀ (name : String) (value : Text), vars[name]? = some value → openingBrace ∉ value)
    (plain : ∀ piece ∈ pieces, piece.Plain) {front back : Text}
    (found : partlyFilled vars filled pieces = front ++ openingBrace :: back) :
    ∃ before name after rest, pieces = before ++ .named name :: after ∧
      partlyFilled vars filled before = front ∧ back = name.toList ++ closingBrace :: rest := by
  induction pieces generalizing front with
  | nil => cases front <;> cases found
  | cons piece pieces ih =>
    have further (front : Text) (inRest : partlyFilled vars filled pieces = front ++ openingBrace :: back) :
        ∃ before name after rest, piece :: pieces = before ++ .named name :: after ∧
          partlyFilled vars filled before = piece.fill vars filled ++ front ∧
            back = name.toList ++ closingBrace :: rest := by
      obtain ⟨before, name, after, rest, rfl, rfl, isBack⟩ :=
        ih (fun other member => plain other (List.mem_cons_of_mem piece member)) inRest
      exact ⟨piece :: before, name, after, rest, rfl, rfl, isBack⟩
    have whole : piece.fill vars filled ++ partlyFilled vars filled pieces = front ++ openingBrace :: back := found
    rcases List.append_eq_append_iff.mp whole with ⟨more, rfl, inRest⟩ | ⟨more, isFill, inRest⟩
    · exact further more inRest
    · cases more with
      | nil =>
        obtain rfl : piece.fill vars filled = front := by rw [isFill, List.append_nil]
        simpa using further [] inRest.symm
      | cons c more =>
        obtain ⟨rfl, rfl⟩ := List.cons.inj inRest
        have own := plain piece List.mem_cons_self
        have inside : openingBrace ∈ piece.fill vars filled := isFill ▸ List.mem_append_right front List.mem_cons_self
        -- The brace is in this piece, so it opens its placeholder.
        cases piece with
        | char c => exact absurd (List.mem_singleton.mp inside).symm own
        | named name =>
          rcases @fill_named vars filled name with ⟨value, lookup, isValue⟩ | left
          · exact absurd (isValue ▸ inside) (values name value lookup)
          · rw [left] at isFill
            cases front with
            | nil =>
              obtain ⟨-, rfl⟩ := List.cons.inj isFill
              exact ⟨[], name, pieces, partlyFilled vars filled pieces, rfl, rfl, by simp⟩
            | cons d front =>
              have later : name.toList ++ [closingBrace] = front ++ openingBrace :: more :=
                (List.cons.inj isFill).2
              have within : openingBrace ∈ name.toList ++ [closingBrace] := by
                rw [later]
                exact List.mem_append_right front List.mem_cons_self
              rcases List.mem_append.mp within with inName | closes
              · exact absurd inName own.1
              · exact absurd (List.mem_singleton.mp closes) braces_apart

/-- Where neither the values nor the template's own text have braces, every placeholder is the
template's own. -/
theorem own_of_plain (values : ∀ (name : String) (value : Text), vars[name]? = some value → openingBrace ∉ value)
    (names : ∀ name ∈ vars, closingBrace ∉ name.toList) (plain : ∀ piece ∈ pieces, piece.Plain) :
    OwnPlaceholders vars pieces := by
  intro filled name value unfilled lookup changed front back found
  have opened : partlyFilled vars filled pieces =
      front ++ openingBrace :: (name.toList ++ closingBrace :: back) := by
    rw [found, placeholder]
    simp
  obtain ⟨before, other, after, rest, rfl, isFront, closes⟩ := opening_at values plain opened
  have member : name ∈ vars := Std.ExtTreeMap.mem_iff_isSome_getElem?.mpr (by rw [lookup]; rfl)
  have otherPlain := plain (.named other) (List.mem_append_right before List.mem_cons_self)
  have lengths : some name.toList.length = some other.toList.length := by
    rw [← idxOf?_append (names name member) back, closes, idxOf?_append otherPlain.2]
  obtain ⟨same, -⟩ := List.append_inj closes (Option.some.inj lengths)
  obtain rfl : name = other := String.toList_inj.mp same
  exact ⟨before, after, rfl, isFront⟩

end Plain

/-! ## Every pattern and every template -/

/-- While no placeholder but the template's own is ever replaced, rendering undoes a match just
where each name has one value in the topic, and does not depend on the order of the map; in some
order another one is replaced in every other case. -/
theorem rendering_right (pattern topic : Text) (captured : Vars)
    (matched : matchPattern pattern topic = .matched captured) :
    (OwnPlaceholders captured (patternPieces pattern) →
        ((∀ hash, renderTemplate hash pattern captured = topic) ↔ OneValueEach pattern topic)) ∧
      ∀ (vars : Vars) (pieces : List Piece),
        (OwnPlaceholders vars pieces → OrderFree (templateText pieces) vars) ∧
          (¬ OwnPlaceholders vars pieces → ReplacesOther vars pieces) := by
  rw [matchPattern_eq] at matched
  refine ⟨fun own => ?_, fun vars pieces => ⟨fun own hash other => ?_, other_replaced⟩⟩
  · have rendered (hash : HashOrder) :
        renderTemplate hash pattern captured = filledIn captured (patternPieces pattern) := by
      have right := render_own own hash
      rwa [templateText_patternPieces] at right
    rw [← filled_iff_oneValueEach matched]
    constructor
    · intro undone
      rw [← rendered ⟨id, List.Perm.refl⟩, undone]
    · intro filled hash
      rw [rendered, filled]
  · rw [render_own own hash, render_own own other]

theorem lamp_rendered :
    ∃ captured, matchPattern "\x7broom\x7d/\x7bdevice\x7d".toList "hall/lamp".toList = .matched captured ∧
      (∀ hash, renderTemplate hash "\x7broom\x7d/\x7bdevice\x7d".toList captured = "hall/lamp".toList) ∧
      OrderFree "\x7broom\x7d/\x7bdevice\x7d".toList captured := by
  let captured : Vars := ((∅ : Vars).insert "room" "hall".toList).insert "device" "lamp".toList
  have matched : matchPattern "\x7broom\x7d/\x7bdevice\x7d".toList "hall/lamp".toList = .matched captured := by
    rfl
  have only (name : String) (value : Text) (lookup : captured[name]? = some value) :
      name = "device" ∧ value = "lamp".toList ∨ name = "room" ∧ value = "hall".toList := by
    rw [Std.ExtTreeMap.getElem?_insert] at lookup
    split at lookup
    next same => exact .inl ⟨(Std.LawfulEqCmp.eq_of_compare same).symm, (Option.some.inj lookup).symm⟩
    next =>
      rw [Std.ExtTreeMap.getElem?_insert] at lookup
      split at lookup
      next same => exact .inr ⟨(Std.LawfulEqCmp.eq_of_compare same).symm, (Option.some.inj lookup).symm⟩
      next => cases lookup
  have own : OwnPlaceholders captured (patternPieces "\x7broom\x7d/\x7bdevice\x7d".toList) := by
    refine own_of_plain (fun name value lookup => ?_) (fun name member => ?_) (by decide)
    · rcases only name value lookup with ⟨_, rfl⟩ | ⟨_, rfl⟩ <;> decide
    · obtain ⟨value, lookup⟩ :=
        Option.isSome_iff_exists.mp (Std.ExtTreeMap.mem_iff_isSome_getElem?.mp member)
      rcases only name value lookup with ⟨rfl, _⟩ | ⟨rfl, _⟩ <;> decide
  have oneEach : OneValueEach "\x7broom\x7d/\x7bdevice\x7d".toList "hall/lamp".toList := by
    refine ⟨captured, fun name value lookup => ?_, by decide⟩
    rcases only name value lookup with ⟨_, rfl⟩ | ⟨_, rfl⟩ <;> decide
  obtain ⟨undoes, free⟩ := rendering_right _ _ captured matched
  refine ⟨captured, matched, (undoes own).mpr oneEach, ?_⟩
  have orderFree := (free captured _).1 own
  rwa [templateText_patternPieces] at orderFree

/-- `{a}/{b}` on `{b}/x`: the value of `a` is the placeholder of `b`. -/
theorem value_taken_for_placeholder :
    (¬ ∀ (pattern topic : Text) (captured : Vars), matchPattern pattern topic = .matched captured →
        ∀ hash, renderTemplate hash pattern captured = topic) ∧
      ¬ ∀ (template : Text) (vars : Vars), OrderFree template vars := by
  let captured : Vars := ((∅ : Vars).insert "a" "\x7bb\x7d".toList).insert "b" "x".toList
  have matched : matchPattern "\x7ba\x7d/\x7bb\x7d".toList "\x7bb\x7d/x".toList = .matched captured := by
    rfl
  have first : renderTemplate sortedHash "\x7ba\x7d/\x7bb\x7d".toList captured = "x/x".toList := by
    decide
  have last : renderTemplate ⟨List.reverse, List.reverse_perm⟩ "\x7ba\x7d/\x7bb\x7d".toList captured =
      "\x7bb\x7d/x".toList := by
    decide
  refine ⟨fun always => ?_, fun always => ?_⟩
  · have undone := always _ _ captured matched sortedHash
    rw [first] at undone
    exact absurd undone (by decide)
  · have same := always "\x7ba\x7d/\x7bb\x7d".toList captured sortedHash ⟨List.reverse, List.reverse_perm⟩
    rw [first, last] at same
    exact absurd same (by decide)

/-! A text may come out right although a placeholder is replaced that is not the template's:
`{a}{b}` with `{a}{` for `a` and `b}` for `b` is left as it is in either order. -/
example : [sortedHash, ⟨List.reverse, List.reverse_perm⟩].map (renderTemplate · "\x7ba\x7d\x7bb\x7d".toList
      (((∅ : Vars).insert "a" "\x7ba\x7d\x7b".toList).insert "b" "b\x7d".toList)) =
    ["\x7ba\x7d\x7bb\x7d".toList, "\x7ba\x7d\x7bb\x7d".toList] := by
  decide

end HomeCore.TopicMap
