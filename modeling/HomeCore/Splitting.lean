import Mathlib.Data.List.Basic

/-! Parts of a list between separators, and texts joined of parts of one kind. -/
namespace Splitting
variable {α : Type}

theorem mem_splitOn [DecidableEq α] {separator : α} {text word : List α}
    (member : word ∈ text.splitOn separator) :
    ∀ c ∈ word, c ∈ text ∧ c ≠ separator := by
  induction text generalizing word with
  | nil =>
    rw [List.splitOn_nil, List.mem_singleton] at member
    subst member
    intro c inside
    cases inside
  | cons first rest ih =>
    rw [List.splitOn_cons_eq_if_modifyHead] at member
    split at member
    · rcases List.mem_cons.mp member with rfl | later
      · intro c inside
        cases inside
      · intro c inside
        obtain ⟨found, other⟩ := ih later c inside
        exact ⟨List.mem_cons_of_mem _ found, other⟩
    · rename_i plain
      obtain ⟨head, tail, words⟩ := List.exists_cons_of_ne_nil (List.splitOn_ne_nil separator rest)
      rw [words, List.modifyHead_cons, List.mem_cons] at member
      rcases member with rfl | later
      · intro c inside
        rcases List.mem_cons.mp inside with rfl | within
        · exact ⟨List.mem_cons_self, by simpa using plain⟩
        · obtain ⟨found, other⟩ := ih (words ▸ List.mem_cons_self) c within
          exact ⟨List.mem_cons_of_mem _ found, other⟩
      · intro c inside
        obtain ⟨found, other⟩ := ih (words ▸ List.mem_cons_of_mem _ later) c inside
        exact ⟨List.mem_cons_of_mem _ found, other⟩

/-- A joined text falls into the parts that its words fall into. -/
theorem splitOn_intercalate_words [DecidableEq α] {separator : α} {words : List (List α)}
    (some : words ≠ []) :
    (List.intercalate [separator] words).splitOn separator =
      words.flatMap (·.splitOn separator) := by
  induction words with
  | nil => exact absurd rfl some
  | cons word rest ih =>
    cases rest with
    | nil => simp
    | cons next later =>
      rw [List.intercalate_cons_cons, List.append_assoc, List.singleton_append,
        List.splitOn_append_cons_self, ih (List.cons_ne_nil _ _)]
      rfl

/-- Two joined texts are the same where their words fall into the same parts. -/
theorem intercalate_eq_iff [DecidableEq α] {separator : α} {words others : List (List α)}
    (some : words ≠ []) (othersSome : others ≠ []) :
    List.intercalate [separator] words = List.intercalate [separator] others ↔
      words.flatMap (·.splitOn separator) = others.flatMap (·.splitOn separator) := by
  constructor
  · intro same
    rw [← splitOn_intercalate_words some, same, splitOn_intercalate_words othersSome]
  · intro same
    have parts : (List.intercalate [separator] words).splitOn separator =
        (List.intercalate [separator] others).splitOn separator := by
      rw [splitOn_intercalate_words some, same, splitOn_intercalate_words othersSome]
    have whole := congrArg (List.intercalate [separator]) parts
    rwa [List.intercalate_splitOn, List.intercalate_splitOn] at whole

/-- A text falls apart at its last separator. -/
theorem append_last_iff {separator : α} {front word other last : List α} (apart : separator ∉ word)
    (otherApart : separator ∉ last) :
    front ++ separator :: word = other ++ separator :: last ↔ front = other ∧ word = last := by
  constructor
  · intro same
    rcases List.append_eq_append_iff.mp same with ⟨more, longer, rest⟩ | ⟨more, longer, rest⟩
    · cases more with
      | nil =>
        cases rest
        exact ⟨by rw [longer, List.append_nil], rfl⟩
      | cons c more =>
        have inside := (List.cons.inj rest).2
        exact (apart (by rw [inside]; simp)).elim
    · cases more with
      | nil =>
        cases rest
        exact ⟨by rw [longer, List.append_nil], rfl⟩
      | cons c more =>
        have inside := (List.cons.inj rest).2
        exact (otherApart (by rw [inside]; simp)).elim
  · rintro ⟨rfl, rfl⟩
    rfl

theorem flatten_splitOn [DecidableEq α] (separator : α) (text : List α) :
    (text.splitOn separator).flatten = text.filter (· ≠ separator) := by
  induction text with
  | nil => rfl
  | cons first rest ih =>
    rw [List.splitOn_cons_eq_if_modifyHead]
    by_cases same : first = separator
    · rw [if_pos (by simpa using same), List.flatten_cons, List.nil_append, ih,
        List.filter_cons_of_neg (by simpa using same)]
    · obtain ⟨head, tail, words⟩ := List.exists_cons_of_ne_nil (List.splitOn_ne_nil separator rest)
      rw [words, List.flatten_cons] at ih
      rw [if_neg (by simpa using same), words, List.modifyHead_cons, List.flatten_cons,
        List.cons_append, ih, List.filter_cons_of_pos (by simpa using same)]

/-- Without its separators, a joined text is its words, one after the other. -/
theorem filter_intercalate [DecidableEq α] {separator : α} {words : List (List α)}
    (plain : ∀ word ∈ words, separator ∉ word) :
    (List.intercalate [separator] words).filter (· ≠ separator) = words.flatten := by
  have whole {word : List α} (apart : separator ∉ word) : word.filter (· ≠ separator) = word := by
    refine List.filter_eq_self.mpr fun c inside => ?_
    simpa using ne_of_mem_of_not_mem inside apart
  induction words with
  | nil => rfl
  | cons word rest ih =>
    have first := whole (plain word List.mem_cons_self)
    cases rest with
    | nil => rw [List.intercalate_singleton, first, List.flatten_singleton]
    | cons next later =>
      rw [List.intercalate_cons_cons, List.append_assoc, List.filter_append, List.filter_append,
        first, ih fun word listed => plain word (List.mem_cons_of_mem _ listed), List.flatten_cons]
      simp

/-- A joined text becomes the joined texts that its words become. -/
theorem flatMap_intercalate {β : Type} (f : α → List β) (separator : List α) (words : List (List α)) :
    (List.intercalate separator words).flatMap f =
      List.intercalate (separator.flatMap f) (words.map (·.flatMap f)) := by
  induction words with
  | nil => rfl
  | cons word rest ih =>
    cases rest with
    | nil => simp only [List.intercalate_singleton, List.map_cons, List.map_nil]
    | cons next later =>
      rw [List.intercalate_cons_cons, List.flatMap_append, List.flatMap_append, ih, List.map_cons,
        List.map_cons, List.map_cons, List.intercalate_cons_cons]

/-- Words of a kind, with one separator between each two. -/
inductive Joined (separator : α) (kind : List α → Prop) : List α → Prop where
  | word {word} (nonempty : word ≠ []) (plain : separator ∉ word) (is : kind word) :
      Joined separator kind word
  | cons {word rest} (nonempty : word ≠ []) (plain : separator ∉ word) (is : kind word)
      (joined : Joined separator kind rest) : Joined separator kind (word ++ separator :: rest)

/-- Every word is put into shape, and those that come to nothing are left out. -/
def rejoin [DecidableEq α] (separator : α) (shape : List α → List α) (text : List α) : List α :=
  List.intercalate [separator] (((text.splitOn separator).map shape).filter (!·.isEmpty))

namespace Joined
variable {separator : α} {kind : List α → Prop} {text more : List α}

theorem ne_nil (joined : Joined separator kind text) : text ≠ [] := by
  cases joined with
  | word nonempty _ _ => exact nonempty
  | cons _ _ _ _ => simp

theorem mem (joined : Joined separator kind text) {c : α} (inside : c ∈ text) :
    c = separator ∨ ∃ word, kind word ∧ c ∈ word := by
  induction joined with
  | word _ _ is => exact .inr ⟨_, is, inside⟩
  | cons _ _ is _ ih =>
    rcases List.mem_append.mp inside with within | after
    · exact .inr ⟨_, is, within⟩
    · rcases List.mem_cons.mp after with same | later
      · exact .inl same
      · exact ih later

/-- Words are of something else than separators. -/
theorem exists_ne (joined : Joined separator kind text) : ∃ c ∈ text, c ≠ separator := by
  have first {word : List α} (nonempty : word ≠ []) (plain : separator ∉ word) :
      ∃ c ∈ word, c ≠ separator := by
    obtain ⟨c, rest, rfl⟩ := List.exists_cons_of_ne_nil nonempty
    exact ⟨c, List.mem_cons_self, fun same => plain (same ▸ List.mem_cons_self)⟩
  cases joined with
  | word nonempty plain _ => exact first nonempty plain
  | cons nonempty plain _ _ =>
    obtain ⟨c, inside, other⟩ := first nonempty plain
    exact ⟨c, List.mem_append_left _ inside, other⟩

theorem append (joined : Joined separator kind text) (then_ : Joined separator kind more) :
    Joined separator kind (text ++ separator :: more) := by
  induction joined with
  | word nonempty plain is => exact .cons nonempty plain is then_
  | cons nonempty plain is _ ih =>
    rw [List.append_assoc, List.cons_append]
    exact .cons nonempty plain is ih

/-- The last word is made longer. -/
theorem lengthen (joined : Joined separator kind text) (apart : separator ∉ more)
    (longer : ∀ word, kind word → kind (word ++ more)) : Joined separator kind (text ++ more) := by
  have plainer {word : List α} (plain : separator ∉ word) : separator ∉ word ++ more := by
    rw [List.mem_append, not_or]
    exact ⟨plain, apart⟩
  induction joined with
  | word nonempty plain is =>
    exact .word (List.append_ne_nil_of_left_ne_nil nonempty more) (plainer plain) (longer _ is)
  | cons nonempty plain is _ ih =>
    rw [List.append_assoc, List.cons_append]
    exact .cons nonempty plain is ih

theorem of_words {words : List (List α)} (some : words ≠ [])
    (each : ∀ word ∈ words, word ≠ [] ∧ separator ∉ word ∧ kind word) :
    Joined separator kind (List.intercalate [separator] words) := by
  induction words with
  | nil => exact absurd rfl some
  | cons word rest ih =>
    obtain ⟨nonempty, plain, is⟩ := each word List.mem_cons_self
    cases rest with
    | nil =>
      rw [List.intercalate_singleton]
      exact .word nonempty plain is
    | cons next later =>
      rw [List.intercalate_cons_cons, List.append_assoc, List.singleton_append]
      refine .cons nonempty plain is (ih (List.cons_ne_nil _ _) fun word listed => ?_)
      exact each word (List.mem_cons_of_mem _ listed)

variable [DecidableEq α] {shape : List α → List α}

/-- What is joined of words in shape stays as it is. -/
theorem rejoin_eq (joined : Joined separator kind text)
    (inShape : ∀ word, kind word → shape word = word) :
    rejoin separator shape text = text := by
  rw [rejoin]
  induction joined with
  | word nonempty plain is =>
    rw [List.splitOn_eq_singleton plain, List.map_singleton, inShape _ is,
      List.filter_cons_of_pos (by simpa using nonempty), List.filter_nil, List.intercalate_singleton]
  | @cons word rest nonempty plain is joined ih =>
    have more : (((rest.splitOn separator).map shape).filter (!·.isEmpty)) ≠ [] := by
      intro none
      rw [none] at ih
      exact joined.ne_nil ih.symm
    rw [List.splitOn_append_cons_self_of_not_mem plain, List.map_cons, inShape _ is,
      List.filter_cons_of_pos (by simpa using nonempty), List.intercalate_cons_of_ne_nil more, ih,
      List.append_assoc, List.singleton_append]

/-- Rejoined words are joined, unless nothing is left. -/
theorem of_rejoin (made : ∀ word ∈ text.splitOn separator, shape word ≠ [] →
    separator ∉ shape word ∧ kind (shape word)) (some : rejoin separator shape text ≠ []) :
    Joined separator kind (rejoin separator shape text) := by
  refine of_words (fun none => some (by rw [rejoin, none]; rfl)) fun word listed => ?_
  obtain ⟨shaped, nonempty⟩ := List.mem_filter.mp listed
  obtain ⟨before, inText, rfl⟩ := List.mem_map.mp shaped
  have nonempty : shape before ≠ [] := by simpa using nonempty
  exact ⟨nonempty, made before inText nonempty⟩

end Joined
end Splitting
