import HomeCore.Runs

/-! What a system that answers its inputs sends over a run, and what of a run is shown to an
observer from whom part of it is kept. -/
namespace Outputs
variable {σ τ ι ο : Type}

/-- All that is sent over a run. -/
def outputs (step : σ → ι → σ) (sends : σ → ι → List ο) : σ → List ι → List ο
  | _, [] => []
  | s, i :: rest => sends s i ++ outputs step sends (step s i) rest

/-- The run as it is shown: each input in the form it may be seen in, or left out. What was
shown before is followed by `track`. -/
def projected (track : τ → ι → τ) (shown : τ → ι → Option ι) : τ → List ι → List ι
  | _, [] => []
  | t, i :: rest => (shown t i).toList ++ projected track shown (track t i) rest

def total (weight : ο → Nat) (sent : List ο) : Nat := (sent.map weight).sum

variable {step : σ → ι → σ} {sends : σ → ι → List ο} {track : τ → ι → τ}
  {shown : τ → ι → Option ι} {safe : σ → ι → Prop} {weight : ο → Nat}

theorem outputs_append (s : σ) (first later : List ι) :
    outputs step sends s (first ++ later) =
      outputs step sends s first ++ outputs step sends (first.foldl step s) later := by
  induction first generalizing s with
  | nil => rfl
  | cons i rest ih => simp only [List.cons_append, outputs, ih, List.append_assoc, List.foldl_cons]

theorem total_append (first later : List ο) :
    total weight (first ++ later) = total weight first + total weight later := by
  simp only [total, List.map_append, List.sum_append]

/-- An input that is seen in some form is seen in that form again. -/
theorem projected_projected (alike : τ → τ → Prop)
    (again : ∀ t t' i j, alike t t' → shown t i = some j →
      shown t' j = some j ∧ alike (track t i) (track t' j))
    (unseen : ∀ t t' i, alike t t' → shown t i = none → alike (track t i) t') {t t' : τ}
    (start : alike t t') (inputs : List ι) :
    projected track shown t' (projected track shown t inputs) = projected track shown t inputs := by
  induction inputs generalizing t t' with
  | nil => rfl
  | cons i rest ih =>
    rw [projected]
    cases seen : shown t i with
    | none => exact ih (unseen t t' i start seen)
    | some j =>
      obtain ⟨seenAgain, later⟩ := again t t' i j start seen
      simp only [Option.toList_some, List.cons_append, List.nil_append, projected, seenAgain, ih later]

theorem eachStep_projected (harmless : ∀ t s i j, shown t i = some j → safe s j) (t : τ) (s : σ)
    (inputs : List ι) : Runs.EachStep step safe s (projected track shown t inputs) := by
  induction inputs generalizing t s with
  | nil => trivial
  | cons i rest ih =>
    rw [projected]
    cases seen : shown t i with
    | none => exact ih _ _
    | some j => exact ⟨harmless t s i j seen, ih _ _⟩

section
variable (same : τ → σ → σ → Prop)
  (keeps : ∀ t s s' i, same t s s' →
    same (track t i) (step s i) ((shown t i).toList.foldl step s'))
include keeps

/-- Where a safe step sends what the step of its visible form sends, a safe run sends what is
sent over what is shown of it. -/
theorem outputs_projected
    (covers : ∀ t s s' i, same t s s' → safe s i →
      sends s i = outputs step sends s' (shown t i).toList)
    {t : τ} {s s' : σ} (start : same t s s') {inputs : List ι}
    (steps : Runs.EachStep step safe s inputs) :
    outputs step sends s inputs = outputs step sends s' (projected track shown t inputs) := by
  induction inputs generalizing t s s' with
  | nil => rfl
  | cons i rest ih =>
    rw [outputs, projected, outputs_append, covers t s s' i start steps.1,
      ih (keeps t s s' i start) steps.2]

theorem total_projected_le
    (lighter : ∀ t s s' i, same t s s' →
      total weight (outputs step sends s' (shown t i).toList) ≤ total weight (sends s i))
    {t : τ} {s s' : σ} (start : same t s s') (inputs : List ι) :
    total weight (outputs step sends s' (projected track shown t inputs)) ≤
      total weight (outputs step sends s inputs) := by
  induction inputs generalizing t s s' with
  | nil => exact le_refl _
  | cons i rest ih =>
    rw [outputs, projected, outputs_append, total_append, total_append]
    exact Nat.add_le_add (lighter t s s' i start) (ih (keeps t s s' i start))

/-- Where an unsafe step sends more than the step of its visible form, a run that sends what is
sent over what is shown of it is safe throughout. -/
theorem eachStep_of_outputs_eq
    (lighter : ∀ t s s' i, same t s s' →
      total weight (outputs step sends s' (shown t i).toList) ≤ total weight (sends s i))
    (exactly : ∀ t s s' i, same t s s' →
      total weight (outputs step sends s' (shown t i).toList) = total weight (sends s i) → safe s i)
    {t : τ} {s s' : σ} (start : same t s s') {inputs : List ι}
    (equal : total weight (outputs step sends s inputs) =
      total weight (outputs step sends s' (projected track shown t inputs))) :
    Runs.EachStep step safe s inputs := by
  induction inputs generalizing t s s' with
  | nil => trivial
  | cons i rest ih =>
    rw [outputs, projected, outputs_append, total_append, total_append] at equal
    have now := lighter t s s' i start
    have later := total_projected_le same keeps lighter (keeps t s s' i start) rest
    constructor
    · exact exactly t s s' i start (by omega)
    · exact ih (keeps t s s' i start) (by omega)

end
end Outputs
