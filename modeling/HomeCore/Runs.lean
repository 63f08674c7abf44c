import Mathlib

/-! Runs of a system that reacts to one input at a time. An input that does not
apply in a state leaves it as it is, so a run is any list of inputs. -/
namespace Runs
variable {σ ι : Type} {step : σ → ι → σ} {good : σ → Prop} {safe : σ → ι → Prop}

/-- The property holds in every state of the run, the first and last included. -/
def Always (step : σ → ι → σ) (good : σ → Prop) : σ → List ι → Prop
  | s, [] => good s
  | s, i :: rest => good s ∧ Always step good (step s i) rest

/-- Every input of the run is safe in the state that receives it. -/
def EachStep (step : σ → ι → σ) (safe : σ → ι → Prop) : σ → List ι → Prop
  | _, [] => True
  | s, i :: rest => safe s i ∧ EachStep step safe (step s i) rest

instance EachStep.decidable [∀ s i, Decidable (safe s i)] :
    ∀ (s : σ) (inputs : List ι), Decidable (EachStep step safe s inputs)
  | _, [] => .isTrue trivial
  | s, i :: rest => @instDecidableAnd _ _ _ (EachStep.decidable (step s i) rest)

theorem EachStep.last {s : σ} {inputs : List ι} {i : ι}
    (steps : EachStep step safe s (inputs ++ [i])) : safe (inputs.foldl step s) i := by
  induction inputs generalizing s with
  | nil => exact steps.1
  | cons j rest ih => exact ih steps.2

theorem EachStep.front {s : σ} {inputs later : List ι}
    (steps : EachStep step safe s (inputs ++ later)) : EachStep step safe s inputs := by
  induction inputs generalizing s with
  | nil => trivial
  | cons i rest ih => exact ⟨steps.1, ih steps.2⟩

theorem EachStep.and {also : σ → ι → Prop} {s : σ} {inputs : List ι}
    (steps : EachStep step safe s inputs) (alsoSteps : EachStep step also s inputs) :
    EachStep step (fun s i => safe s i ∧ also s i) s inputs := by
  induction inputs generalizing s with
  | nil => trivial
  | cons i rest ih => exact ⟨⟨steps.1, alsoSteps.1⟩, ih steps.2 alsoSteps.2⟩

theorem EachStep.mono {weaker : σ → ι → Prop} (weaken : ∀ s i, safe s i → weaker s i) {s : σ}
    {inputs : List ι} (steps : EachStep step safe s inputs) : EachStep step weaker s inputs := by
  induction inputs generalizing s with
  | nil => trivial
  | cons i rest ih => exact ⟨weaken s i steps.1, ih steps.2⟩

theorem Always.first {s : σ} {inputs : List ι} (always : Always step good s inputs) : good s := by
  cases inputs with
  | nil => exact always
  | cons i rest => exact always.1

theorem Always.mono {weaker : σ → Prop} (weaken : ∀ s, good s → weaker s) {s : σ}
    {inputs : List ι} (always : Always step good s inputs) : Always step weaker s inputs := by
  induction inputs generalizing s with
  | nil => exact weaken s always
  | cons i rest ih => exact ⟨weaken s always.1, ih always.2⟩

theorem Always.and {also : σ → Prop} {s : σ} {inputs : List ι} (always : Always step good s inputs)
    (alsoAlways : Always step also s inputs) : Always step (fun s => good s ∧ also s) s inputs := by
  induction inputs generalizing s with
  | nil => exact ⟨always, alsoAlways⟩
  | cons i rest ih => exact ⟨⟨always.1, alsoAlways.1⟩, ih always.2 alsoAlways.2⟩

theorem Always.last {s : σ} {inputs : List ι} (always : Always step good s inputs) :
    good (inputs.foldl step s) := by
  induction inputs generalizing s with
  | nil => exact always
  | cons i rest ih => exact ih always.2

theorem Always.eachStep (covers : ∀ s i, good s → safe s i) {s : σ} {inputs : List ι}
    (always : Always step good s inputs) : EachStep step safe s inputs := by
  induction inputs generalizing s with
  | nil => trivial
  | cons i rest ih => exact ⟨covers s i always.1, ih always.2⟩

/-- An invariant that every step keeps holds throughout any run. -/
theorem kept (inv : σ → Prop) (keeps : ∀ s i, inv s → inv (step s i)) {s : σ} (start : inv s)
    (inputs : List ι) : Always step inv s inputs := by
  induction inputs generalizing s with
  | nil => exact start
  | cons i rest ih => exact ⟨start, ih (keeps s i start)⟩

/-- An invariant that every safe step keeps holds throughout a safe run. -/
theorem invariant (inv : σ → Prop) (keeps : ∀ s i, inv s → safe s i → inv (step s i)) {s : σ}
    (start : inv s) {inputs : List ι} (steps : EachStep step safe s inputs) : Always step inv s inputs := by
  induction inputs generalizing s with
  | nil => exact start
  | cons i rest ih => exact ⟨start, ih (keeps s i start steps.1) steps.2⟩

/-- What every step's safety comes to under an invariant that the safe steps keep. -/
theorem eachStep_iff_under {also : σ → ι → Prop} (inv : σ → Prop)
    (keeps : ∀ s i, inv s → safe s i → inv (step s i))
    (exactly : ∀ s i, inv s → (safe s i ↔ also s i)) {s : σ} (start : inv s) (inputs : List ι) :
    EachStep step safe s inputs ↔ EachStep step also s inputs := by
  induction inputs generalizing s with
  | nil => exact Iff.rfl
  | cons i rest ih =>
    constructor
    · rintro ⟨isSafe, later⟩
      exact ⟨(exactly s i start).mp isSafe, (ih (keeps s i start isSafe)).mp later⟩
    · rintro ⟨isAlso, later⟩
      have isSafe := (exactly s i start).mpr isAlso
      exact ⟨isSafe, (ih (keeps s i start isSafe)).mpr later⟩

/-- The same under an invariant that every step keeps. -/
theorem eachStep_iff {also : σ → ι → Prop} (inv : σ → Prop) (keeps : ∀ s i, inv s → inv (step s i))
    (exactly : ∀ s i, inv s → (safe s i ↔ also s i)) {s : σ} (start : inv s) (inputs : List ι) :
    EachStep step safe s inputs ↔ EachStep step also s inputs :=
  eachStep_iff_under inv (fun s i isInv _ => keeps s i isInv) exactly start inputs

/-- Under an invariant that the safe steps keep, where a step keeps the property exactly when it is
safe, the runs that keep it throughout are the safe ones. -/
theorem always_iff_under (inv : σ → Prop)
    (keeps : ∀ s i, inv s → good s → safe s i → inv (step s i))
    (exactly : ∀ s i, inv s → good s → (good (step s i) ↔ safe s i)) {s : σ} (invStart : inv s)
    (start : good s) (inputs : List ι) :
    Always step good s inputs ↔ EachStep step safe s inputs := by
  induction inputs generalizing s with
  | nil => exact ⟨fun _ => trivial, fun _ => start⟩
  | cons i rest ih =>
    constructor
    · rintro ⟨_, later⟩
      have kept := later.first
      have isSafe := (exactly s i invStart start).mp kept
      exact ⟨isSafe, (ih (keeps s i invStart start isSafe) kept).mp later⟩
    · rintro ⟨isSafe, later⟩
      have kept := (exactly s i invStart start).mpr isSafe
      exact ⟨start, (ih (keeps s i invStart start isSafe) kept).mpr later⟩

/-- The same with no invariant. -/
theorem always_iff_eachStep (exactly : ∀ s i, good s → (good (step s i) ↔ safe s i)) {s : σ}
    (start : good s) (inputs : List ι) :
    Always step good s inputs ↔ EachStep step safe s inputs :=
  always_iff_under (fun _ => True) (fun _ _ _ _ _ => trivial) (fun s i _ => exactly s i) trivial start
    inputs

/-- The same for runs whose steps are all calm, where only those keep the invariant. -/
theorem always_iff_calm {calm : σ → ι → Prop} (inv : σ → Prop)
    (keeps : ∀ s i, inv s → calm s i → inv (step s i))
    (exactly : ∀ s i, inv s → calm s i → good s → (good (step s i) ↔ safe s i)) {s : σ}
    (invStart : inv s) (start : good s) {inputs : List ι} (steps : EachStep step calm s inputs) :
    Always step good s inputs ↔ EachStep step safe s inputs := by
  induction inputs generalizing s with
  | nil => exact ⟨fun _ => trivial, fun _ => start⟩
  | cons i rest ih =>
    obtain ⟨isCalm, calmLater⟩ := steps
    have invNext := keeps s i invStart isCalm
    have exact_ := exactly s i invStart isCalm start
    constructor
    · rintro ⟨_, later⟩
      exact ⟨exact_.mp later.first, (ih invNext later.first calmLater).mp later⟩
    · rintro ⟨isSafe, later⟩
      have kept := exact_.mpr isSafe
      exact ⟨start, (ih invNext kept calmLater).mpr later⟩

/-- Where a step keeps the property and is also calm exactly when it is safe, so do the runs. -/
theorem always_and_eachStep_iff {calm : σ → ι → Prop} (inv : σ → Prop)
    (keeps : ∀ s i, inv s → inv (step s i))
    (exactly : ∀ s i, inv s → good s → (good (step s i) ∧ calm s i ↔ safe s i)) {s : σ}
    (invStart : inv s) (start : good s) (inputs : List ι) :
    Always step good s inputs ∧ EachStep step calm s inputs ↔ EachStep step safe s inputs := by
  induction inputs generalizing s with
  | nil => exact ⟨fun _ => trivial, fun _ => ⟨start, trivial⟩⟩
  | cons i rest ih =>
    have invNext := keeps s i invStart
    constructor
    · rintro ⟨⟨_, later⟩, isCalm, calmLater⟩
      have kept := later.first
      exact ⟨(exactly s i invStart start).mp ⟨kept, isCalm⟩, (ih invNext kept).mp ⟨later, calmLater⟩⟩
    · rintro ⟨isSafe, later⟩
      obtain ⟨kept, isCalm⟩ := (exactly s i invStart start).mpr isSafe
      obtain ⟨always, calm⟩ := (ih invNext kept).mpr later
      exact ⟨⟨start, always⟩, isCalm, calm⟩

end Runs
