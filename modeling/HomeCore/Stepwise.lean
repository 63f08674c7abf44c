import Mathlib

/-! Computations on a state that may stop in the middle and leave the state as it is by then: what
holds where they end, and what holds wherever they stop. -/
namespace Stepwise
variable {ε σ α β : Type} {pre : σ → Prop} {done : α → σ → Prop} {stopped : ε → σ → Prop}
  {job : EStateM ε σ α}

def Meets (done : α → σ → Prop) (stopped : ε → σ → Prop) : EStateM.Result ε σ α → Prop
  | .ok a s => done a s
  | .error e s => stopped e s

/-- From a state with the precondition the job ends with `done`, or stops with `stopped`. -/
def Ensures (pre : σ → Prop) (job : EStateM ε σ α) (done : α → σ → Prop) (stopped : ε → σ → Prop) :
    Prop :=
  ∀ s, pre s → Meets done stopped (job s)

theorem meets_mono {result : EStateM.Result ε σ α} {done' : α → σ → Prop} {stopped' : ε → σ → Prop}
    (ends : ∀ a s, done a s → done' a s) (stops : ∀ e s, stopped e s → stopped' e s)
    (meets : Meets done stopped result) : Meets done' stopped' result := by
  cases result with
  | ok a s => exact ends a s meets
  | error e s => exact stops e s meets

theorem Ensures.ended (ensures : Ensures pre job done stopped) {s s' : σ} {a : α} (start : pre s)
    (ended : job s = .ok a s') : done a s' := by
  have holds := ensures s start
  rwa [ended] at holds

theorem Ensures.halted (ensures : Ensures pre job done stopped) {s s' : σ} {e : ε} (start : pre s)
    (halted : job s = .error e s') : stopped e s' := by
  have holds := ensures s start
  rwa [halted] at holds

theorem Ensures.weaken {pre' : σ → Prop} {done' : α → σ → Prop} {stopped' : ε → σ → Prop}
    (ensures : Ensures pre job done stopped) (start : ∀ s, pre' s → pre s)
    (ends : ∀ a s, done a s → done' a s) (stops : ∀ e s, stopped e s → stopped' e s) :
    Ensures pre' job done' stopped' := by
  intro s isStart
  exact meets_mono ends stops (ensures s (start s isStart))

/-- A fact that the precondition brings with it. -/
theorem ensures_of {fact : Prop} (brings : ∀ s, pre s → fact) (ensures : fact → Ensures pre job done stopped) :
    Ensures pre job done stopped :=
  fun s start => ensures (brings s start) s start

theorem ensures_exists {β : Sort*} {fits : β → σ → Prop} (each : ∀ b, Ensures (fits b) job done stopped) :
    Ensures (fun s => ∃ b, fits b s) job done stopped := by
  rintro s ⟨b, start⟩
  exact each b s start

theorem ensures_pure {a : α} (holds : ∀ s, pre s → done a s) :
    Ensures pre (pure a : EStateM ε σ α) done stopped :=
  fun s start => holds s start

theorem ensures_throw {e : ε} (holds : ∀ s, pre s → stopped e s) :
    Ensures pre (throw e : EStateM ε σ α) done stopped :=
  fun s start => holds s start

theorem ensures_modify {change : σ → σ} {done : Unit → σ → Prop}
    (holds : ∀ s, pre s → done () (change s)) : Ensures pre (modify change : EStateM ε σ Unit) done stopped :=
  fun s start => holds s start

theorem Ensures.bind {next : α → EStateM ε σ β} {middle : α → σ → Prop} {done : β → σ → Prop}
    (first : Ensures pre job middle stopped) (rest : ∀ a, Ensures (middle a) (next a) done stopped) :
    Ensures pre (job >>= next) done stopped := by
  intro s start
  have holds := first s start
  show Meets done stopped (EStateM.bind job next s)
  rw [EStateM.bind]
  cases result : job s with
  | ok a s' =>
    rw [result] at holds
    exact rest a s' holds
  | error e s' =>
    rw [result] at holds
    exact holds

/-- The same, with what holds in the middle written out. -/
theorem Ensures.through {next : α → EStateM ε σ β} (middle : α → σ → Prop) {done : β → σ → Prop}
    (first : Ensures pre job middle stopped) (rest : ∀ a, Ensures (middle a) (next a) done stopped) :
    Ensures pre (job >>= next) done stopped :=
  first.bind rest

/-- Reading the state tells what it is. -/
theorem ensures_get {next : σ → EStateM ε σ β} {done : β → σ → Prop}
    (rest : ∀ s, pre s → Ensures (· = s) (next s) done stopped) :
    Ensures pre (get >>= next) done stopped :=
  fun s start => rest s start s rfl

theorem Ensures.tryCatch {handler : ε → EStateM ε σ α} {failed : ε → σ → Prop}
    (tried : Ensures pre job done failed) (handled : ∀ e, Ensures (failed e) (handler e) done stopped) :
    Ensures pre (tryCatch job handler) done stopped := by
  intro s start
  have holds := tried s start
  show Meets done stopped (EStateM.tryCatch job handler s)
  rw [EStateM.tryCatch]
  cases result : job s with
  | ok a s' =>
    rw [result] at holds
    exact holds
  | error e s' =>
    rw [result] at holds
    exact handled e s' holds

theorem ensures_ite {p : Prop} [Decidable p] {other : EStateM ε σ α}
    (isTrue : p → Ensures pre job done stopped) (isFalse : ¬ p → Ensures pre other done stopped) :
    Ensures pre (if p then job else other) done stopped := by
  split
  next holds => exact isTrue holds
  next fails => exact isFalse fails

end Stepwise
