import Mathlib

/-! Peeling a sequence of fallible computations apart at its first step. -/
namespace Outcome
variable {ε α β : Type}

theorem bind_ok {x : Except ε α} {f : α → Except ε β} {b : β} :
    (x >>= f) = .ok b ↔ ∃ a, x = .ok a ∧ f a = .ok b := by
  cases x with
  | error e => simp [bind, Except.bind]
  | ok a => simp [bind, Except.bind]

theorem bind_error {x : Except ε α} {f : α → Except ε β} {e : ε} :
    (x >>= f) = .error e ↔ x = .error e ∨ ∃ a, x = .ok a ∧ f a = .error e := by
  cases x with
  | error e => simp [bind, Except.bind]
  | ok a => simp [bind, Except.bind]

theorem pure_ok {a b : α} : (pure a : Except ε α) = .ok b ↔ a = b := by
  simp [pure, Except.pure]

theorem pure_error {a : α} {e : ε} : (pure a : Except ε α) = .error e ↔ False := by
  simp [pure, Except.pure]

/-- A check of its own that ends the computation where it fails. -/
def refuseIf (bad : Bool) (error : ε) : Except ε Unit := if bad then .error error else .ok ()

theorem refuseIf_ok {bad : Bool} {error : ε} {done : Unit} :
    refuseIf bad error = .ok done ↔ bad = false := by
  cases bad <;> simp [refuseIf]

def require (found : Option α) (error : ε) : Except ε α :=
  match found with
  | none => .error error
  | some a => .ok a

theorem require_ok {found : Option α} {error : ε} {a : α} :
    require found error = .ok a ↔ found = some a := by
  cases found <;> simp [require]

theorem map_ok {x : Except ε α} {f : α → β} {b : β} : x.map f = .ok b ↔ ∃ a, x = .ok a ∧ f a = b := by
  cases x <;> simp [Except.map]

/-- A step that is taken only where there is something to take it on. -/
theorem optional_ok {x : Option α} {f : α → Except ε β} {b : Option β} :
    x.mapM f = .ok b ↔ (x = none ∧ b = none) ∨ ∃ a c, x = some a ∧ b = some c ∧ f a = .ok c := by
  cases x with
  | none =>
    simp only [Option.mapM_none, pure_ok, true_and, reduceCtorEq, false_and, exists_false, or_false]
    exact eq_comm
  | some a =>
    simp only [Option.mapM_some, Option.some.injEq, reduceCtorEq, false_and, false_or]
    cases result : f a with
    | error e => simp [Functor.map, Except.map, result]
    | ok c =>
      simp only [Functor.map, Except.map, Except.ok.injEq]
      constructor
      · rintro rfl
        exact ⟨a, c, rfl, rfl, result⟩
      · rintro ⟨_, d, rfl, rfl, also⟩
        rw [result] at also
        cases also
        rfl

theorem mapM_ok {f : α → Except ε β} {as : List α} {bs : List β} :
    as.mapM f = .ok bs ↔ List.Forall₂ (fun a b => f a = .ok b) as bs := by
  induction as generalizing bs with
  | nil =>
    simp only [List.mapM_nil, pure_ok, List.forall₂_nil_left_iff]
    exact eq_comm
  | cons a as ih =>
    simp only [List.mapM_cons, bind_ok, pure_ok, ih]
    constructor
    · rintro ⟨b, first, rest, others, rfl⟩
      exact .cons first others
    · intro all
      cases all with
      | cons first others => exact ⟨_, first, _, others, rfl⟩

theorem mapM_mem {f : α → Except ε β} {as : List α} {bs : List β} (all : as.mapM f = .ok bs) {a : α}
    (member : a ∈ as) : ∃ b ∈ bs, f a = .ok b := by
  rw [mapM_ok] at all
  induction all with
  | nil => cases member
  | cons first _ ih =>
    rcases List.mem_cons.mp member with rfl | later
    · exact ⟨_, List.mem_cons_self, first⟩
    · obtain ⟨b, isIn, found⟩ := ih later
      exact ⟨b, List.mem_cons_of_mem _ isIn, found⟩

theorem mapM_error {f : α → Except ε β} {as : List α} {e : ε} (failed : as.mapM f = .error e) :
    ∃ a ∈ as, f a = .error e := by
  induction as with
  | nil => simp [List.mapM_nil, pure_error] at failed
  | cons a as ih =>
    simp only [List.mapM_cons, bind_error, pure_error, and_false, exists_false, or_false] at failed
    rcases failed with first | ⟨b, _, later⟩
    · exact ⟨a, List.mem_cons_self, first⟩
    · obtain ⟨c, member, failed⟩ := ih later
      exact ⟨c, List.mem_cons_of_mem _ member, failed⟩

end Outcome
