import Mathlib.Data.List.Basic

/-! A memory of since when something has been so. It is looked at in passes: one that
sees it so notes its own time, unless a time is noted, and one that sees it otherwise
takes the note away; others leave it. -/
namespace Since
variable {σ π τ : Type} {lookup : σ → Option τ} {step : σ → π → σ} {time : π → τ}
  {sees denies : π → Prop}

structure Remembers (lookup : σ → Option τ) (step : σ → π → σ) (time : π → τ)
    (sees denies : π → Prop) : Prop where
  origin : ∀ s p t, lookup (step s p) = some t → lookup s = some t ∨ time p = t ∧ sees p
  kept : ∀ s p t, lookup (step s p) = some t → ¬ denies p

/-- It was seen at the noted time, and no pass since then saw it otherwise. -/
def SeenSince (time : π → τ) (sees denies : π → Prop) (passes : List π) (t : τ) : Prop :=
  ∃ front first back, passes = front ++ first :: back ∧ time first = t ∧ sees first ∧
    ∀ p ∈ first :: back, ¬ denies p

theorem SeenSince.cons {p : π} {passes : List π} {t : τ}
    (seen : SeenSince time sees denies passes t) : SeenSince time sees denies (p :: passes) t := by
  obtain ⟨front, first, back, rfl, noted, saw, since⟩ := seen
  exact ⟨p :: front, first, back, rfl, noted, saw, since⟩

/-- A note found after some passes was there before them and none of them saw
otherwise, or it is of one of them. -/
theorem Remembers.run (remembers : Remembers lookup step time sees denies) {passes : List π} {s : σ}
    {t : τ} (found : lookup (passes.foldl step s) = some t) :
    (lookup s = some t ∧ ∀ p ∈ passes, ¬ denies p) ∨ SeenSince time sees denies passes t := by
  induction passes generalizing s with
  | nil => exact .inl ⟨found, fun _ impossible => absurd impossible List.not_mem_nil⟩
  | cons p rest ih =>
    rcases ih found with ⟨noted, others⟩ | later
    · have notDenied := remembers.kept s p t noted
      have all : ∀ q ∈ p :: rest, ¬ denies q := by
        intro q member
        rcases List.mem_cons.mp member with rfl | inRest
        · exact notDenied
        · exact others q inRest
      rcases remembers.origin s p t noted with before | ⟨now, saw⟩
      · exact .inl ⟨before, all⟩
      · exact .inr ⟨[], p, rest, rfl, now, saw, all⟩
    · exact .inr later.cons

/-- A pass that visits its items one by one remembers what the visits see. -/
theorem Remembers.of_visits {ρ : Type} {visit : ρ → σ → π → σ} {items : ρ → List π} {pass : σ → ρ → σ}
    {clock : ρ → τ} {saw unsaw : ρ → π → Prop} {sees denies : ρ → Prop}
    (visits : ∀ p, Remembers lookup (visit p) (fun _ => clock p) (saw p) (unsaw p))
    (whole : ∀ s p, ∃ s', lookup s' = lookup s ∧
      lookup (pass s p) = lookup ((items p).foldl (visit p) s'))
    (seesIff : ∀ p, (∃ item ∈ items p, saw p item) ↔ sees p)
    (deniesIff : ∀ p, (∃ item ∈ items p, unsaw p item) ↔ denies p)
    (apart : ∀ p, sees p → ¬ denies p) : Remembers lookup pass clock sees denies := by
  have seen (s : σ) (p : ρ) (t : τ) (found : lookup (pass s p) = some t) :
      (lookup s = some t ∧ ¬ denies p) ∨ clock p = t ∧ sees p := by
    obtain ⟨s', same, visited⟩ := whole s p
    rcases (visits p).run (visited.symm.trans found) with ⟨before, others⟩ | seen
    · refine .inl ⟨same.symm.trans before, fun denied => ?_⟩
      obtain ⟨item, listed, isUnseen⟩ := (deniesIff p).mpr denied
      exact others item listed isUnseen
    · obtain ⟨front, first, back, split, noted, isSeen, _⟩ := seen
      refine .inr ⟨noted, (seesIff p).mp ⟨first, ?_, isSeen⟩⟩
      rw [split]
      exact List.mem_append_right _ List.mem_cons_self
  refine ⟨fun s p t found => ?_, fun s p t found => ?_⟩
  · exact (seen s p t found).imp_left (·.1)
  · rcases seen s p t found with ⟨_, notDenied⟩ | ⟨_, isSeen⟩
    · exact notDenied
    · exact apart p isSeen

end Since
