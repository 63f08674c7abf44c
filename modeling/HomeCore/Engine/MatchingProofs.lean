import HomeCore.Engine.BrokenProofs

/-! Which rules an event evaluates. The first of a rule's moments that matches decides for the
rule: where that one has to be held first, a later one that matches as well starts nothing. -/
namespace HomeCore.Engine

/-! ## What is wanted -/

section Wanted
variable (wire : Wire) (event : Event)

/-- The trigger matches the event, and nothing has to be held for a time. -/
def matchesAtOnce (trigger : Trigger) : Bool :=
  triggerCheck wire.parseJson trigger event == .matched && (triggerForDuration trigger).isNone

def isWanted (rule : Rule) : Bool := rule.enabled && rule.allTriggers.any (matchesAtOnce wire event)

/-- The rules that the event should evaluate, in order. -/
def wanted (rules : List Rule) : List Rule := rules.filter (isWanted wire event)

/-- The rule is wanted, and the moment found first is not one that starts it. -/
def Suppressed (rule : Rule) : Prop := isWanted wire event rule = true ∧ startedBy wire event rule = false

end Wanted

/-- The firings that were made are of the rules in their order, as far as the first that stops
the chain. -/
structure Evaluates (rules : List Rule) (made : List (Selected × Firing)) : Prop where
  inOrder : made.map (·.1.rule) <+: rules
  untilStopped : ∀ firing ∈ made.dropLast, firing.2.result ≠ .ok true
  orAll : (∀ firing ∈ made, firing.2.result ≠ .ok true) → made.map (·.1.rule) = rules

section Reached
variable (wire : Wire) (texts : Texts) (worldAt : Nat → World) (event : Event)

/-- A wanted rule that the event does not start comes before any rule that stops the chain. -/
def SuppressedReached (k : Nat) (rules : List Rule) : Prop :=
  ∃ before rule after, rules = before ++ rule :: after ∧ Suppressed wire event rule ∧
    ∀ firing ∈ dueFirings texts worldAt k (matchRules wire before event), firing.2.result ≠ .ok true

/-- The event is not one of the engine's own, which name the rule that they are for. -/
def isMatched : Event → Bool
  | .custom _ eventType _ =>
    !(["scheduler_tick", manualRunEvent, "deferred_rule_fire"].contains eventType)
  | _ => true

/-- The rule that an event of the engine's own is for is the only one wanted, or the first one
wanted and it stops the chain. -/
def NamedIsWanted (rules : List Rule) : Prop :=
  match selectRules wire (worldAt 0) rules event with
  | [] => wanted wire event rules = []
  | selected :: _ => wanted wire event rules = [selected.rule] ∨
      (wanted wire event rules).head? = some selected.rule ∧
        (firingOf texts worldAt 0 selected).result = .ok true

end Reached

/-! ## One rule -/

section Rules
variable {wire : Wire} {texts : Texts} {worldAt : Nat → World} {event : Event} {rule : Rule}
  {rules : List Rule} {k : Nat}

theorem isWanted_of_startedBy (started : startedBy wire event rule = true) :
    isWanted wire event rule = true := by
  rw [startedBy, Bool.and_eq_true] at started
  obtain ⟨enabled, atOnce⟩ := started
  cases found : foundTrigger wire event rule with
  | none =>
    rw [found] at atOnce
    cases atOnce
  | some place =>
    rw [found, Option.any_some] at atOnce
    obtain ⟨⟨trigger, index⟩, isFirst, rfl⟩ := Option.map_eq_some_iff.mp found
    have member := List.fst_mem_of_mem_zipIdx (List.mem_of_find?_eq_some isFirst)
    have matched := List.find?_some isFirst
    simp only [Bool.and_eq_true] at matched
    rw [isWanted, enabled, Bool.true_and, List.any_eq_true]
    refine ⟨trigger, member, ?_⟩
    rw [matchesAtOnce, matched.2, Bool.true_and]
    exact atOnce

/-- What a rule adds to the rules that are selected. -/
inductive Selects (wire : Wire) (event : Event) (rule : Rule) : Prop
  | nothing : startedBy wire event rule = false →
      (∀ rest, matchRules wire (rule :: rest) event = matchRules wire rest event) → Selects wire event rule
  | deferred (selected : Selected) : startedBy wire event rule = false → selected.deferred = true →
      (∀ rest, matchRules wire (rule :: rest) event = selected :: matchRules wire rest event) →
      Selects wire event rule
  | atOnce (selected : Selected) : startedBy wire event rule = true → selected.deferred = false →
      selected.rule = rule →
      (∀ rest, matchRules wire (rule :: rest) event = selected :: matchRules wire rest event) →
      Selects wire event rule

theorem selects (wire : Wire) (event : Event) (rule : Rule) : Selects wire event rule := by
  cases enabled : rule.enabled with
  | false =>
    refine .nothing (by rw [startedBy, enabled, Bool.false_and]) fun rest => ?_
    rw [matchRules, matchRules, List.filter_cons_of_neg (by simp [enabled])]
  | true =>
    cases found : foundTrigger wire event rule with
    | none =>
      refine .nothing (by rw [startedBy, found, Option.any_none, Bool.and_false]) fun rest => ?_
      rw [matchRules, matchRules, List.filter_cons_of_pos (by simp [enabled]),
        List.filterMap_cons_none (by rw [found]; rfl)]
    | some place =>
      have adds (rest : List Rule) : matchRules wire (rule :: rest) event =
          ⟨rule, extractTriggerCtx wire event rule place.2 place.1, (triggerForDuration place.2).isSome, .event⟩ ::
            matchRules wire rest event := by
        rw [matchRules, matchRules, List.filter_cons_of_pos (by simp [enabled]),
          List.filterMap_cons_some (by rw [found]; rfl)]
      cases held : triggerForDuration place.2 with
      | none =>
        refine .atOnce _ ?_ ?_ ?_ adds
        · rw [startedBy, enabled, found, Option.any_some, Bool.true_and]
          simp [held]
        · simp [held]
        · rfl
      | some secs =>
        refine .deferred _ ?_ ?_ adds
        · rw [startedBy, enabled, found, Option.any_some, Bool.true_and]
          simp [held]
        · simp [held]

/-- A rule that the event starts is selected, to be fired at once. -/
theorem selected_of_startedBy (member : rule ∈ rules) (started : startedBy wire event rule = true) :
    ∃ selected ∈ matchRules wire rules event, selected.deferred = false := by
  induction rules with
  | nil => cases member
  | cons first rest ih =>
    rcases List.mem_cons.mp member with rfl | later
    · cases selects wire event rule with
      | nothing unstarted _ => rw [started] at unstarted; cases unstarted
      | deferred selected unstarted _ _ => rw [started] at unstarted; cases unstarted
      | atOnce selected _ isNow _ adds => exact ⟨selected, by rw [adds]; exact List.mem_cons_self, isNow⟩
    · obtain ⟨selected, found, isNow⟩ := ih later
      cases selects wire event first with
      | nothing _ adds => exact ⟨selected, by rwa [adds], isNow⟩
      | deferred other _ _ adds => exact ⟨selected, by rw [adds]; exact List.mem_cons_of_mem _ found, isNow⟩
      | atOnce other _ _ _ adds => exact ⟨selected, by rw [adds]; exact List.mem_cons_of_mem _ found, isNow⟩

/-! ## The firings -/

theorem fireLoop_mem {selected : List Selected} {firing : Selected × Firing}
    (member : firing ∈ (fireLoop texts worldAt k selected).1) :
    firing.1 ∈ selected ∧ firing.1.deferred = false := by
  induction selected generalizing k with
  | nil => cases member
  | cons first rest ih =>
    cases active : first.deferred with
    | true =>
      rw [fireLoop, if_pos active] at member
      obtain ⟨found, isNow⟩ := ih member
      exact ⟨List.mem_cons_of_mem first found, isNow⟩
    | false =>
      by_cases goesOn : (firingOf texts worldAt k first).result = .ok false
      · rw [fireLoop_goesOn texts worldAt active goesOn] at member
        rcases List.mem_cons.mp member with rfl | later
        · exact ⟨List.mem_cons_self, active⟩
        · obtain ⟨found, isNow⟩ := ih later
          exact ⟨List.mem_cons_of_mem first found, isNow⟩
      · rw [fireLoop_ends texts worldAt active goesOn, List.mem_singleton] at member
        subst member
        exact ⟨List.mem_cons_self, active⟩

theorem dueFirings_mem {selected : List Selected} {firing : Selected × Firing}
    (member : firing ∈ dueFirings texts worldAt k selected) :
    firing.1 ∈ selected ∧ firing.1.deferred = false := by
  induction selected generalizing k with
  | nil => cases member
  | cons first rest ih =>
    cases active : first.deferred with
    | true =>
      rw [dueFirings, if_pos active] at member
      obtain ⟨found, isNow⟩ := ih member
      exact ⟨List.mem_cons_of_mem first found, isNow⟩
    | false =>
      rw [dueFirings, if_neg (by simp [active])] at member
      split at member
      · rw [List.mem_singleton] at member
        subst member
        exact ⟨List.mem_cons_self, active⟩
      · rcases List.mem_cons.mp member with rfl | later
        · exact ⟨List.mem_cons_self, active⟩
        · obtain ⟨found, isNow⟩ := ih later
          exact ⟨List.mem_cons_of_mem first found, isNow⟩

/-- No firing stops the chain where one more is due that does not, and the others do not. -/
theorem dueFirings_unstopped {first : Selected} {rest : List Selected} (active : first.deferred = false) :
    (∀ firing ∈ dueFirings texts worldAt k (first :: rest), firing.2.result ≠ .ok true) ↔
      (firingOf texts worldAt k first).result ≠ .ok true ∧
        ∀ firing ∈ dueFirings texts worldAt (k + 1) rest, firing.2.result ≠ .ok true := by
  rw [dueFirings, if_neg (by simp [active])]
  split
  next stops => simp [stops]
  next goesOn => simp

theorem suppressedReached_of_suppressed {rest : List Rule} (suppressed : Suppressed wire event rule) :
    SuppressedReached wire texts worldAt event k (rule :: rest) :=
  ⟨[], rule, rest, rfl, suppressed, fun firing member => by cases member⟩

/-- Beyond a rule that is not suppressed, one is reached as far as that rule does not stop. -/
theorem suppressedReached_cons {rest : List Rule} {next : Nat} {goesOn : Prop}
    (unsuppressed : ¬ Suppressed wire event rule)
    (shift : ∀ before,
      (∀ firing ∈ dueFirings texts worldAt k (matchRules wire (rule :: before) event),
        firing.2.result ≠ .ok true) ↔
      goesOn ∧ ∀ firing ∈ dueFirings texts worldAt next (matchRules wire before event),
        firing.2.result ≠ .ok true) :
    SuppressedReached wire texts worldAt event k (rule :: rest) ↔
      goesOn ∧ SuppressedReached wire texts worldAt event next rest := by
  constructor
  · rintro ⟨before, other, after, split, suppressed, unstopped⟩
    cases before with
    | nil =>
      cases split
      exact absurd suppressed unsuppressed
    | cons first before =>
      cases split
      obtain ⟨passes, later⟩ := (shift before).mp unstopped
      exact ⟨passes, before, other, after, rfl, suppressed, later⟩
  · rintro ⟨passes, before, other, after, rfl, suppressed, later⟩
    exact ⟨rule :: before, other, after, rfl, suppressed, (shift before).mpr ⟨passes, later⟩⟩

/-! ## What is evaluated -/

theorem evaluates_nil : Evaluates rules [] ↔ rules = [] := by
  constructor
  · exact fun evaluates => (evaluates.orAll fun firing member => by cases member).symm
  · rintro rfl
    exact ⟨List.prefix_refl [], fun firing member => (by cases member), fun _ => rfl⟩

theorem evaluates_cons {firing : Selected × Firing} {made : List (Selected × Firing)}
    (isRule : firing.1.rule = rule) (goesOn : firing.2.result ≠ .ok true) :
    Evaluates (rule :: rules) (firing :: made) ↔ Evaluates rules made := by
  subst isRule
  constructor
  · intro evaluates
    refine ⟨?_, ?_, ?_⟩
    · exact (List.cons_prefix_cons.mp evaluates.inOrder).2
    · intro other member
      refine evaluates.untilStopped other ?_
      rw [List.dropLast_cons_of_ne_nil (List.ne_nil_of_mem (List.mem_of_mem_dropLast member))]
      exact List.mem_cons_of_mem firing member
    · intro unstopped
      have all := evaluates.orAll (List.forall_mem_cons.mpr ⟨goesOn, unstopped⟩)
      exact (List.cons.inj all).2
  · intro evaluates
    refine ⟨?_, ?_, ?_⟩
    · exact List.cons_prefix_cons.mpr ⟨rfl, evaluates.inOrder⟩
    · intro other member
      cases made with
      | nil => cases member
      | cons next made =>
        rw [List.dropLast_cons_of_ne_nil (List.cons_ne_nil next made)] at member
        rcases List.mem_cons.mp member with rfl | later
        · exact goesOn
        · exact evaluates.untilStopped other later
    · intro unstopped
      rw [List.map_cons, evaluates.orAll (List.forall_mem_cons.mp unstopped).2]

theorem evaluates_stop {firing : Selected × Firing} (isRule : firing.1.rule = rule)
    (stops : firing.2.result = .ok true) : Evaluates (rule :: rules) [firing] := by
  refine ⟨?_, fun other member => (by cases member), fun unstopped => ?_⟩
  · rw [List.map_cons, List.map_nil, isRule]
    exact List.cons_prefix_cons.mpr ⟨rfl, List.nil_prefix⟩
  · exact absurd stops (unstopped firing List.mem_cons_self)

/-- A suppressed rule is not evaluated in its place. -/
theorem not_evaluates_suppressed {made : List (Selected × Firing)} (suppressed : Suppressed wire event rule)
    (started : ∀ firing ∈ made, startedBy wire event firing.1.rule = true) :
    ¬ Evaluates (rule :: rules) made := by
  intro evaluates
  cases made with
  | nil => exact absurd (evaluates_nil.mp evaluates) (List.cons_ne_nil rule rules)
  | cons firing made =>
    have isRule : firing.1.rule = rule := (List.cons_prefix_cons.mp evaluates.inOrder).1
    have isStarted := started firing List.mem_cons_self
    rw [isRule, suppressed.2] at isStarted
    cases isStarted

theorem fireLoop_single {selected : Selected} (active : selected.deferred = false) :
    (fireLoop texts worldAt k [selected]).1 = [(selected, firingOf texts worldAt k selected)] := by
  by_cases goesOn : (firingOf texts worldAt k selected).result = .ok false
  · rw [fireLoop_goesOn texts worldAt active goesOn, fireLoop]
  · exact fireLoop_ends texts worldAt active goesOn

theorem evaluates_single {firing : Selected × Firing} :
    Evaluates rules [firing] ↔ rules = [firing.1.rule] ∨
      rules.head? = some firing.1.rule ∧ firing.2.result = .ok true := by
  constructor
  · intro evaluates
    obtain ⟨rest, rfl⟩ := evaluates.inOrder
    by_cases stops : firing.2.result = .ok true
    · exact .inr ⟨rfl, stops⟩
    · refine .inl (evaluates.orAll fun other member => ?_).symm
      rw [List.mem_singleton.mp member]
      exact stops
  · rintro (rfl | ⟨isFirst, stops⟩)
    · exact ⟨List.prefix_refl _, fun other member => (by cases member), fun _ => rfl⟩
    · obtain ⟨rest, rfl⟩ := List.head?_eq_some_iff.mp isFirst
      exact evaluates_stop rfl stops

/-- After a rule that raises nothing more is wanted exactly if nothing more is suppressed or
due. -/
theorem nothing_wanted_iff :
    wanted wire event rules = [] ↔
      ¬ SuppressedReached wire texts worldAt event k rules ∧
        ¬ ∃ next ∈ matchRules wire rules event, next.deferred = false := by
  constructor
  · intro none
    have unwanted : ∀ rule ∈ rules, ¬ isWanted wire event rule = true := List.filter_eq_nil_iff.mp none
    refine ⟨?_, ?_⟩
    · rintro ⟨before, rule, after, rfl, suppressed, _⟩
      exact unwanted rule (by simp) suppressed.1
    · rintro ⟨next, member, isNow⟩
      obtain ⟨inRules, started⟩ := matchRules_starts member isNow
      exact unwanted next.rule inRules (isWanted_of_startedBy started)
  · rintro ⟨unreached, nothingDue⟩
    refine List.filter_eq_nil_iff.mpr fun rule member isWanted => ?_
    cases started : startedBy wire event rule with
    | true => exact nothingDue (selected_of_startedBy member started)
    | false =>
      obtain ⟨before, after, rfl⟩ := List.append_of_mem member
      refine unreached ⟨before, rule, after, rfl, ⟨isWanted, started⟩, fun firing isDue => ?_⟩
      obtain ⟨inBefore, isNow⟩ := dueFirings_mem isDue
      obtain ⟨inRules, isStarted⟩ := matchRules_starts inBefore isNow
      exact absurd (selected_of_startedBy (List.mem_append_left _ inRules) isStarted) nothingDue

theorem wanted_cons_of_started {rest : List Rule} (started : startedBy wire event rule = true) :
    wanted wire event (rule :: rest) = rule :: wanted wire event rest :=
  List.filter_cons_of_pos (isWanted_of_startedBy started)

theorem wanted_cons_of_unstarted {rest : List Rule} (unsuppressed : ¬ Suppressed wire event rule)
    (unstarted : startedBy wire event rule = false) :
    wanted wire event (rule :: rest) = wanted wire event rest :=
  List.filter_cons_of_neg fun isWanted => unsuppressed ⟨isWanted, unstarted⟩

/-- The match loop and the fire loop evaluate the wanted rules exactly if no suppressed rule is
reached and no failure cuts in. -/
theorem matched_evaluates_iff (k : Nat) (rules : List Rule) :
    Evaluates (wanted wire event rules) (fireLoop texts worldAt k (matchRules wire rules event)).1 ↔
      ¬ SuppressedReached wire texts worldAt event k rules ∧
        ¬ FailureCutsIn texts worldAt k (matchRules wire rules event) := by
  induction rules generalizing k with
  | nil =>
    refine ⟨fun _ => ⟨?_, ?_⟩, fun _ => evaluates_nil.mpr rfl⟩
    · rintro ⟨before, rule, after, split, _⟩
      simp at split
    · rintro ⟨earlier, failing, later, split, _⟩
      simp [matchRules] at split
  | cons rule rest ih =>
    by_cases suppressed : Suppressed wire event rule
    · have unevaluated : ¬ Evaluates (wanted wire event (rule :: rest))
          (fireLoop texts worldAt k (matchRules wire (rule :: rest) event)).1 := by
        rw [wanted, List.filter_cons_of_pos suppressed.1]
        refine not_evaluates_suppressed suppressed fun firing member => ?_
        obtain ⟨isSelected, isNow⟩ := fireLoop_mem member
        exact (matchRules_starts isSelected isNow).2
      exact ⟨fun evaluates => absurd evaluates unevaluated,
        fun calm => absurd (suppressedReached_of_suppressed suppressed) calm.1⟩
    · cases selects wire event rule with
      | nothing unstarted adds =>
        have reached : SuppressedReached wire texts worldAt event k (rule :: rest) ↔
            True ∧ SuppressedReached wire texts worldAt event k rest :=
          suppressedReached_cons suppressed fun before => by rw [adds, true_and]
        rw [wanted_cons_of_unstarted suppressed unstarted, adds, reached, true_and]
        exact ih k
      | deferred selected unstarted isDeferred adds =>
        have reached : SuppressedReached wire texts worldAt event k (rule :: rest) ↔
            True ∧ SuppressedReached wire texts worldAt event (k + 1) rest :=
          suppressedReached_cons suppressed fun before => by
            rw [adds, dueFirings, if_pos isDeferred, true_and]
        have cutsIn := failureCutsIn_cons texts worldAt k selected (matchRules wire rest event)
        simp only [isDeferred, Bool.true_eq_false, false_and, false_or, false_implies, true_and] at cutsIn
        rw [wanted_cons_of_unstarted suppressed unstarted, adds, reached, true_and, cutsIn, fireLoop,
          if_pos isDeferred]
        exact ih (k + 1)
      | atOnce selected started isNow isRule adds =>
        have reached : SuppressedReached wire texts worldAt event k (rule :: rest) ↔
            (firingOf texts worldAt k selected).result ≠ .ok true ∧
              SuppressedReached wire texts worldAt event (k + 1) rest :=
          suppressedReached_cons suppressed fun before => by rw [adds, dueFirings_unstopped isNow]
        have cutsIn := failureCutsIn_cons texts worldAt k selected (matchRules wire rest event)
        have raises := fire_raises texts (worldAt k) selected.rule selected.tctx selected.run
        change (∃ failure, (firingOf texts worldAt k selected).result = _) ↔ _ at raises
        rw [← raises] at cutsIn
        rw [wanted_cons_of_started started, adds, reached, cutsIn]
        cases result : (firingOf texts worldAt k selected).result with
        | error failure =>
          have goesOn : (firingOf texts worldAt k selected).result ≠ .ok true := by simp [result]
          rw [fireLoop_ends texts worldAt isNow (by simp [result]),
            @evaluates_cons rule _ (selected, firingOf texts worldAt k selected) _ isRule goesOn,
            evaluates_nil, @nothing_wanted_iff wire texts worldAt event rest (k + 1)]
          constructor
          · rintro ⟨unreached, nothingDue⟩
            refine ⟨fun reaches => unreached reaches.2, ?_⟩
            rintro (⟨_, _, due⟩ | ⟨_, earlier, failing, later, split, active, _⟩)
            · exact nothingDue due
            · exact nothingDue ⟨failing, by rw [split]; simp, active⟩
          · rintro ⟨unreached, unfailing⟩
            exact ⟨fun reaches => unreached ⟨by simp, reaches⟩,
              fun due => unfailing (.inl ⟨isNow, ⟨failure, rfl⟩, due⟩)⟩
        | ok stops =>
          cases stops with
          | true =>
            rw [fireLoop_ends texts worldAt isNow (by simp [result])]
            refine ⟨fun _ => ⟨fun reaches => reaches.1 rfl, ?_⟩,
              fun _ => evaluates_stop isRule result⟩
            rintro (⟨_, ⟨failure, raised⟩, _⟩ | ⟨unstopped, _⟩)
            · cases raised
            · exact unstopped isNow rfl
          | false =>
            have goesOn : (firingOf texts worldAt k selected).result ≠ .ok true := by simp [result]
            rw [fireLoop_goesOn texts worldAt isNow result,
              @evaluates_cons rule _ (selected, firingOf texts worldAt k selected) _ isRule goesOn, ih]
            simp

end Rules

/-! ## Every event -/

section Events
variable (wire : Wire) (texts : Texts) (worldAt : Nat → World)

/-- A rule that is selected by its name is fired at once. -/
inductive AtMostOne : List Selected → Prop
  | nothing : AtMostOne []
  | one (selected : Selected) : selected.deferred = false → AtMostOne [selected]

/-- An event of the engine's own selects the rule that it names, if any. -/
theorem named_selected (world : World) (rules : List Rule) {event : Event} (own : isMatched event = false) :
    AtMostOne (selectRules wire world rules event) := by
  cases event with
  | custom seq eventType payload =>
    rw [selectRules]
    split
    · rw [schedulerTick]
      split
      · exact .nothing
      · exact .one _ rfl
    split
    · rw [manualFire]
      split
      · exact .nothing
      · exact .one _ rfl
    split
    · rw [deferredFire]
      split
      · exact .nothing
      · rw [recheck]
        split
        · exact .nothing
        · dsimp only
          split
          · exact .one _ rfl
          · exact .nothing
    · next noTick noManual noDeferred =>
      simp [isMatched, noTick, noManual, noDeferred] at own
  | _ => cases own

theorem matched_selected (world : World) (rules : List Rule) {event : Event} (isOther : isMatched event = true) :
    selectRules wire world rules event = matchRules wire rules event := by
  cases event with
  | custom seq eventType payload =>
    simp only [isMatched, List.contains_cons, List.contains_nil, Bool.or_false, Bool.not_eq_true',
      Bool.or_eq_false_iff, beq_eq_false_iff_ne] at isOther
    rw [selectRules, if_neg isOther.1, if_neg isOther.2.1, if_neg isOther.2.2]
  | _ => rfl

/-- An event evaluates exactly the enabled rules that have a trigger without a time to be held
that matches it, in order, as far as the first that stops the chain, if and only if, for an event
that is matched, no suppressed rule is reached and no failure cuts in, and, for one of the
engine's own, the rule that it names is the one wanted. -/
theorem evaluates_wanted_iff (rules : List Rule) (event : Event) :
    Evaluates (wanted wire event rules) (handleEvent wire texts worldAt rules event).1 ↔
      if isMatched event then
        ¬ SuppressedReached wire texts worldAt event 0 rules ∧
          ¬ FailureCutsIn texts worldAt 0 (matchRules wire rules event)
      else NamedIsWanted wire texts worldAt event rules := by
  rw [handleEvent]
  cases isOther : isMatched event with
  | true =>
    rw [if_pos rfl, matched_selected wire (worldAt 0) rules isOther]
    exact matched_evaluates_iff 0 rules
  | false =>
    rw [if_neg Bool.false_ne_true, NamedIsWanted]
    have one := named_selected wire (worldAt 0) rules isOther
    generalize selectRules wire (worldAt 0) rules event = selected at one ⊢
    cases one with
    | nothing => exact evaluates_nil
    | one selected active =>
      rw [fireLoop_single active]
      exact evaluates_single

end Events

/-- The lamp is to be on for a minute, or just to change. -/
def heldThenChanged : Rule :=
  let lamp (secs : Option Nat) : Trigger :=
    .deviceStateChanged "lamp" [] none none none none none secs none none
  { Rule.minimal ⟨1⟩ (lamp (some 60)) [] with triggers := [lamp (some 60), lamp none] }

theorem held_moment_suppresses :
    let wire : Wire := ⟨fun _ => none, fun _ => none, fun _ => none, fun _ => .null⟩
    let texts : Texts := ⟨fun _ => "", fun _ => "", fun _ => "", fun _ => "", id⟩
    let event := Event.deviceStateChanged 0 "lamp" none ∅ ∅ [] (.unknown 0)
    (wanted wire event [heldThenChanged]).map (·.id) = [⟨1⟩] ∧
      (handleEvent wire texts (fun _ => quietWorld) [heldThenChanged] event).1.map (·.1.rule.id) = [] ∧
      ¬ Evaluates (wanted wire event [heldThenChanged])
        (handleEvent wire texts (fun _ => quietWorld) [heldThenChanged] event).1 := by
  intro wire texts event
  have isWanted : (wanted wire event [heldThenChanged]).map (·.id) = [⟨1⟩] := by decide
  have nothing : (handleEvent wire texts (fun _ => quietWorld) [heldThenChanged] event).1.map (·.1.rule.id) = [] := by
    decide
  refine ⟨isWanted, nothing, fun evaluates => ?_⟩
  rw [List.map_eq_nil_iff.mp nothing, evaluates_nil] at evaluates
  rw [evaluates] at isWanted
  cases isWanted

end HomeCore.Engine
