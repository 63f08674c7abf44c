import HomeCore.Accounts.AccountRequests
import HomeCore.TaskList
import HomeCore.Types.UuidText

/-! A person at a display shows a PIN. The test of the lock-out, the comparison with what is
kept of everyone's PIN and the note of a failure are steps of their own, so requests of one
display may pass each other between them. -/
namespace HomeCore

/-- Nanoseconds of a clock that never goes back. -/
abbrev Instant := Nat

def pinMaxFailures : Nat := 5

def pinWindow : Nat := 15 * 60 * 1000000000

/-- How long a PIN's session lasts, in seconds. -/
def pinSessionSecs : Int := 5 * 60

/-- A PIN that was compared, and when its request began. -/
structure PinGuess where
  display : Uuid
  began : Instant
  time : Instant
  right : Bool
  deriving DecidableEq

/-- Where a request of a display is, since it passed the lock-out. -/
inductive PinTask where
  | listing (display : Uuid) (pin : String) (began : Instant)
  | comparing (display : Uuid) (pin : String) (began : Instant) (users : List Account)
  | settling (display : Uuid) (began : Instant) (found : Option Account)
  | done (answer : Except String Claims)
  deriving DecidableEq

structure PinSystem where
  now : Instant
  accounts : AccountStore
  failures : Std.ExtTreeMap String (List Instant)
  tasks : List PinTask
  /-- Every PIN that was compared, the latest first. -/
  guesses : List PinGuess

inductive PinInput where
  | tick (nanos : Nat)
  /-- The accounts change, in whatever way. -/
  | people (accounts : AccountStore)
  | presents (display : Uuid) (pin : String)
  | work (task : Nat)

namespace PinSystem

/-- How many seconds the display must wait, if it must. What is older than the window is
dropped on the way. -/
def lockedOut (failures : Std.ExtTreeMap String (List Instant)) (display : Uuid) (now : Instant) :
    Std.ExtTreeMap String (List Instant) × Option Nat :=
  let recorded := (failures[display.text]?.getD []).filter (now - · < pinWindow)
  let kept := failures.insert display.text recorded
  if recorded.length < pinMaxFailures then (kept, none)
  else (kept, recorded.head?.map fun oldest => max ((pinWindow - (now - oldest)) / 1000000000) 1)

def recordFailure (failures : Std.ExtTreeMap String (List Instant)) (display : Uuid) (began : Instant) :
    Std.ExtTreeMap String (List Instant) :=
  failures.insert display.text (failures[display.text]?.getD [] ++ [began])

def forgetFailures (failures : Std.ExtTreeMap String (List Instant)) (display : Uuid) :
    Std.ExtTreeMap String (List Instant) :=
  failures.erase display.text

/-- The claims of a session that a PIN begins; the clock of claims is another. -/
def pinClaims (wallClock : DateTime) (account : Account) : Claims :=
  { Claims.issueSession wallClock 0 account.toUser none with
    exp := some (seconds wallClock + pinSessionSecs) }

def finish (system : PinSystem) (index : Nat) (answer : Except String Claims) : PinSystem :=
  { system with tasks := system.tasks.set index (.done answer) }

/-- A failure is noted at the time its request began. -/
def refuse (system : PinSystem) (index : Nat) (display : Uuid) (began : Instant) : PinSystem :=
  { system.finish index (.error "that PIN isn't right") with
    failures := recordFailure system.failures display began }

/-- The next step of a request. -/
def advance (hashing : PasswordHashing) (wallClock : DateTime) (system : PinSystem) (index : Nat) :
    PinTask → PinSystem
  | .listing display pin began =>
    { system with
      tasks := system.tasks.set index (.comparing display pin began system.accounts.listUsers) }
  | .comparing display pin began users =>
    if validPin pin then
      let found := whosePin hashing users pin none
      { system with
        tasks := system.tasks.set index (.settling display began found)
        guesses := ⟨display, began, system.now, found.isSome⟩ :: system.guesses }
    else system.refuse index display began
  | .settling display began none => system.refuse index display began
  | .settling display _ (some account) =>
    { system.finish index (.ok (pinClaims wallClock account)) with
      failures := forgetFailures system.failures display }
  | .done answer => system.finish index answer

def step (hashing : PasswordHashing) (wallClock : DateTime) (system : PinSystem) : PinInput → PinSystem
  | .tick nanos => { system with now := system.now + nanos }
  | .people accounts => { system with accounts := accounts }
  | .presents display pin =>
    let tested := lockedOut system.failures display system.now
    match tested.2 with
    | some _ => { system with
        failures := tested.1
        tasks := system.tasks ++ [.done (.error "too many wrong PINs — try again later")] }
    | none => { system with
        failures := tested.1
        tasks := system.tasks ++ [.listing display pin system.now] }
  | .work index => match system.tasks[index]? with
    | none => system
    | some task => system.advance hashing wallClock index task

def start (accounts : AccountStore) : PinSystem := ⟨0, accounts, ∅, [], []⟩

def guessesOf (system : PinSystem) (display : Uuid) : List PinGuess :=
  system.guesses.filter (·.display = display)

/-- Guesses of a display that come in a row within one window, none but the latest of them
right, are no more than may fail. -/
def GuessesBounded (system : PinSystem) : Prop :=
  ∀ display later latest wrong earlier,
    system.guessesOf display = later ++ latest :: (wrong ++ earlier) →
    (∀ guess ∈ wrong, guess.right = false ∧ latest.time - guess.time < pinWindow) →
    wrong.length + 1 ≤ pinMaxFailures

/-- Requests of the display that passed the lock-out with a PIN, and have not noted yet how it
went. -/
def underWay (display : Uuid) : PinTask → Bool
  | .listing other pin _ | .comparing other pin _ _ => other = display && validPin pin
  | .settling other _ _ => other = display
  | .done _ => false

/-- The display's wrong guesses since its last right one. -/
def wrongInARow (system : PinSystem) (display : Uuid) : List PinGuess :=
  (system.guessesOf display).takeWhile (!·.right)

/-- A wrong guess of the last window that the lock-out does not count any more: its request
began before the window. -/
def outdated (system : PinSystem) (display : Uuid) : Bool :=
  (system.wrongInARow display).any fun guess =>
    decide (system.now - guess.time < pinWindow) && decide (pinWindow ≤ system.now - guess.began)

/-- A request passes the lock-out alone, and finds no guess there whose comparison was slow. -/
def spared (system : PinSystem) : PinInput → Bool
  | .presents display pin =>
    !validPin pin || (lockedOut system.failures display system.now).2.isSome ||
      (system.tasks.countP (underWay display) == 0 && !system.outdated display)
  | _ => true

end PinSystem
/-! How often PINs are guessed at a display. The lock-out counts the failures that were noted, by
the time at which their requests began. It bounds the guesses where requests of one display pass
it one after another and no comparison outlasts the window. -/
namespace PinSystem

variable {hashing : PasswordHashing} {wallClock : DateTime} {system next : PinSystem} {display : Uuid}

/-- A failure that is yet to be noted, and will count at the time. -/
def owes (display : Uuid) (later : Instant) : PinTask → Bool
  | .settling other began none => other = display && decide (later - began < pinWindow)
  | _ => false

/-- A request of the display whose PIN is yet to be compared. -/
def undecided (display : Uuid) : PinTask → Bool
  | .listing other pin _ | .comparing other pin _ _ => other = display && validPin pin
  | _ => false

/-- A request of the display that found whose PIN it was. -/
def succeeds (display : Uuid) : PinTask → Bool
  | .settling other _ (some _) => other = display
  | _ => false

def failuresOf (system : PinSystem) (display : Uuid) : List Instant :=
  system.failures[display.text]?.getD []

/-- What the lock-out knows of the guesses: each is noted or about to be, and whoever is yet to
guess has passed it with room for one more. -/
structure Noted (system : PinSystem) : Prop where
  alone : ∀ display, system.tasks.countP (underWay display) ≤ 1
  noted : ∀ display later, system.now ≤ later →
    (system.wrongInARow display).countP (later - ·.began < pinWindow) ≤
      (system.failuresOf display).countP (later - · < pinWindow) +
        system.tasks.countP (owes display later)
  cleared : ∀ display, 0 < system.tasks.countP (succeeds display) → system.wrongInARow display = []
  room : ∀ display, 0 < system.tasks.countP (undecided display) →
    (system.wrongInARow display).countP (system.now - ·.time < pinWindow) < pinMaxFailures
  bounded : system.GuessesBounded

theorem undecided_succeeds_le (display : Uuid) (tasks : List PinTask) :
    tasks.countP (undecided display) + tasks.countP (succeeds display) ≤
      tasks.countP (underWay display) := by
  induction tasks with
  | nil => exact Nat.le_refl _
  | cons task rest ih =>
    rw [List.countP_cons, List.countP_cons, List.countP_cons]
    have atMost : (if undecided display task then 1 else 0) + (if succeeds display task then 1 else 0) ≤
        if underWay display task then 1 else 0 := by
      cases task with
      | listing other pin began => simp [undecided, succeeds, underWay]
      | comparing other pin began users => simp [undecided, succeeds, underWay]
      | settling other began found => cases found <;> simp [undecided, succeeds, underWay]
      | done answer => simp [undecided, succeeds, underWay]
    omega

theorem owes_underWay {later : Instant} {task : PinTask} (owed : owes display later task = true) :
    underWay display task = true := by
  cases task with
  | settling other began found =>
    cases found with
    | none =>
      rw [owes, Bool.and_eq_true] at owed
      exact owed.1
    | some account => cases owed
  | listing other pin began => cases owed
  | comparing other pin began users => cases owed
  | done answer => cases owed

section LockOut
variable {failures : Std.ExtTreeMap String (List Instant)} {now later : Instant} {other : Uuid}

/-- What the lock-out drops would not count later either. -/
theorem lockedOut_kept (passed : now ≤ later) :
    ((lockedOut failures display now).1[other.text]?.getD []).countP (later - · < pinWindow) =
      (failures[other.text]?.getD []).countP (later - · < pinWindow) := by
  have kept : (lockedOut failures display now).1 = failures.insert display.text
      ((failures[display.text]?.getD []).filter (now - · < pinWindow)) := by
    simp only [lockedOut]
    split <;> rfl
  rw [kept, Std.ExtTreeMap.getElem?_insert]
  by_cases same : display = other
  · subst same
    rw [if_pos Std.ReflCmp.compare_self, Option.getD_some, List.countP_filter]
    refine List.countP_congr fun failed _ => ?_
    simp only [Bool.and_eq_true, decide_eq_true_eq, and_iff_left_iff_imp]
    intro counts
    exact Nat.lt_of_le_of_lt (Nat.sub_le_sub_right passed _) counts
  · rw [if_neg fun text => same (Uuid.text_injective (Std.compare_eq_iff_eq.mp text))]

theorem lockedOut_room (passes : (lockedOut failures display now).2 = none) :
    (failures[display.text]?.getD []).countP (now - · < pinWindow) < pinMaxFailures := by
  rw [List.countP_eq_length_filter]
  simp only [lockedOut] at passes
  split at passes
  · assumption
  · rename_i notFewer
    have nothing : (failures[display.text]?.getD []).filter (now - · < pinWindow) = [] := by
      simpa using passes
    rw [nothing] at notFewer
    exact absurd (by decide) notFewer

theorem recordFailure_counts (began : Instant) :
    ((recordFailure failures display began)[other.text]?.getD []).countP (later - · < pinWindow) =
      (failures[other.text]?.getD []).countP (later - · < pinWindow) +
        if display = other ∧ later - began < pinWindow then 1 else 0 := by
  rw [recordFailure, Std.ExtTreeMap.getElem?_insert]
  by_cases same : display = other
  · subst same
    rw [if_pos Std.ReflCmp.compare_self, Option.getD_some, List.countP_append, List.countP_singleton]
    simp
  · rw [if_neg fun text => same (Uuid.text_injective (Std.compare_eq_iff_eq.mp text)),
      if_neg fun both => same both.1, Nat.add_zero]

end LockOut

/-- Wrong guesses in a row within the window are among those since the last right one. -/
theorem length_le_recent {guesses wrong earlier : List PinGuess} {now : Instant}
    (split : guesses = wrong ++ earlier)
    (areWrong : ∀ guess ∈ wrong, guess.right = false ∧ now - guess.time < pinWindow) :
    wrong.length ≤ (guesses.takeWhile (!·.right)).countP (now - ·.time < pinWindow) := by
  have allWrong : ∀ guess ∈ wrong, (!guess.right) = true := by
    intro guess member
    rw [(areWrong guess member).1, Bool.not_false]
  rw [split, List.takeWhile_append_of_pos allWrong, List.countP_append]
  have counted : wrong.countP (fun guess => decide (now - guess.time < pinWindow)) = wrong.length := by
    refine List.countP_eq_length.mpr fun guess member => ?_
    exact decide_eq_true (areWrong guess member).2
  rw [counted]
  exact Nat.le_add_right _ _

/-- A step by which no guess is made and no request is added: what was known of the guesses is
still known. -/
theorem Noted.quiet (noted : Noted system) (sameNow : next.now = system.now)
    (sameGuesses : next.guesses = system.guesses)
    (underWays : ∀ display,
      next.tasks.countP (underWay display) ≤ system.tasks.countP (underWay display))
    (undecideds : ∀ display,
      next.tasks.countP (undecided display) ≤ system.tasks.countP (undecided display))
    (successes : ∀ display,
      next.tasks.countP (succeeds display) ≤ system.tasks.countP (succeeds display))
    (known : ∀ display later, system.now ≤ later → system.wrongInARow display = [] ∨
      (system.failuresOf display).countP (later - · < pinWindow) +
          system.tasks.countP (owes display later) ≤
        (next.failuresOf display).countP (later - · < pinWindow) +
          next.tasks.countP (owes display later)) : Noted next := by
  have sameRow : ∀ display, next.wrongInARow display = system.wrongInARow display := by
    intro display
    rw [wrongInARow, wrongInARow, guessesOf, guessesOf, sameGuesses]
  constructor
  case alone => exact fun display => Nat.le_trans (underWays display) (noted.alone display)
  case noted =>
    intro display later passed
    rw [sameRow]
    rw [sameNow] at passed
    rcases known display later passed with nothing | more
    · rw [nothing]
      exact Nat.zero_le _
    · exact Nat.le_trans (noted.noted display later passed) more
  case cleared =>
    intro display positive
    rw [sameRow]
    exact noted.cleared display (Nat.lt_of_lt_of_le positive (successes display))
  case room =>
    intro display positive
    rw [sameRow, sameNow]
    exact noted.room display (Nat.lt_of_lt_of_le positive (undecideds display))
  case bounded =>
    intro display
    rw [guessesOf, sameGuesses]
    exact noted.bounded display

section Work
variable {index : Nat} {task : PinTask}

/-- A step of one request by which no guess is made. -/
theorem Noted.moved (noted : Noted system) (was : system.tasks[index]? = some task) {after : PinTask}
    (sameNow : next.now = system.now) (sameGuesses : next.guesses = system.guesses)
    (tasksAre : next.tasks = system.tasks.set index after)
    (underWays : ∀ display, underWay display after = true → underWay display task = true)
    (undecideds : ∀ display, undecided display after = true → undecided display task = true)
    (successes : ∀ display, succeeds display after = true → succeeds display task = true)
    (known : ∀ display later, system.now ≤ later → system.wrongInARow display = [] ∨
      (system.failuresOf display).countP (later - · < pinWindow) +
          (if owes display later task then 1 else 0) ≤
        (next.failuresOf display).countP (later - · < pinWindow) +
          (if owes display later after then 1 else 0)) : Noted next := by
  refine noted.quiet sameNow sameGuesses ?_ ?_ ?_ fun display later passed => ?_
  · intro display
    rw [tasksAre]
    exact TaskList.countP_set_le was (underWays display)
  · intro display
    rw [tasksAre]
    exact TaskList.countP_set_le was (undecideds display)
  · intro display
    rw [tasksAre]
    exact TaskList.countP_set_le was (successes display)
  · refine (known display later passed).imp_right fun more => ?_
    have sum : (system.tasks.set index after).countP (owes display later) + _ = _ :=
      TaskList.countP_set_add was
    rw [tasksAre]
    omega

theorem Noted.refused (noted : Noted system) (was : system.tasks[index]? = some task) {began : Instant}
    (owed : ∀ other later, owes other later task = true →
      display = other ∧ later - began < pinWindow) :
    Noted (system.refuse index display began) := by
  refine noted.moved was rfl rfl rfl (fun other => nofun) (fun other => nofun) (fun other => nofun)
    fun other later passed => .inr ?_
  have counts : ((system.refuse index display began).failuresOf other).countP (later - · < pinWindow) =
      (system.failuresOf other).countP (later - · < pinWindow) +
        if display = other ∧ later - began < pinWindow then 1 else 0 :=
    recordFailure_counts began
  rw [counts]
  by_cases owing : owes other later task = true
  · rw [if_pos owing, if_pos (owed other later owing)]
    exact Nat.le_add_right _ _
  · rw [if_neg owing, Nat.add_assoc]
    exact Nat.le_add_right _ _

section Made
variable {began : Instant} {found : Option Account}
  (made : next.guesses = ⟨display, began, system.now, found.isSome⟩ :: system.guesses)
include made

theorem guessesOf_made :
    next.guessesOf display =
      ⟨display, began, system.now, found.isSome⟩ :: system.guessesOf display := by
  simp [guessesOf, made]

theorem guessesOf_made_other {other : Uuid} (apart : display ≠ other) :
    next.guessesOf other = system.guessesOf other := by
  simp [guessesOf, made, apart]

theorem wrongInARow_made_right (isRight : found.isSome = true) : next.wrongInARow display = [] := by
  rw [wrongInARow, guessesOf_made made, List.takeWhile_cons_of_neg (by simp [isRight])]

theorem wrongInARow_made_wrong (isWrong : found.isSome = false) :
    next.wrongInARow display =
      ⟨display, began, system.now, found.isSome⟩ :: system.wrongInARow display := by
  rw [wrongInARow, guessesOf_made made, List.takeWhile_cons_of_pos (by simp [isWrong]), wrongInARow]

theorem wrongInARow_made_other {other : Uuid} (apart : display ≠ other) :
    next.wrongInARow other = system.wrongInARow other := by
  rw [wrongInARow, guessesOf_made_other made apart, wrongInARow]

/-- A PIN is compared: the request had passed with room for one more guess, and was alone. -/
theorem Noted.compared (noted : Noted system) (was : system.tasks[index]? = some task)
    (sameNow : next.now = system.now) (sameFailures : next.failures = system.failures)
    (tasksAre : next.tasks = system.tasks.set index (.settling display began found))
    (guessing : undecided display task = true)
    (others : ∀ other, display ≠ other → undecided other task = false)
    (unowed : ∀ other later, owes other later task = false) : Noted next := by
  have isUnderWay : underWay display task = true := by
    cases task with
    | listing other pin _ => exact guessing
    | comparing other pin _ users => exact guessing
    | settling other _ _ => cases guessing
    | done answer => cases guessing
  have isAlone := noted.alone display
  have together := undecided_succeeds_le display system.tasks
  have sumUndecided : (system.tasks.set index (PinTask.settling display began found)).countP
      (undecided display) + 1 ≤ system.tasks.countP (undecided display) :=
    TaskList.countP_set_lt was guessing rfl
  have room := noted.room display (by omega)
  have sumOwes : ∀ other later, next.tasks.countP (owes other later) =
      system.tasks.countP (owes other later) +
        if owes other later (.settling display began found) then 1 else 0 := by
    intro other later
    rw [tasksAre]
    have sum : (system.tasks.set index (PinTask.settling display began found)).countP
        (owes other later) + _ = _ := TaskList.countP_set_add was
    rw [unowed other later, if_neg Bool.false_ne_true, Nat.add_zero] at sum
    exact sum
  constructor
  case alone =>
    intro other
    rw [tasksAre]
    refine Nat.le_trans (TaskList.countP_set_le was fun counted => ?_) (noted.alone other)
    obtain rfl : display = other := of_decide_eq_true counted
    exact isUnderWay
  case noted =>
    intro other later passed
    rw [sameNow] at passed
    have before := noted.noted other later passed
    rw [sumOwes, failuresOf, sameFailures]
    rw [failuresOf] at before
    by_cases same : display = other
    · subst same
      cases foundIs : found.isSome with
      | true =>
        rw [wrongInARow_made_right made foundIs]
        exact Nat.zero_le _
      | false =>
        obtain rfl : found = none := by simpa using foundIs
        rw [wrongInARow_made_wrong made rfl, List.countP_cons]
        simp only [owes, decide_true, Bool.true_and]
        omega
    · rw [wrongInARow_made_other made same]
      omega
  case cleared =>
    intro other positive
    by_cases same : display = other
    · subst same
      cases foundIs : found.isSome with
      | true => exact wrongInARow_made_right made foundIs
      | false =>
        -- nobody else of the display is on its way
        obtain rfl : found = none := by simpa using foundIs
        have kept : (system.tasks.set index (PinTask.settling display began none)).countP
            (succeeds display) ≤ system.tasks.countP (succeeds display) :=
          TaskList.countP_set_le was nofun
        rw [tasksAre] at positive
        omega
    · rw [wrongInARow_made_other made same]
      rw [tasksAre] at positive
      refine noted.cleared other (Nat.lt_of_lt_of_le positive (TaskList.countP_set_le was fun counted => ?_))
      cases found with
      | none => cases counted
      | some account => exact absurd (of_decide_eq_true counted) same
  case room =>
    intro other positive
    rw [tasksAre] at positive
    by_cases same : display = other
    · subst same
      omega
    · rw [wrongInARow_made_other made same, sameNow]
      exact noted.room other (Nat.lt_of_lt_of_le positive (TaskList.countP_set_le was nofun))
  case bounded =>
    intro other later latest wrong earlier split areWrong
    by_cases same : display = other
    · subst same
      rw [guessesOf_made made] at split
      cases later with
      | nil =>
        -- the new guess is the latest, and its request had room
        rw [List.nil_append, List.cons.injEq] at split
        obtain ⟨rfl, before⟩ := split
        exact Nat.lt_of_le_of_lt (length_le_recent before areWrong) room
      | cons newest later =>
        rw [List.cons_append, List.cons.injEq] at split
        exact noted.bounded display later latest wrong earlier split.2 areWrong
    · rw [guessesOf_made_other made same] at split
      exact noted.bounded other later latest wrong earlier split areWrong

end Made

theorem advance_noted (noted : Noted system) (was : system.tasks[index]? = some task) :
    Noted (system.advance hashing wallClock index task) := by
  cases task with
  | listing display pin began =>
    exact noted.moved was rfl rfl rfl (fun _ counted => counted) (fun _ counted => counted)
      (fun _ counted => counted) fun other later passed => .inr (Nat.le_refl _)
  | comparing display pin began users =>
    simp only [advance]
    by_cases isValid : validPin pin = true
    · rw [if_pos isValid]
      refine noted.compared rfl was rfl rfl rfl (by simp [undecided, isValid]) ?_ fun _ _ => rfl
      intro other apart
      simp [undecided, apart]
    · rw [if_neg isValid]
      exact noted.refused was nofun
  | settling display began found =>
    cases found with
    | none =>
      refine noted.refused was fun other later owed => ?_
      simpa [owes] using owed
    | some account =>
      refine noted.moved was rfl rfl rfl (fun _ => nofun) (fun _ => nofun) (fun _ => nofun)
        fun other later passed => ?_
      by_cases same : display = other
      · subst same
        have succeeded : 0 < system.tasks.countP (succeeds display) :=
          List.countP_pos_iff.mpr ⟨_, List.mem_of_getElem? was, decide_eq_true rfl⟩
        exact .inl (noted.cleared display succeeded)
      · refine .inr (Nat.le_of_eq ?_)
        have kept : (forgetFailures system.failures display)[other.text]? =
            system.failures[other.text]? := by
          rw [forgetFailures, Std.ExtTreeMap.getElem?_erase,
            if_neg fun text => same (Uuid.text_injective (Std.compare_eq_iff_eq.mp text))]
        simp only [failuresOf, advance, kept]
        rfl
  | done answer =>
    exact noted.moved was rfl rfl rfl (fun _ => nofun) (fun _ => nofun) (fun _ => nofun)
      fun other later passed => .inr (Nat.le_refl _)

end Work

theorem Noted.tick (noted : Noted system) (nanos : Nat) :
    Noted { system with now := system.now + nanos } := by
  refine { noted with
    noted := fun display later passed => ?_
    room := fun display positive => ?_ }
  · exact noted.noted display later (Nat.le_trans (Nat.le_add_right _ _) passed)
  · refine Nat.lt_of_le_of_lt (List.countP_mono_left fun guess _ inWindow => ?_)
      (noted.room display positive)
    rw [decide_eq_true_eq] at inWindow ⊢
    exact Nat.lt_of_le_of_lt (Nat.sub_le_sub_right (Nat.le_add_right _ _) _) inWindow

/-- Whoever passes the lock-out alone has room for a guess: every wrong one of the last window
was noted, and is counted. -/
theorem Noted.roomy (noted : Noted system)
    (passes : (lockedOut system.failures display system.now).2 = none)
    (nobody : system.tasks.countP (underWay display) = 0) (counted : system.outdated display = false) :
    (system.wrongInARow display).countP (system.now - ·.time < pinWindow) < pinMaxFailures := by
  have unowed : system.tasks.countP (owes display system.now) = 0 := by
    refine Nat.le_zero.mp (Nat.le_trans (List.countP_mono_left fun task _ owed => ?_) (Nat.le_of_eq nobody))
    exact owes_underWay owed
  calc (system.wrongInARow display).countP (system.now - ·.time < pinWindow)
      ≤ (system.wrongInARow display).countP (system.now - ·.began < pinWindow) := by
        refine List.countP_mono_left fun guess member recent => ?_
        have still := List.any_eq_false.mp counted guess member
        rw [recent, Bool.true_and, decide_eq_true_eq, Nat.not_le] at still
        exact decide_eq_true still
    _ ≤ (system.failuresOf display).countP (system.now - · < pinWindow) := by
        have known := noted.noted display system.now (Nat.le_refl _)
        rwa [unowed, Nat.add_zero] at known
    _ < pinMaxFailures := lockedOut_room passes

theorem Noted.presented (noted : Noted system) {pin : String}
    (spare : system.spared (.presents display pin) = true) :
    Noted (system.step hashing wallClock (.presents display pin)) := by
  have known : ∀ (added : PinTask) other later, system.now ≤ later →
      owes other later added = false →
      ((lockedOut system.failures display system.now).1[other.text]?.getD []).countP
          (later - · < pinWindow) + (system.tasks ++ [added]).countP (owes other later) =
        (system.failuresOf other).countP (later - · < pinWindow) +
          system.tasks.countP (owes other later) := by
    intro added other later passed unowed
    rw [lockedOut_kept passed, List.countP_append, List.countP_singleton, unowed]
    rfl
  simp only [step]
  cases tested : (lockedOut system.failures display system.now).2 with
  | some wait =>
    refine noted.quiet rfl rfl ?_ ?_ ?_ fun other later passed =>
      .inr (Nat.le_of_eq (known _ other later passed rfl).symm)
    all_goals
      intro other
      rw [List.countP_append]
      exact Nat.le_refl _
  | none =>
    by_cases isValid : validPin pin = true
    · simp only [spared, tested, isValid, Bool.not_true, Option.isSome_none, Bool.false_or,
        Bool.and_eq_true, beq_iff_eq, Bool.not_eq_true'] at spare
      obtain ⟨nobody, counted⟩ := spare
      constructor
      case alone =>
        intro other
        have before := noted.alone other
        rw [List.countP_append, List.countP_singleton]
        by_cases same : display = other
        · subst same
          rw [nobody]
          split <;> omega
        · simpa [underWay, same] using before
      case noted =>
        intro other later passed
        have before := noted.noted other later passed
        rw [← known (.listing display pin system.now) other later passed rfl] at before
        exact before
      case cleared =>
        intro other positive
        refine noted.cleared other ?_
        rwa [List.countP_append, List.countP_singleton] at positive
      case room =>
        intro other positive
        by_cases same : display = other
        · subst same
          exact noted.roomy tested nobody counted
        · refine noted.room other ?_
          rw [List.countP_append, List.countP_singleton] at positive
          simpa [undecided, same] using positive
      case bounded => exact noted.bounded
    · refine noted.quiet rfl rfl ?_ ?_ ?_ fun other later passed =>
        .inr (Nat.le_of_eq (known _ other later passed rfl).symm)
      all_goals
        intro other
        rw [List.countP_append, List.countP_singleton]
        simp [underWay, undecided, succeeds, isValid]

theorem step_noted (noted : Noted system) (input : PinInput) (spare : system.spared input = true) :
    Noted (system.step hashing wallClock input) := by
  cases input with
  | tick nanos => exact noted.tick nanos
  | people accounts =>
    exact noted.quiet rfl rfl (fun _ => Nat.le_refl _) (fun _ => Nat.le_refl _) (fun _ => Nat.le_refl _)
      fun _ _ _ => .inr (Nat.le_refl _)
  | presents display pin => exact noted.presented spare
  | work index =>
    simp only [step]
    cases was : system.tasks[index]? with
    | none => exact noted
    | some task => exact advance_noted noted was

/-- In every interleaving in which requests of a display pass the lock-out one after another,
and no comparison outlasts the window, guesses are bounded. -/
theorem pin_guesses_bounded (hashing : PasswordHashing) (wallClock : DateTime) (accounts : AccountStore)
    (inputs : List PinInput)
    (spare : Runs.EachStep (step hashing wallClock) (fun system input => system.spared input = true)
      (start accounts) inputs) :
    Runs.Always (step hashing wallClock) GuessesBounded (start accounts) inputs := by
  have begun : Noted (start accounts) := by
    constructor
    case alone => exact fun display => Nat.zero_le _
    case noted => exact fun display later passed => Nat.zero_le _
    case cleared => exact fun display positive => absurd positive (Nat.lt_irrefl 0)
    case room => exact fun display positive => absurd positive (Nat.lt_irrefl 0)
    case bounded =>
      intro display later latest wrong earlier split
      exact absurd split.symm (by simp [guessesOf, start])
  have always : Runs.Always (step hashing wallClock) Noted (start accounts) inputs :=
    Runs.invariant Noted (fun system input noted safe => step_noted noted input safe) begun spare
  exact always.mono fun system noted => noted.bounded

/-- Nothing verifies: every PIN is wrong. -/
def deafHashing : PasswordHashing where
  hashPassword _ text := text
  hashPin _ text := text
  verify _ _ := false

/-- A wrong PIN, a second after the last request. -/
def wrongPin (task : Nat) : List PinInput :=
  [.tick 1000000000, .presents ⟨3⟩ "1234", .work task, .work task, .work task]

/-- Five wrong PINs one after another, a sixth that the display is locked out of, and a seventh
once the first has left the window. -/
def sevenGuesses : List PinInput :=
  (List.range 6).flatMap wrongPin ++ .tick pinWindow :: wrongPin 6

def afterSevenGuesses : PinSystem := sevenGuesses.foldl (step deafHashing 0) (start .empty)

theorem seven_guesses_bounded :
    Runs.Always (step deafHashing 0) GuessesBounded (start .empty) sevenGuesses ∧
      afterSevenGuesses.tasks[5]? = some (.done (.error "too many wrong PINs — try again later")) ∧
      afterSevenGuesses.guesses.length = 6 := by
  refine ⟨pin_guesses_bounded deafHashing 0 .empty sevenGuesses ?_, ?_, ?_⟩
  all_goals decide +kernel

/-- Six requests pass the lock-out before any of them has failed. -/
def sixAtOnce : List PinInput :=
  List.replicate 6 (.presents ⟨3⟩ "1234") ++ (List.range 6).map .work ++ (List.range 6).map .work

/-- Six requests one after another. The first is compared for a second, and its failure is noted
at the time it began, so it is the only one that no longer counts when the sixth is tested. -/
def sixInTurn : List PinInput :=
  [.presents ⟨3⟩ "1234", .work 0, .tick 1000000000, .work 0, .work 0, .tick (pinWindow - 5500000000)] ++
    [1, 2, 3, 4].flatMap wrongPin ++ .tick 500000000 ::
      [.presents ⟨3⟩ "1234", .work 5, .work 5, .work 5]

/-- The latest guess of a display is wrong, as are the five before it in the window. -/
def EndsSixTimesWrong (inputs : List PinInput) : Prop :=
  let guesses := (inputs.foldl (step deafHashing 0) (start .empty)).guessesOf ⟨3⟩
  guesses.length = 6 ∧ ∀ guess ∈ guesses.tail,
    guess.right = false ∧ guesses.head?.any (·.time - guess.time < pinWindow)

theorem six_times_wrong {inputs : List PinInput} (six : EndsSixTimesWrong inputs) :
    ¬ Runs.Always (step deafHashing 0) GuessesBounded (start .empty) inputs := by
  intro always
  obtain ⟨length, areWrong⟩ := six
  cases guessesAre : (inputs.foldl (step deafHashing 0) (start .empty)).guessesOf ⟨3⟩ with
  | nil =>
    rw [guessesAre] at length
    cases length
  | cons latest wrong =>
    rw [guessesAre] at length areWrong
    have bounded := always.last ⟨3⟩ [] latest wrong [] (by rw [guessesAre, List.append_nil]; rfl)
      fun guess member => ⟨(areWrong guess member).1, by simpa using (areWrong guess member).2⟩
    rw [List.length_cons] at length
    rw [length] at bounded
    exact absurd bounded (by decide)

theorem six_guesses_compared :
    ¬ Runs.Always (step deafHashing 0) GuessesBounded (start .empty) sixAtOnce ∧
      ¬ Runs.Always (step deafHashing 0) GuessesBounded (start .empty) sixInTurn := by
  constructor
  · exact six_times_wrong ⟨by decide +kernel, by decide +kernel⟩
  · exact six_times_wrong ⟨by decide +kernel, by decide +kernel⟩

end PinSystem
end HomeCore
