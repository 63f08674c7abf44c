import Mathlib.Logic.Function.Basic
import HomeCore.Outputs
import HomeCore.Throttle

/-! The limit on how often an address may try to sign in, or to enroll. The map is behind a
lock, so attempts come one after another. Times are nanoseconds of a clock that never goes
back. -/
namespace HomeCore.RateLimit

inductive IpAddr where
  | v4 (bits : BitVec 32)
  | v6 (bits : BitVec 128)
  deriving DecidableEq

def maxAttempts : Nat := 5

def window : Nat := 60 * 1000000000

abbrev Buckets := IpAddr → Option (List Nat)

structure Attempt where
  ip : IpAddr
  now : Nat
  deriving DecidableEq

/-- Addresses that are left with no attempt in the window are dropped. -/
def retained (buckets : Buckets) (now : Nat) : Buckets := fun ip =>
  ((buckets ip).map (List.filter (now - · < window))).filter (!·.isEmpty)

/-- In whole seconds, and one more. -/
def retryAfter (oldest now : Nat) : Nat :=
  min ((window - (now - oldest)) / 1000000000 + 1) (2 ^ 64 - 1)

/-- The map as an attempt leaves it, and the seconds to wait where it is refused. -/
def recordIn (buckets : Buckets) (ip : IpAddr) (now : Nat) : Buckets × Except Nat Unit :=
  let state := retained buckets now
  let entry := (state ip).getD []
  match entry with
  | [] => (Function.update state ip (some [now]), .ok ())
  | oldest :: _ =>
    if maxAttempts ≤ entry.length then
      (Function.update state ip (some entry), .error (retryAfter oldest now))
    else (Function.update state ip (some (entry ++ [now])), .ok ())

/-- No address has tried anything yet. -/
def fresh : Buckets := fun _ => none

def record (buckets : Buckets) (attempt : Attempt) : Buckets :=
  (recordIn buckets attempt.ip attempt.now).1

/-- The answer to an attempt after others. -/
def answer (before : List Attempt) (attempt : Attempt) : Except Nat Unit :=
  (recordIn (before.foldl record fresh) attempt.ip attempt.now).2

def admits (buckets : Buckets) (attempt : Attempt) : List Attempt :=
  match (recordIn buckets attempt.ip attempt.now).2 with
  | .ok () => [attempt]
  | .error _ => []

/-- When the attempts of an address were accepted. -/
def accepted (ip : IpAddr) (attempts : List Attempt) : List Nat :=
  ((Outputs.outputs record admits fresh attempts).filter (·.ip = ip)).map (·.now)

/-- Attempts are made in the order of their times. -/
def InOrder (attempts : List Attempt) : Prop := attempts.Pairwise fun a b => a.now ≤ b.now

structure Exact (attempts : List Attempt) : Prop where
  bounded : ∀ ip start,
    ((accepted ip attempts).filter fun t => start ≤ t ∧ t < start + window).length ≤ maxAttempts
  refusals : ∀ before attempt after secs, attempts = before ++ attempt :: after →
    answer before attempt = .error secs →
    ((accepted attempt.ip before).filter fun t =>
      attempt.now < t + window ∧ t ≤ attempt.now).length = maxAttempts
  waited : ∀ before attempt between next after secs,
    attempts = (before ++ attempt :: between) ++ next :: after →
    answer before attempt = .error secs → (∀ a ∈ between, a.ip ≠ attempt.ip) →
    next.ip = attempt.ip → attempt.now + secs * 1000000000 ≤ next.now →
    answer (before ++ attempt :: between) next = .ok ()
  alone : ∀ before attempt after, attempts = before ++ attempt :: after →
    answer before attempt = answer (before.filter (·.ip = attempt.ip)) attempt

/-! What the limit on attempts comes to over any run of them. For each address the map holds
those of its accepted attempts that count, whatever other addresses do. -/
variable {buckets : Buckets} {ip : IpAddr} {now : Nat} {before after attempts : List Attempt}
  {attempt : Attempt} {secs : Nat}

/-! ## One attempt -/

/-- The attempts of an address that count. -/
def counted (buckets : Buckets) (ip : IpAddr) (now : Nat) : List Nat :=
  Throttle.recent window now ((buckets ip).getD [])

theorem retained_getD : (retained buckets now ip).getD [] = counted buckets ip now := by
  unfold retained counted Throttle.recent
  cases buckets ip with
  | none => rfl
  | some moments =>
    rw [Option.map_some, Option.filter_some, Option.getD_some]
    cases moments.filter (now - · < window) <;> rfl

theorem recordIn_accepts :
    (recordIn buckets ip now).2 = .ok () ↔ (counted buckets ip now).length < maxAttempts := by
  rw [recordIn, retained_getD]
  cases counted buckets ip now with
  | nil => exact iff_of_true rfl (by decide)
  | cons oldest rest =>
    dsimp only
    split
    · next full => exact iff_of_false (by rintro ⟨⟩) (Nat.not_lt.mpr full)
    · next room => exact iff_of_true rfl (Nat.not_le.mp room)

theorem recordIn_refuses (refused : (recordIn buckets ip now).2 = .error secs) :
    maxAttempts ≤ (counted buckets ip now).length ∧
      ∃ oldest rest, counted buckets ip now = oldest :: rest ∧ secs = retryAfter oldest now := by
  rw [recordIn, retained_getD] at refused
  cases entry : counted buckets ip now with
  | nil =>
    rw [entry] at refused
    cases refused
  | cons oldest rest =>
    rw [entry] at refused
    dsimp only at refused
    split at refused
    · next full =>
      cases refused
      exact ⟨full, oldest, rest, rfl, rfl⟩
    · cases refused

theorem recordIn_congr {others : Buckets} (same : counted buckets ip now = counted others ip now) :
    (recordIn buckets ip now).2 = (recordIn others ip now).2 := by
  rw [recordIn, recordIn, retained_getD, retained_getD, same]
  cases counted others ip now with
  | nil => rfl
  | cons oldest rest =>
    dsimp only
    split <;> rfl

/-- An attempt that is accepted joins those of its address that count, and one that is refused
leaves them. -/
theorem recordIn_buckets :
    (recordIn buckets ip now).1 = Function.update (retained buckets now) ip
      (some (counted buckets ip now ++
        if (counted buckets ip now).length < maxAttempts then [now] else [])) := by
  rw [recordIn, retained_getD]
  cases counted buckets ip now with
  | nil => rfl
  | cons oldest rest =>
    dsimp only
    split
    · next full => rw [if_neg (Nat.not_lt.mpr full), List.append_nil]
    · next room => rw [if_pos (Nat.not_le.mp room)]

theorem admits_eq (buckets : Buckets) (attempt : Attempt) : admits buckets attempt =
    if (counted buckets attempt.ip attempt.now).length < maxAttempts then [attempt] else [] := by
  rw [admits]
  cases accepts : (recordIn buckets attempt.ip attempt.now).2 with
  | ok done => rw [if_pos (recordIn_accepts.mp accepts)]
  | error secs => rw [if_neg (Nat.not_lt.mpr (recordIn_refuses accepts).1)]

theorem filter_own (own : attempt.ip = ip) : [attempt].filter (·.ip = ip) = [attempt] :=
  List.filter_eq_self.mpr fun a member => by rw [List.mem_singleton.mp member, own, decide_eq_true rfl]

theorem filter_other (other : attempt.ip ≠ ip) : [attempt].filter (·.ip = ip) = [] :=
  List.filter_eq_nil_iff.mpr fun a member => by rwa [List.mem_singleton.mp member, decide_eq_true_eq]

theorem record_held (buckets : Buckets) (attempt : Attempt) (ip : IpAddr) :
    (record buckets attempt ip).getD [] = counted buckets ip attempt.now ++
      ((admits buckets attempt).filter (·.ip = ip)).map (·.now) := by
  rw [record, recordIn_buckets, admits_eq]
  by_cases own : attempt.ip = ip
  · rw [← own, Function.update_self, Option.getD_some]
    congr 1
    split
    · rw [filter_own rfl, List.map_singleton]
    · rfl
  · rw [Function.update_of_ne (Ne.symm own), retained_getD]
    split
    · rw [filter_other own, List.map_nil, List.append_nil]
    · rw [List.filter_nil, List.map_nil, List.append_nil]

/-! ## Runs of attempts -/

theorem accepted_snoc (ip : IpAddr) (before : List Attempt) (attempt : Attempt) :
    accepted ip (before ++ [attempt]) = accepted ip before ++
      ((admits (before.foldl record fresh) attempt).filter (·.ip = ip)).map (·.now) := by
  unfold accepted
  rw [Outputs.outputs_append, Outputs.outputs, Outputs.outputs, List.append_nil, List.filter_append,
    List.map_append]

theorem mem_accepted {t : Nat} (member : t ∈ accepted ip attempts) :
    ∃ attempt ∈ attempts, attempt.now = t := by
  induction attempts using List.reverseRecOn with
  | nil => cases member
  | append_singleton before attempt ih =>
    rw [accepted_snoc, List.mem_append] at member
    rcases member with earlier | last
    · obtain ⟨a, found, same⟩ := ih earlier
      exact ⟨a, List.mem_append_left _ found, same⟩
    · obtain ⟨a, admitted, same⟩ := List.mem_map.mp last
      rw [admits_eq] at admitted
      have own := (List.mem_filter.mp admitted).1
      split at own
      · obtain rfl := List.mem_singleton.mp own
        exact ⟨a, List.mem_append_right _ (List.mem_singleton.mpr rfl), same⟩
      · cases own

theorem InOrder.front (inOrder : InOrder (before ++ after)) : InOrder before :=
  (List.pairwise_append.mp inOrder).1

theorem InOrder.latest (inOrder : InOrder (before ++ attempt :: after)) :
    ∀ a ∈ before, a.now ≤ attempt.now := fun a member =>
  (List.pairwise_append.mp inOrder).2.2 a member attempt List.mem_cons_self

/-- What counts of an address's attempts is what counts of those that were accepted. -/
theorem counted_eq (inOrder : InOrder before) (latest : ∀ a ∈ before, a.now ≤ now) :
    counted (before.foldl record fresh) ip now = Throttle.recent window now (accepted ip before) := by
  induction before using List.reverseRecOn generalizing now with
  | nil => rfl
  | append_singleton before attempt ih =>
    have earlier := ih inOrder.front inOrder.latest
    have past : attempt.now ≤ now := latest attempt (List.mem_append_right _ List.mem_cons_self)
    rw [counted, List.foldl_append, List.foldl_cons, List.foldl_nil, record_held, accepted_snoc,
      earlier, Throttle.recent_append, Throttle.recent_recent past, Throttle.recent_append]

theorem answer_accepts (inOrder : InOrder (before ++ attempt :: after)) :
    answer before attempt = .ok () ↔
      (Throttle.recent window attempt.now (accepted attempt.ip before)).length < maxAttempts := by
  rw [answer, recordIn_accepts, counted_eq inOrder.front inOrder.latest]

theorem accepted_spaced (inOrder : InOrder attempts) (ip : IpAddr) :
    Throttle.Spaced maxAttempts window (accepted ip attempts) := by
  induction attempts using List.reverseRecOn with
  | nil => exact .nil
  | append_singleton before attempt ih =>
    have spaced := ih inOrder.front
    rw [accepted_snoc, admits_eq, counted_eq inOrder.front inOrder.latest]
    split
    · next room =>
      by_cases own : attempt.ip = ip
      · rw [filter_own own, List.map_singleton]
        refine .snoc spaced ?_ (own ▸ room)
        intro t member
        obtain ⟨a, found, rfl⟩ := mem_accepted member
        exact inOrder.latest a found
      · rw [filter_other own, List.map_nil, List.append_nil]
        exact spaced
    · rw [List.filter_nil, List.map_nil, List.append_nil]
      exact spaced

theorem accepted_latest (inOrder : InOrder (before ++ attempt :: after)) (ip : IpAddr) :
    ∀ t ∈ accepted ip before, t ≤ attempt.now := by
  intro t member
  obtain ⟨a, found, rfl⟩ := mem_accepted member
  exact inOrder.latest a found

/-! ## One address alone -/

/-- What other addresses try makes no difference to what is accepted. -/
theorem accepted_own (inOrder : InOrder attempts) (ip : IpAddr) :
    accepted ip attempts = accepted ip (attempts.filter (·.ip = ip)) := by
  induction attempts using List.reverseRecOn with
  | nil => rfl
  | append_singleton before attempt ih =>
    have same := ih inOrder.front
    rw [List.filter_append, accepted_snoc]
    by_cases own : attempt.ip = ip
    · have ownInOrder : InOrder (before.filter (·.ip = ip)) :=
        inOrder.front.sublist List.filter_sublist
      have ownLatest : ∀ a ∈ before.filter (·.ip = ip), a.now ≤ attempt.now := fun a member =>
        inOrder.latest a (List.mem_filter.mp member).1
      rw [filter_own own, accepted_snoc, admits_eq, admits_eq, counted_eq inOrder.front inOrder.latest,
        counted_eq ownInOrder ownLatest, own, same]
    · rw [filter_other own, List.append_nil, same, admits_eq]
      split
      · rw [filter_other own, List.map_nil, List.append_nil]
      · rw [List.filter_nil, List.map_nil, List.append_nil]

theorem answer_own (inOrder : InOrder (before ++ attempt :: after)) :
    answer before attempt = answer (before.filter (·.ip = attempt.ip)) attempt := by
  have ownInOrder : InOrder (before.filter (·.ip = attempt.ip)) :=
    inOrder.front.sublist List.filter_sublist
  have ownLatest : ∀ a ∈ before.filter (·.ip = attempt.ip), a.now ≤ attempt.now := fun a member =>
    inOrder.latest a (List.mem_filter.mp member).1
  apply recordIn_congr
  rw [counted_eq inOrder.front inOrder.latest, counted_eq ownInOrder ownLatest,
    accepted_own inOrder.front]

/-! ## Waiting -/

/-- After a refusal, and whatever others do, the same attempts have been accepted. -/
theorem accepted_after_refusal {between : List Attempt}
    (inOrder : InOrder (before ++ attempt :: between)) (refused : answer before attempt = .error secs)
    (others : ∀ a ∈ between, a.ip ≠ attempt.ip) :
    accepted attempt.ip (before ++ attempt :: between) = accepted attempt.ip before := by
  have apart : between.filter (·.ip = attempt.ip) = [] :=
    List.filter_eq_nil_iff.mpr fun a member => by
      rw [decide_eq_true_eq]
      exact others a member
  have upTo : before ++ attempt :: between = (before ++ [attempt]) ++ between := by simp
  have first : InOrder (before ++ [attempt]) := by
    rw [upTo] at inOrder
    exact inOrder.front
  rw [accepted_own inOrder, upTo, List.filter_append, apart, List.append_nil, ← accepted_own first,
    accepted_snoc, admits]
  rw [answer] at refused
  rw [refused, List.filter_nil, List.map_nil, List.append_nil]

theorem retryAfter_long (oldest now : Nat) :
    window < now - oldest + retryAfter oldest now * 1000000000 := by
  unfold retryAfter window
  omega

/-- When the wait is over, the oldest attempt that stood in the way counts no more. -/
theorem accepts_after_wait {between : List Attempt} {next : Attempt}
    (inOrder : InOrder ((before ++ attempt :: between) ++ next :: after))
    (refused : answer before attempt = .error secs) (others : ∀ a ∈ between, a.ip ≠ attempt.ip)
    (own : next.ip = attempt.ip) (waits : attempt.now + secs * 1000000000 ≤ next.now) :
    answer (before ++ attempt :: between) next = .ok () := by
  have first : InOrder (before ++ attempt :: between) := inOrder.front
  have latest := accepted_latest first attempt.ip
  obtain ⟨_, oldest, rest, entry, waited⟩ := recordIn_refuses refused
  rw [counted_eq first.front first.latest] at entry
  have past : oldest ≤ attempt.now := by
    have member : oldest ∈ Throttle.recent window attempt.now (accepted attempt.ip before) := by
      rw [entry]
      exact List.mem_cons_self
    exact latest oldest (Throttle.mem_recent.mp member).1
  have aged : window ≤ next.now - oldest := by
    have long := retryAfter_long oldest attempt.now
    rw [← waited] at long
    omega
  rw [answer_accepts inOrder, own, accepted_after_refusal first refused others]
  exact (accepted_spaced first.front attempt.ip).room latest entry (by omega) aged

/-- The limit is exact for every address, over any run of attempts. -/
theorem rate_limit_exact (attempts : List Attempt) (inOrder : InOrder attempts) : Exact attempts where
  bounded ip start := (accepted_spaced inOrder ip).bounded start
  refusals := by
    rintro before attempt after secs rfl refused
    have latest := accepted_latest inOrder attempt.ip
    have full := (recordIn_refuses refused).1
    rw [counted_eq inOrder.front inOrder.latest] at full
    have atMost := (accepted_spaced inOrder.front attempt.ip).recent_le latest
    have same : (accepted attempt.ip before).filter
        (fun t => attempt.now < t + window ∧ t ≤ attempt.now) =
          Throttle.recent window attempt.now (accepted attempt.ip before) := by
      refine List.filter_congr fun t member => ?_
      have past := latest t member
      rw [Bool.eq_iff_iff, decide_eq_true_eq, decide_eq_true_eq]
      unfold window
      omega
    rw [same]
    omega
  waited := by
    rintro before attempt between next after secs rfl refused others own waits
    exact accepts_after_wait inOrder refused others own waits
  alone := by
    rintro before attempt after rfl
    exact answer_own inOrder

/-- Two addresses try; the sixth attempt of the first within a minute is refused. -/
def twoCallers : List Attempt :=
  [⟨.v4 1, 0⟩, ⟨.v4 1, 1⟩, ⟨.v4 2, 2⟩, ⟨.v4 1, 2000000000⟩, ⟨.v4 1, 3000000000⟩, ⟨.v4 1, 4000000000⟩,
    ⟨.v4 1, 5000000000⟩, ⟨.v4 2, 6000000000⟩, ⟨.v4 1, 61000000000⟩]

theorem two_callers_limited :
    answer (twoCallers.take 6) ⟨.v4 1, 5000000000⟩ = .error 56 ∧ Exact twoCallers := by
  have inOrder : InOrder twoCallers := by
    unfold InOrder twoCallers
    decide
  exact ⟨rfl, rate_limit_exact twoCallers inOrder⟩

end HomeCore.RateLimit
