import HomeCore.Streaming.Streams

/-! Streams end once and visibly. Whoever takes a request out of the registry may make up a terminal
for it; as long as the sweep finds what it takes, and the observer does not come in between, nobody
makes up a second one. -/
namespace HomeCore.Streaming

/-! ## The cache -/

namespace StreamCache
variable {cache : StreamCache} {requestId : String} {event : Json} {now : Nat}

/-- The event is cached, with a terminal at this time or later. -/
def Holds (cache : StreamCache) (requestId : String) (event : Json) (since : Nat) : Prop :=
  ∃ entry, cache[requestId]? = some entry ∧ event ∈ entry.events ∧
    entry.terminalAt.any fun last => decide (since ≤ last)

theorem Holds.snapshot {since : Nat} (holds : cache.Holds requestId event since) :
    event ∈ cache.snapshot requestId := by
  obtain ⟨entry, found, cached, _⟩ := holds
  rw [StreamCache.snapshot, found]
  exact cached

/-- What appending makes of the request's own entry. -/
theorem append_own (cache : StreamCache) (requestId : String) (event : Json) (now : Nat)
    (terminal : Bool) : ∃ entry,
    (cache.append requestId event terminal now)[requestId]? = some entry ∧
      (∀ e ∈ cache.snapshot requestId, e ∈ entry.events) ∧
      ((cache.snapshot requestId).length < maxEventsPerRequest → event ∈ entry.events) ∧
      entry.terminalAt = if terminal then some now else cache[requestId]?.bind (·.terminalAt) := by
  rw [append, Std.ExtTreeMap.getElem?_insert_self]
  refine ⟨_, rfl, ?_⟩
  rw [snapshot]
  cases cache[requestId]? with
  | none =>
    cases terminal with
    | true => simp [maxEventsPerRequest]
    | false => simp [maxEventsPerRequest]
  | some entry =>
    by_cases room : entry.events.length < maxEventsPerRequest
    · cases terminal <;> simp +contextual [room]
    · cases terminal <;> simp [room]

theorem append_other {other : String} (apart : other ≠ requestId) (terminal : Bool) :
    (cache.append requestId event terminal now)[other]? = cache[other]? := by
  rw [append, Std.ExtTreeMap.getElem?_insert, if_neg]
  exact fun same => apart (Std.LawfulEqCmp.eq_of_compare same).symm

theorem Holds.append {other : String} {e : Json} {since : Nat} (holds : cache.Holds other e since)
    (past : since ≤ now) (terminal : Bool) :
    (cache.append requestId event terminal now).Holds other e since := by
  by_cases same : other = requestId
  · subst same
    have cached := holds.snapshot
    obtain ⟨entry, found, kept, _, last⟩ := append_own cache other event now terminal
    refine ⟨entry, found, kept e cached, ?_⟩
    rw [last]
    cases terminal with
    | true => simpa using past
    | false =>
      obtain ⟨before, was, _, ended⟩ := holds
      rw [was]
      exact ended
  · obtain ⟨entry, found, rest⟩ := holds
    exact ⟨entry, (append_other same terminal).trans found, rest⟩

/-- A terminal event finds its place unless too many came before it. -/
theorem holds_appended (room : (cache.snapshot requestId).length < maxEventsPerRequest) :
    (cache.append requestId event true now).Holds requestId event now := by
  obtain ⟨entry, found, _, cached, last⟩ := append_own cache requestId event now true
  refine ⟨entry, found, cached room, ?_⟩
  rw [last]
  simp

theorem Holds.gc {since : Nat} (holds : cache.Holds requestId event since)
    (young : now < since + entryTtl) : (cache.gc now).Holds requestId event since := by
  obtain ⟨entry, found, cached, ended⟩ := holds
  refine ⟨entry, ?_, cached, ended⟩
  obtain ⟨last, is, later⟩ := (Option.any_eq_true _ _).mp ended
  have later : since ≤ last := of_decide_eq_true later
  rw [StreamCache.gc, Std.ExtTreeMap.getElem?_filter', found, Option.filter_some]
  refine if_pos ?_
  have lasting : 0 < entryTtl := by decide
  rw [is]
  exact decide_eq_true (by omega)

end StreamCache

/-! ## Who may inject -/

namespace Streams
variable {s s' : Streams} {requestId : String}

/-- The timeout task took the request out of the registry, and is about to publish. -/
def timeoutPublishes (s : Streams) (requestId : String) : Bool :=
  s.timeouts[requestId]?.any (·.phase == .injecting .publishing)

def sweepPublishes (s : Streams) (requestId : String) : Bool :=
  s.sweep.phase == .publishing && s.sweep.requests.head? == some requestId

/-- The observer took a terminal of the request off the bus, and is releasing it. -/
def observerReleases (s : Streams) (requestId : String) : Bool :=
  s.observer == .canceling requestId || s.observer == .removing requestId

/-- Nobody is given anything to inject. -/
structure GivesNone (s s' : Streams) : Prop where
  inner : ∀ requestId : String, requestId ∈ s'.inner → requestId ∈ s.inner
  timeouts : ∀ requestId, s'.timeoutPublishes requestId = true → s.timeoutPublishes requestId = true
  sweep : ∀ requestId, s'.sweepPublishes requestId = true → s.sweepPublishes requestId = true
  observer : s'.observer = s.observer
  named : ∀ requestId ∈ s.named, requestId ∈ s'.named

namespace GivesNone

theorem refl (s : Streams) : GivesNone s s :=
  ⟨fun _ => id, fun _ => id, fun _ => id, rfl, fun _ => id⟩

theorem trans {s'' : Streams} (first : GivesNone s s') (second : GivesNone s' s'') : GivesNone s s'' where
  inner requestId open_ := first.inner requestId (second.inner requestId open_)
  timeouts requestId publishes := first.timeouts requestId (second.timeouts requestId publishes)
  sweep requestId publishes := first.sweep requestId (second.sweep requestId publishes)
  observer := second.observer.trans first.observer
  named requestId known := second.named requestId (first.named requestId known)

theorem of_same (inner : s'.inner = s.inner) (timeouts : s'.timeouts = s.timeouts)
    (sweep : s'.sweep = s.sweep) (observer : s'.observer = s.observer)
    (named : ∀ requestId ∈ s.named, requestId ∈ s'.named) : GivesNone s s' where
  inner requestId open_ := by rwa [inner] at open_
  timeouts requestId publishes := by rwa [timeoutPublishes, timeouts] at publishes
  sweep requestId publishes := by rwa [sweepPublishes, sweep] at publishes
  observer := observer
  named := named

/-- A timeout task that changes does not begin to publish. -/
theorem modify {change : Timeout → Timeout}
    (quiet : ∀ t, (change t).phase = .injecting .publishing → t.phase = .injecting .publishing) :
    GivesNone s { s with timeouts := s.timeouts.modify requestId change } where
  inner _ := id
  timeouts other publishes := by
    rw [timeoutPublishes, Std.ExtTreeMap.getElem?_modify] at publishes
    split at publishes
    · next same =>
      cases Std.LawfulEqCmp.eq_of_compare same
      rw [Option.any_map, Option.any_eq_true] at publishes
      obtain ⟨t, found, publishing⟩ := publishes
      rw [timeoutPublishes, found]
      exact beq_iff_eq.mpr (quiet t (beq_iff_eq.mp publishing))
    · exact publishes
  sweep _ := id
  observer := rfl
  named _ := id

theorem cancelTimeout (s : Streams) (requestId : String) : GivesNone s (s.cancelTimeout requestId) := by
  rw [Streams.cancelTimeout]
  split
  · have forgotten : GivesNone s { s with timeoutCancel := s.timeoutCancel.erase requestId } :=
      of_same rfl rfl rfl rfl fun _ => id
    exact forgotten.trans (modify fun _ => id)
  · exact refl s

theorem removeEntry (s : Streams) (requestId : String) : GivesNone s (s.removeEntry requestId) where
  inner _ open_ := (Std.ExtTreeMap.mem_erase.mp open_).2
  timeouts _ := id
  sweep _ := id
  observer := rfl
  named _ := id

theorem setTimeout (s : Streams) (requestId : String) (phase : TimeoutPhase)
    (quiet : phase ≠ .injecting .publishing) : GivesNone s (s.setTimeout requestId phase) :=
  modify fun _ publishing => absurd publishing quiet

theorem setHandler (s : Streams) (requestId : String) (next : Handler) :
    GivesNone s (s.setHandler requestId next) := of_same rfl rfl rfl rfl fun _ => id

theorem publish (s : Streams) (sent : Bool) (m : Message) : GivesNone s (s.publish sent m) := by
  cases sent with
  | true => exact of_same rfl rfl rfl rfl fun _ => id
  | false => exact refl s

theorem scheduleTimeout (s : Streams) (pluginId requestId : String) (timeoutMs : Nat) :
    GivesNone s (s.scheduleTimeout pluginId requestId timeoutMs) where
  inner _ := id
  timeouts other publishes := by
    rw [timeoutPublishes, Streams.scheduleTimeout, Std.ExtTreeMap.getElem?_insert] at publishes
    split at publishes
    · cases publishes
    · exact publishes
  sweep _ := id
  observer := rfl
  named _ := id

theorem handlerGoes (s : Streams) (requestId : String) (fails : Bool) :
    GivesNone s (s.handlerGoes requestId fails) := by
  rw [Streams.handlerGoes]
  split
  · exact setHandler s requestId _
  · exact (scheduleTimeout s _ requestId _).trans (setHandler _ requestId _)
  · exact setHandler s requestId _
  · exact (cancelTimeout s requestId).trans (setHandler _ requestId _)
  · exact (removeEntry s requestId).trans (setHandler _ requestId _)
  · exact refl s
  · exact refl s

theorem timeoutWakes (s : Streams) (requestId : String) : GivesNone s (s.timeoutWakes requestId) := by
  rw [Streams.timeoutWakes]
  split
  · split
    · exact setTimeout s requestId _ (by rintro ⟨⟩)
    · exact refl s
  · exact refl s

theorem timeoutCanceled (s : Streams) (requestId : String) :
    GivesNone s (s.timeoutCanceled requestId) := by
  rw [Streams.timeoutCanceled]
  split
  · split
    · exact setTimeout s requestId _ (by rintro ⟨⟩)
    · exact refl s
  · exact refl s

theorem invoke (s : Streams) (entry : StreamingEntry) (timeoutMs : Option Nat) :
    GivesNone s (s.invoke entry timeoutMs) := by
  rw [Streams.invoke]
  split
  · exact refl s
  · exact of_same rfl rfl rfl rfl fun _ => id

theorem name (s : Streams) (m : Message) : GivesNone s (s.name m) :=
  of_same rfl rfl rfl rfl fun _ known => List.mem_append_right _ known

theorem statusChanged (s : Streams) (pluginId status : String) (requests : List String) :
    GivesNone s (s.statusChanged pluginId status requests) := by
  rw [Streams.statusChanged]
  split
  · refine ⟨fun _ => id, fun _ => id, fun other publishes => ?_, rfl, fun _ => id⟩
    cases publishes
  · exact refl s

end GivesNone

theorem timeoutPublishes_found {t : Timeout} (found : s.timeouts[requestId]? = some t) :
    s.timeoutPublishes requestId = (t.phase == .injecting .publishing) := by
  rw [timeoutPublishes, found, Option.any_some]

theorem setTimeout_publishes (phase : TimeoutPhase) {other : String} (apart : other ≠ requestId) :
    (s.setTimeout requestId phase).timeoutPublishes other = s.timeoutPublishes other := by
  rw [timeoutPublishes, setTimeout, Std.ExtTreeMap.getElem?_modify, if_neg]
  · rfl
  · exact fun same => apart (Std.LawfulEqCmp.eq_of_compare same).symm

theorem setTimeout_quiet (s : Streams) (requestId : String) {phase : TimeoutPhase}
    (quiet : phase ≠ .injecting .publishing) :
    (s.setTimeout requestId phase).timeoutPublishes requestId = false := by
  rw [timeoutPublishes, setTimeout, Std.ExtTreeMap.getElem?_modify, if_pos Std.ReflCmp.compare_self,
    Option.any_map]
  cases s.timeouts[requestId]? with
  | none => rfl
  | some t => exact beq_eq_false_iff_ne.mpr quiet

end Streams

/-! ## What is seen of a run -/

/-- The streams of a run, with the requests of which a terminal was observed, those a terminal was
injected for, those among them that were late, and the terminals that were cached, with when. -/
structure StreamWatch where
  sys : Streams := .new
  observed : List String := []
  injected : List String := []
  late : List String := []
  appended : List (String × Json × Nat) := []

namespace StreamWatch
variable {w : StreamWatch}

/-- The request a synthetic terminal is published for. -/
def injects (s : Streams) : Event → Option String
  | .timeoutGoes requestId _ sent => if sent && s.timeoutPublishes requestId then some requestId else none
  | .sweepGoes _ sent => if sent && s.sweep.phase == .publishing then s.sweep.requests.head? else none
  | _ => none

/-- The request of which a terminal is observed. -/
def observes (s : Streams) : Event → Option String
  | .observe m => if s.observer = .waiting then (Streams.terminal m).map Prod.fst else none
  | _ => none

/-- The terminal that is cached. -/
def appends (s : Streams) : Event → Option (String × Json × Nat)
  | .mirror m => (Streams.terminal m).map fun (requestId, event) => (requestId, event, s.now)
  | _ => none

def step (w : StreamWatch) (event : Event) : StreamWatch where
  sys := w.sys.step event
  observed := (observes w.sys event).toList ++ w.observed
  injected := (injects w.sys event).toList ++ w.injected
  late := ((injects w.sys event).filter (· ∈ w.observed)).toList ++ w.late
  appended := (appends w.sys event).toList ++ w.appended

/-- Core injects at most one terminal for a request, and none once one was observed; and a terminal
that was cached is in the snapshot until its time to live ends. -/
structure EndsOnce (w : StreamWatch) : Prop where
  once : w.injected.Nodup
  inTime : w.late = []
  visible : ∀ entry ∈ w.appended, w.sys.now < entry.2.2 + entryTtl →
    entry.2.1 ∈ w.sys.cache.snapshot entry.1

/-- The sweep finds in the registry what it takes out, the observer does not come between a request
being taken out and the terminal made up for it, and there is room for a terminal in the cache. -/
def orderly (s : Streams) : Event → Bool
  | .timeoutGoes requestId _ _ => !(s.timeouts[requestId]?.any (·.phase == .injecting .removing) &&
      decide (requestId ∈ s.inner) && s.observerReleases requestId)
  | .sweepGoes _ _ => !(s.sweep.phase == .removing) || s.sweep.requests.head?.all fun requestId =>
      decide (requestId ∈ s.inner) && !s.observerReleases requestId
  | .observe m => !(s.observer == .waiting) || (Streams.terminal m).all fun (requestId, _) =>
      !(s.timeoutPublishes requestId || s.sweepPublishes requestId)
  | .mirror m => (Streams.terminal m).all fun (requestId, _) =>
      decide ((s.cache.snapshot requestId).length < maxEventsPerRequest)
  | _ => true

/-! ### Who may still inject -/

/-- A request is in the registry, or about to be injected for by one task, or was injected for. -/
structure Claimed (observed injected : List String) (s : Streams) : Prop where
  open_ : ∀ requestId : String, requestId ∈ s.inner → requestId ∈ s.named ∧
    requestId ∉ injected ∧ (requestId ∈ observed → s.observerReleases requestId = true)
  publishing : ∀ requestId, (s.timeoutPublishes requestId || s.sweepPublishes requestId) = true →
    requestId ∉ s.inner ∧ requestId ∈ s.named ∧ requestId ∉ observed ∧ requestId ∉ injected
  apart : ∀ requestId, (s.timeoutPublishes requestId && s.sweepPublishes requestId) = false
  known : ∀ requestId, requestId ∈ observed ∨ requestId ∈ injected → requestId ∈ s.named

namespace Claimed
variable {observed injected : List String} {s s' : Streams}

theorem givesNone (claimed : Claimed observed injected s) (none : s.GivesNone s') :
    Claimed observed injected s' where
  open_ requestId isOpen := by
    obtain ⟨known, unspent, releases⟩ := claimed.open_ requestId (none.inner requestId isOpen)
    refine ⟨none.named requestId known, unspent, fun seen => ?_⟩
    rw [Streams.observerReleases, none.observer]
    exact releases seen
  publishing requestId publishes := by
    rw [Bool.or_eq_true] at publishes
    have before := publishes.imp (none.timeouts requestId) (none.sweep requestId)
    obtain ⟨taken, known, fresh⟩ := claimed.publishing requestId ((Bool.or_eq_true _ _).mpr before)
    exact ⟨fun isOpen => taken (none.inner requestId isOpen), none.named requestId known, fresh⟩
  apart requestId := by
    rw [← Bool.not_eq_true, Bool.and_eq_true]
    rintro ⟨timeouts, sweep⟩
    have before := claimed.apart requestId
    rw [none.timeouts requestId timeouts, none.sweep requestId sweep] at before
    cases before
  known requestId seen := none.named requestId (claimed.known requestId seen)

/-- A request with a new id. -/
theorem reserve (claimed : Claimed observed injected s) (index : Nat) (requestId : String) :
    Claimed observed injected (s.reserve index requestId) := by
  rw [Streams.reserve]
  split
  · exact claimed
  split
  · exact claimed
  next fresh =>
  refine ⟨fun other isOpen => ?_, fun other publishes => ?_, claimed.apart, fun other seen => ?_⟩
  · rcases Std.ExtTreeMap.mem_insert.mp isOpen with same | before
    · cases Std.LawfulEqCmp.eq_of_compare same
      refine ⟨List.mem_cons_self, fun spent => ?_, fun seen => ?_⟩
      · exact absurd (claimed.known requestId (.inr spent)) fresh
      · exact absurd (claimed.known requestId (.inl seen)) fresh
    · obtain ⟨known, rest⟩ := claimed.open_ other before
      exact ⟨List.mem_cons_of_mem _ known, rest⟩
  · obtain ⟨taken, known, rest⟩ := claimed.publishing other publishes
    refine ⟨fun isOpen => ?_, List.mem_cons_of_mem _ known, rest⟩
    rcases Std.ExtTreeMap.mem_insert.mp isOpen with same | before
    · cases Std.LawfulEqCmp.eq_of_compare same
      exact fresh known
    · exact taken before
  · exact List.mem_cons_of_mem _ (claimed.known other seen)

/-- One task takes a request out of the registry, and is about to inject for it. -/
theorem take (claimed : Claimed observed injected s) {requestId : String} (isOpen : requestId ∈ s.inner)
    (unobserved : s.observerReleases requestId = false)
    (inner : s'.inner = s.inner.erase requestId) (observer : s'.observer = s.observer)
    (named : s'.named = s.named)
    (timeouts : ∀ other, s'.timeoutPublishes other = true →
      s.timeoutPublishes other = true ∨ other = requestId)
    (sweep : ∀ other, s'.sweepPublishes other = true →
      s.sweepPublishes other = true ∨ other = requestId)
    (apart : ¬ (s'.timeoutPublishes requestId = true ∧ s'.sweepPublishes requestId = true)) :
    Claimed observed injected s' := by
  obtain ⟨known, unspent, releases⟩ := claimed.open_ requestId isOpen
  have unseen : requestId ∉ observed := by
    intro seen
    rw [releases seen] at unobserved
    cases unobserved
  refine ⟨fun other stillOpen => ?_, fun other publishes => ?_, fun other => ?_, ?_⟩
  · rw [inner, Std.ExtTreeMap.mem_erase] at stillOpen
    rw [named, Streams.observerReleases, observer]
    exact claimed.open_ other stillOpen.2
  · rw [inner, named, Std.ExtTreeMap.mem_erase]
    rw [Bool.or_eq_true] at publishes
    have before : (s.timeoutPublishes other || s.sweepPublishes other) = true ∨ other = requestId := by
      rw [Bool.or_eq_true]
      rcases publishes with byTimeout | bySweep
      · exact (timeouts other byTimeout).imp_left .inl
      · exact (sweep other bySweep).imp_left .inr
    rcases before with before | rfl
    · obtain ⟨taken, rest⟩ := claimed.publishing other before
      exact ⟨fun stillOpen => taken stillOpen.2, rest⟩
    · exact ⟨fun stillOpen => stillOpen.1 Std.ReflCmp.compare_self, known, unseen, unspent⟩
  · rw [← Bool.not_eq_true, Bool.and_eq_true]
    rintro ⟨byTimeout, bySweep⟩
    by_cases same : other = requestId
    · subst same
      exact apart ⟨byTimeout, bySweep⟩
    · have before := claimed.apart other
      rw [(timeouts other byTimeout).resolve_right same, (sweep other bySweep).resolve_right same] at before
      cases before
  · rw [named]
    exact claimed.known

/-- The terminal is published, and the task has no more to inject for the request. -/
theorem inject (claimed : Claimed observed injected s) (none : s.GivesNone s') {requestId : String}
    (publishing : (s.timeoutPublishes requestId || s.sweepPublishes requestId) = true)
    (done : (s'.timeoutPublishes requestId || s'.sweepPublishes requestId) = false) :
    Claimed observed (requestId :: injected) s' := by
  obtain ⟨taken, known, _⟩ := claimed.publishing requestId publishing
  have after := claimed.givesNone none
  refine ⟨fun other isOpen => ?_, fun other publishes => ?_, after.apart, fun other seen => ?_⟩
  · obtain ⟨named, unspent, releases⟩ := after.open_ other isOpen
    refine ⟨named, fun spent => ?_, releases⟩
    rcases List.mem_cons.mp spent with rfl | before
    · exact taken (none.inner other isOpen)
    · exact unspent before
  · obtain ⟨out, named, unseen, unspent⟩ := after.publishing other publishes
    refine ⟨out, named, unseen, fun spent => ?_⟩
    rcases List.mem_cons.mp spent with rfl | before
    · rw [done] at publishes
      cases publishes
    · exact unspent before
  · rcases seen with seen | spent
    · exact after.known other (.inl seen)
    · rcases List.mem_cons.mp spent with rfl | before
      · exact none.named other known
      · exact after.known other (.inr before)

theorem timeoutGoes (claimed : Claimed observed injected s) (requestId ts : String) (sent : Bool)
    (inOrder : orderly s (.timeoutGoes requestId ts sent) = true) :
    Claimed observed ((injects s (.timeoutGoes requestId ts sent)).toList ++ injected)
      (s.timeoutGoes requestId ts sent) := by
  rw [injects, Streams.timeoutGoes]
  cases found : s.timeouts[requestId]? with
  | none =>
    rw [Streams.timeoutPublishes, found]
    simpa using claimed
  | some t =>
    rw [Streams.timeoutPublishes_found found]
    dsimp only
    cases phase : t.phase with
    | sleeping | finished => simpa using claimed
    | injecting at_ =>
      cases at_ with
      | canceling =>
        have none := (Streams.GivesNone.cancelTimeout s requestId).trans
          (.setTimeout _ requestId (.injecting .removing) (by rintro ⟨⟩))
        simpa using claimed.givesNone none
      | clearing =>
        have none := (Streams.GivesNone.publish s sent (Streams.clearing t.pluginId requestId)).trans
          (.setTimeout _ requestId .finished (by rintro ⟨⟩))
        simpa using claimed.givesNone none
      | publishing =>
        have none := (Streams.GivesNone.publish s sent (Streams.timeoutEvent t.pluginId requestId ts)).trans
          (.setTimeout _ requestId (.injecting .clearing) (by rintro ⟨⟩))
        cases sent with
        | false => simpa using claimed.givesNone none
        | true =>
          have publishing : s.timeoutPublishes requestId = true := by
            rw [Streams.timeoutPublishes_found found, phase]
            rfl
          refine claimed.inject none (by rw [publishing, Bool.true_or]) ?_
          have others := claimed.apart requestId
          rw [publishing, Bool.true_and] at others
          have done : ((s.publish true (Streams.timeoutEvent t.pluginId requestId ts)).setTimeout requestId
              (.injecting .clearing)).timeoutPublishes requestId = false :=
            Streams.setTimeout_quiet _ requestId (by rintro ⟨⟩)
          exact (Bool.or_eq_false_iff ..).mpr ⟨done, others⟩
      | removing =>
        have silent : (sent && (TimeoutPhase.injecting .removing == .injecting .publishing)) = false :=
          Bool.and_false sent
        rw [silent, if_neg Bool.false_ne_true]
        change Claimed observed injected _
        by_cases isOpen : requestId ∈ s.inner
        · rw [if_pos isOpen]
          have unobserved : s.observerReleases requestId = false := by
            simpa [orderly, found, phase, isOpen] using inOrder
          refine claimed.take isOpen unobserved rfl rfl rfl (fun other publishes => ?_)
            (fun other publishes => .inl publishes) ?_
          · by_cases same : other = requestId
            · exact .inr same
            · rw [Streams.setTimeout_publishes _ same] at publishes
              exact .inl publishes
          · rintro ⟨_, bySweep⟩
            have bySweep : s.sweepPublishes requestId = true := bySweep
            exact (claimed.publishing requestId (by rw [bySweep, Bool.or_true])).1 isOpen
        · rw [if_neg isOpen]
          have none := (Streams.GivesNone.removeEntry s requestId).trans
            (.setTimeout _ requestId .finished (by rintro ⟨⟩))
          exact claimed.givesNone none

theorem sweepGoes (claimed : Claimed observed injected s) (ts : String) (sent : Bool)
    (inOrder : orderly s (.sweepGoes ts sent) = true) :
    Claimed observed ((injects s (.sweepGoes ts sent)).toList ++ injected) (s.sweepGoes ts sent) := by
  rw [injects, Streams.sweepGoes]
  cases requests : s.sweep.requests with
  | nil => simpa using claimed
  | cons requestId rest =>
    dsimp only
    -- The sweep publishes only where it is about to.
    have quiet {s' s'' : Streams} (none : s.GivesNone s')
        (silent : ∀ other, s''.sweepPublishes other = false)
        (inner : s''.inner = s'.inner) (timeouts : s''.timeouts = s'.timeouts)
        (observer : s''.observer = s'.observer) (named : s''.named = s'.named) : s.GivesNone s'' := by
      refine none.trans ⟨fun other => ?_, fun other => ?_, fun other publishes => ?_, observer, ?_⟩
      · rw [inner]
        exact id
      · rw [Streams.timeoutPublishes, timeouts]
        exact id
      · rw [silent other] at publishes
        cases publishes
      · rw [named]
        exact fun _ => id
    cases phase : s.sweep.phase with
    | canceling =>
      have none : s.GivesNone { s.cancelTimeout requestId with
          sweep := { s.sweep with phase := .removing } } :=
        quiet (.cancelTimeout s requestId) (fun _ => rfl) rfl rfl rfl rfl
      simpa using claimed.givesNone none
    | clearing =>
      have none : s.GivesNone { s.publish sent (Streams.clearing s.sweep.pluginId requestId) with
          sweep := ⟨s.sweep.pluginId, rest, .canceling⟩ } :=
        quiet (.publish s sent _) (fun _ => rfl) rfl rfl rfl rfl
      simpa using claimed.givesNone none
    | publishing =>
      have none : s.GivesNone { s.publish sent (Streams.offlineEvent s.sweep.pluginId requestId ts) with
          sweep := { s.sweep with phase := .clearing } } :=
        quiet (.publish s sent _) (fun _ => rfl) rfl rfl rfl rfl
      cases sent with
      | false => simpa using claimed.givesNone none
      | true =>
        have publishing : s.sweepPublishes requestId = true := by
          rw [Streams.sweepPublishes, phase, requests]
          simp
        refine claimed.inject none (by rw [publishing, Bool.or_true]) ?_
        have others := claimed.apart requestId
        rw [publishing, Bool.and_true] at others
        exact (Bool.or_eq_false_iff ..).mpr ⟨others, rfl⟩
    | removing =>
      have taken : requestId ∈ s.inner ∧ s.observerReleases requestId = false := by
        simpa [orderly, phase, requests] using inOrder
      have silent : (sent && (Injection.removing == .publishing)) = false := Bool.and_false sent
      rw [silent, if_neg Bool.false_ne_true]
      change Claimed observed injected _
      refine claimed.take taken.1 taken.2 rfl rfl rfl (fun other publishes => .inl publishes)
        (fun other publishes => .inr ?_) ?_
      · simp only [Streams.sweepPublishes, requests, List.head?_cons, Bool.and_eq_true, beq_iff_eq,
          Option.some.injEq] at publishes
        exact publishes.2.symm
      · rintro ⟨byTimeout, _⟩
        have byTimeout : s.timeoutPublishes requestId = true := byTimeout
        exact (claimed.publishing requestId (by rw [byTimeout, Bool.true_or])).1 taken.1

/-- A terminal is observed, of a request that nobody is about to inject for. -/
theorem see (claimed : Claimed observed injected s) (waiting : s.observer = .waiting)
    {requestId : String} (free : (s.timeoutPublishes requestId || s.sweepPublishes requestId) = false)
    (named : requestId ∈ s.named) :
    Claimed (requestId :: observed) injected { s with observer := .canceling requestId } := by
  refine ⟨fun other isOpen => ?_, fun other publishes => ?_, claimed.apart, fun other seen => ?_⟩
  · obtain ⟨known, unspent, releases⟩ := claimed.open_ other isOpen
    refine ⟨known, unspent, fun seen => ?_⟩
    rcases List.mem_cons.mp seen with rfl | before
    · simp [Streams.observerReleases]
    · have busy := releases before
      rw [Streams.observerReleases, waiting] at busy
      cases busy
  · obtain ⟨taken, known, unseen, unspent⟩ := claimed.publishing other publishes
    refine ⟨taken, known, fun seen => ?_, unspent⟩
    rcases List.mem_cons.mp seen with rfl | before
    · have publishes : (s.timeoutPublishes other || s.sweepPublishes other) = true := publishes
      rw [free] at publishes
      cases publishes
    · exact unseen before
  · rcases seen with seen | spent
    · rcases List.mem_cons.mp seen with rfl | before
      · exact named
      · exact claimed.known other (.inl before)
    · exact claimed.known other (.inr spent)

theorem observe (claimed : Claimed observed injected s) (m : Message)
    (inOrder : orderly s (.observe m) = true) :
    Claimed ((observes s (.observe m)).toList ++ observed) injected (s.observe m) := by
  rw [observes, Streams.observe]
  cases observer : s.observer with
  | canceling | removing => exact claimed
  | waiting =>
    rw [if_pos rfl]
    have namedAll := claimed.givesNone (.name s m)
    cases said : Streams.terminal m with
    | none => exact namedAll
    | some entry =>
      obtain ⟨requestId, event⟩ := entry
      have free : (s.timeoutPublishes requestId || s.sweepPublishes requestId) = false := by
        simpa [orderly, observer, said] using inOrder
      refine namedAll.see observer free ?_
      have brought := (Option.filter_eq_some_iff.mp said).1
      refine List.mem_append_left _ ?_
      rw [brought]
      exact List.mem_singleton.mpr rfl

theorem observerGoes (claimed : Claimed observed injected s) :
    Claimed observed injected s.observerGoes := by
  rw [Streams.observerGoes]
  cases observer : s.observer with
  | waiting => exact claimed
  | canceling requestId =>
    have same : (s.cancelTimeout requestId).observer = .canceling requestId :=
      (Streams.GivesNone.cancelTimeout s requestId).observer.trans observer
    have after := claimed.givesNone (.cancelTimeout s requestId)
    refine ⟨fun other isOpen => ?_, after.publishing, after.apart, after.known⟩
    obtain ⟨known, unspent, releases⟩ := after.open_ other isOpen
    refine ⟨known, unspent, fun seen => ?_⟩
    have busy := releases seen
    simp only [Streams.observerReleases, same] at busy ⊢
    simpa using busy
  | removing requestId =>
    have after := claimed.givesNone (.removeEntry s requestId)
    refine ⟨fun other isOpen => ?_, after.publishing, after.apart, after.known⟩
    obtain ⟨known, unspent, releases⟩ := after.open_ other isOpen
    refine ⟨known, unspent, fun seen => ?_⟩
    -- The request it releases is the one that it took out.
    have busy : (Observer.removing requestId == .canceling other ||
        Observer.removing requestId == .removing other) = true := observer ▸ releases seen
    have same : requestId = other := by simpa using busy
    have apart := (Std.ExtTreeMap.mem_erase.mp isOpen).1
    rw [same] at apart
    exact absurd Std.ReflCmp.compare_self apart

end Claimed
/-! ### What stays cached -/

/-- What was cached while its time to live lasts. -/
structure Cached (appended : List (String × Json × Nat)) (s : Streams) : Prop where
  past : ∀ entry ∈ appended, entry.2.2 ≤ s.now
  holds : ∀ entry ∈ appended, s.now < entry.2.2 + entryTtl →
    s.cache.Holds entry.1 entry.2.1 entry.2.2

namespace Cached
variable {appended : List (String × Json × Nat)} {s s' : Streams}

theorem same (cached : Cached appended s) (cache : s'.cache = s.cache) (now : s'.now = s.now) :
    Cached appended s' where
  past entry member := by
    rw [now]
    exact cached.past entry member
  holds entry member := by
    rw [now, cache]
    exact cached.holds entry member

theorem tick (cached : Cached appended s) (nanos : Nat) :
    Cached appended { s with now := s.now + nanos } where
  past entry member := (cached.past entry member).trans (Nat.le_add_right s.now nanos)
  holds entry member young :=
    cached.holds entry member (Nat.lt_of_le_of_lt (Nat.le_add_right s.now nanos) young)

theorem gc (cached : Cached appended s) : Cached appended { s with cache := s.cache.gc s.now } where
  past := cached.past
  holds entry member young := (cached.holds entry member young).gc young

theorem mirror (cached : Cached appended s) (m : Message) (inOrder : orderly s (.mirror m) = true) :
    Cached ((appends s (.mirror m)).toList ++ appended) (s.step (.mirror m)) := by
  have kept (entry : String × Json × Nat) (member : entry ∈ appended)
      (young : s.now < entry.2.2 + entryTtl) :
      (s.cache.mirror m s.now).Holds entry.1 entry.2.1 entry.2.2 := by
    have before := cached.holds entry member young
    rw [StreamCache.mirror]
    split
    · exact before.append (cached.past entry member) _
    · exact before
  cases said : Streams.terminal m with
  | none =>
    rw [appends, said]
    exact ⟨cached.past, kept⟩
  | some entry =>
    obtain ⟨requestId, event⟩ := entry
    obtain ⟨brought, ends⟩ := Option.filter_eq_some_iff.mp said
    have room : (s.cache.snapshot requestId).length < maxEventsPerRequest := by
      simpa [orderly, said] using inOrder
    rw [appends, said]
    refine ⟨fun entry member => ?_, fun entry member young => ?_⟩
    · rcases List.mem_cons.mp member with rfl | before
      · exact Nat.le_refl s.now
      · exact cached.past entry before
    · rcases List.mem_cons.mp member with rfl | before
      · change (s.cache.mirror m s.now).Holds requestId event s.now
        have ends : endsStream event = true := ends
        rw [StreamCache.mirror, brought]
        dsimp only
        rw [ends]
        exact StreamCache.holds_appended room
      · exact kept entry before young

end Cached

@[simp] theorem cancelTimeout_cache (s : Streams) (requestId : String) :
    (s.cancelTimeout requestId).cache = s.cache := by
  rw [Streams.cancelTimeout]
  split <;> rfl

@[simp] theorem cancelTimeout_now (s : Streams) (requestId : String) :
    (s.cancelTimeout requestId).now = s.now := by
  rw [Streams.cancelTimeout]
  split <;> rfl

@[simp] theorem publish_cache (s : Streams) (sent : Bool) (m : Message) :
    (s.publish sent m).cache = s.cache := by cases sent <;> rfl

@[simp] theorem publish_now (s : Streams) (sent : Bool) (m : Message) :
    (s.publish sent m).now = s.now := by cases sent <;> rfl

/-- Whether the event leaves the cache and the clock alone. -/
def sparesCache : Event → Bool
  | .tick _ | .mirror _ | .gc => false
  | _ => true

theorem step_cache {s : Streams} {event : Event} (spares : sparesCache event = true) :
    (s.step event).cache = s.cache ∧ (s.step event).now = s.now := by
  cases event with
  | tick | mirror | gc => cases spares
  | invoke entry timeoutMs =>
    simp only [Streams.step, Streams.invoke]
    split <;> exact ⟨rfl, rfl⟩
  | reserve index requestId =>
    simp only [Streams.step, Streams.reserve]
    split
    · exact ⟨rfl, rfl⟩
    · split <;> exact ⟨rfl, rfl⟩
  | handlerGoes requestId fails =>
    simp only [Streams.step, Streams.handlerGoes]
    split <;> simp [Streams.setHandler, Streams.scheduleTimeout, Streams.removeEntry]
  | timeoutWakes requestId =>
    simp only [Streams.step, Streams.timeoutWakes]
    split
    · split <;> exact ⟨rfl, rfl⟩
    · exact ⟨rfl, rfl⟩
  | timeoutCanceled requestId =>
    simp only [Streams.step, Streams.timeoutCanceled]
    split
    · split <;> exact ⟨rfl, rfl⟩
    · exact ⟨rfl, rfl⟩
  | timeoutGoes requestId ts sent =>
    simp only [Streams.step, Streams.timeoutGoes]
    split
    · exact ⟨rfl, rfl⟩
    · split <;> simp [Streams.setTimeout, Streams.removeEntry]
  | statusChanged pluginId status requests =>
    simp only [Streams.step, Streams.statusChanged]
    split <;> exact ⟨rfl, rfl⟩
  | sweepGoes ts sent =>
    simp only [Streams.step, Streams.sweepGoes]
    split
    · exact ⟨rfl, rfl⟩
    · split <;> simp [Streams.removeEntry]
  | observe m =>
    simp only [Streams.step, Streams.observe]
    split <;> exact ⟨rfl, rfl⟩
  | observerGoes =>
    simp only [Streams.step, Streams.observerGoes]
    split <;> simp [Streams.removeEntry]

theorem step_cached {appended : List (String × Json × Nat)} {s : Streams}
    (cached : Cached appended s) {event : Event} (inOrder : orderly s event = true) :
    Cached ((appends s event).toList ++ appended) (s.step event) := by
  cases spares : sparesCache event with
  | true =>
    have none : appends s event = none := by cases event <;> first | rfl | cases spares
    obtain ⟨cache, now⟩ := step_cache (s := s) spares
    rw [none]
    exact cached.same cache now
  | false =>
    cases event with
    | tick nanos => exact cached.tick nanos
    | mirror m => exact cached.mirror m inOrder
    | gc => exact cached.gc
    | _ => cases spares

/-! ### Every run -/

theorem step_claimed {observed injected : List String} {s : Streams}
    (claimed : Claimed observed injected s) {event : Event} (inOrder : orderly s event = true) :
    Claimed ((observes s event).toList ++ observed) ((injects s event).toList ++ injected)
      (s.step event) := by
  cases event with
  | tick nanos => exact claimed.givesNone (.of_same rfl rfl rfl rfl fun _ => id)
  | invoke entry timeoutMs => exact claimed.givesNone (.invoke s entry timeoutMs)
  | reserve index requestId => exact claimed.reserve index requestId
  | handlerGoes requestId fails => exact claimed.givesNone (.handlerGoes s requestId fails)
  | timeoutWakes requestId => exact claimed.givesNone (.timeoutWakes s requestId)
  | timeoutCanceled requestId => exact claimed.givesNone (.timeoutCanceled s requestId)
  | timeoutGoes requestId ts sent => exact claimed.timeoutGoes requestId ts sent inOrder
  | statusChanged pluginId status requests =>
    exact claimed.givesNone (.statusChanged s pluginId status requests)
  | sweepGoes ts sent => exact claimed.sweepGoes ts sent inOrder
  | observe m => exact claimed.observe m inOrder
  | observerGoes => exact claimed.observerGoes
  | mirror m =>
    exact (claimed.givesNone (.name s m)).givesNone (.of_same rfl rfl rfl rfl fun _ => id)
  | gc => exact claimed.givesNone (.of_same rfl rfl rfl rfl fun _ => id)

/-- Whoever injects was about to. -/
theorem publishes_of_injects {s : Streams} {event : Event} {requestId : String}
    (injected : injects s event = some requestId) :
    (s.timeoutPublishes requestId || s.sweepPublishes requestId) = true := by
  cases event with
  | timeoutGoes other ts sent =>
    rw [injects, Option.ite_none_right_eq_some, Option.some.injEq] at injected
    obtain ⟨publishes, rfl⟩ := injected
    rw [(Bool.and_eq_true ..).mp publishes |>.2, Bool.true_or]
  | sweepGoes ts sent =>
    rw [injects, Option.ite_none_right_eq_some] at injected
    obtain ⟨publishes, atHand⟩ := injected
    rw [Streams.sweepPublishes, atHand, (Bool.and_eq_true ..).mp publishes |>.2]
    simp
  | _ => cases injected

structure Sound (w : StreamWatch) : Prop where
  claimed : Claimed w.observed w.injected w.sys
  cached : Cached w.appended w.sys
  once : w.injected.Nodup
  inTime : w.late = []

theorem Sound.endsOnce (sound : w.Sound) : w.EndsOnce where
  once := sound.once
  inTime := sound.inTime
  visible entry member young := (sound.cached.holds entry member young).snapshot

theorem step_sound (sound : w.Sound) {event : Event} (inOrder : orderly w.sys event = true) :
    (w.step event).Sound where
  claimed := step_claimed sound.claimed inOrder
  cached := step_cached sound.cached inOrder
  once := by
    change ((injects w.sys event).toList ++ w.injected).Nodup
    cases is : injects w.sys event with
    | none => exact sound.once
    | some requestId =>
      obtain ⟨_, _, _, unspent⟩ := sound.claimed.publishing requestId (publishes_of_injects is)
      exact List.nodup_cons.mpr ⟨unspent, sound.once⟩
  inTime := by
    change ((injects w.sys event).filter _).toList ++ w.late = []
    cases is : injects w.sys event with
    | none => exact sound.inTime
    | some requestId =>
      obtain ⟨_, _, unseen, _⟩ := sound.claimed.publishing requestId (publishes_of_injects is)
      rw [Option.filter_some, if_neg (by rw [decide_eq_true_eq]; exact unseen)]
      exact sound.inTime

theorem new_sound : Sound {} where
  claimed := by
    refine ⟨fun _ isOpen => ?_, fun _ publishes => ?_, fun _ => rfl, fun _ seen => ?_⟩
    · exact absurd isOpen Std.ExtTreeMap.not_mem_empty
    · cases publishes
    · rcases seen with seen | spent
      · cases seen
      · cases spent
  cached := ⟨fun _ member => (by cases member), fun _ member => (by cases member)⟩
  once := List.nodup_nil
  inTime := rfl

/-- In every run whose steps are in order streams end once and visibly. -/
theorem streams_end_once (events : List Event)
    (inOrder : Runs.EachStep step (fun w event => orderly w.sys event = true) {} events) :
    Runs.Always step EndsOnce {} events :=
  (Runs.invariant Sound (fun _ _ sound inOrder => step_sound sound inOrder) new_sound inOrder).mono
    fun _ sound => sound.endsOnce

/-! ### One stream of the captest plugin -/

def captest : StreamingEntry := ⟨"hc-captest", "demo", .multi⟩

def stage (name : String) : Json := .obj [("stage", .str name)]

def tells (name : String) : Message := ⟨streamTopic "hc-captest" "r1", .json (stage name)⟩

/-- The request is made, and its command sent. -/
def begun (timeoutMs : Option Nat) : List Event :=
  [.invoke captest timeoutMs, .reserve 0 "r1", .handlerGoes "r1" false, .handlerGoes "r1" false]

/-- Nothing but progress is heard until the timeout is injected, and then heard of. -/
def timesOut : List Event :=
  begun (some 300) ++ [.mirror (tells "progress"), .observe (tells "progress"), .tick 300000000,
    .timeoutWakes "r1", .timeoutGoes "r1" "" true, .timeoutGoes "r1" "" true, .timeoutGoes "r1" "" true,
    .timeoutGoes "r1" "" true, .mirror (tells "timeout"), .observe (tells "timeout"), .observerGoes,
    .observerGoes, .gc]

theorem captest_times_out : Runs.Always step EndsOnce {} timesOut :=
  streams_end_once timesOut (by decide)

/-- The sweep has listed the request when its completion is observed. -/
def endsMeanwhile : List Event :=
  begun none ++ [.statusChanged "hc-captest" "offline" ["r1"], .observe (tells "complete"), .observerGoes,
    .observerGoes, .sweepGoes "" true, .sweepGoes "" true, .sweepGoes "" true]

/-- The sweep has listed the request when it times out. -/
def timesOutMeanwhile : List Event :=
  begun (some 300) ++ [.tick 300000000, .timeoutWakes "r1",
    .statusChanged "hc-captest" "offline" ["r1"], .timeoutGoes "r1" "" true, .timeoutGoes "r1" "" true,
    .timeoutGoes "r1" "" true, .sweepGoes "" true, .sweepGoes "" true, .sweepGoes "" true]

/-- The stream completes after as many events as the cache takes. -/
def talkative : List Event :=
  List.replicate maxEventsPerRequest (.mirror (tells "progress")) ++ [.mirror (tells "complete")]

theorem captest_ends_twice :
    ¬ Runs.Always step EndsOnce {} endsMeanwhile ∧ ¬ Runs.Always step EndsOnce {} timesOutMeanwhile ∧
      ¬ Runs.Always step EndsOnce {} talkative := by
  refine ⟨fun always => ?_, fun always => ?_, fun always => ?_⟩
  · exact absurd always.last.inTime (by decide)
  · exact absurd always.last.once (by decide)
  · let w := talkative.foldl step {}
    have appended : w.appended.any (fun entry => entry.1 == "r1" && endsStream entry.2.1 &&
        decide (w.sys.now < entry.2.2 + entryTtl)) = true := by decide +kernel
    have dropped : (w.sys.cache.snapshot "r1").all (fun event => !endsStream event) = true := by
      decide +kernel
    obtain ⟨⟨requestId, event, since⟩, member, is⟩ := List.any_eq_true.mp appended
    simp only [Bool.and_eq_true, beq_iff_eq, decide_eq_true_eq] at is
    obtain ⟨⟨rfl, ends⟩, young⟩ := is
    have cached := always.last.visible _ member young
    have goesOn := List.all_eq_true.mp dropped event cached
    rw [ends] at goesOn
    cases goesOn

end StreamWatch
end HomeCore.Streaming
