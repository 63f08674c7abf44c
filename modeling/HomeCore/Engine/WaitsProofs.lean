import HomeCore.Engine.Waits

/-! When a wait ends with what it says. A receiver that has lost messages ends it as the event
itself would, and the map may not tell yet what the bus has said. -/
namespace HomeCore.Engine
open Broadcast

/-! ## The alert -/

section Alerts
variable {capacity : Nat} {alertId : String} {timeoutSecs : Nat} {active : Bool} {phase : AlertPhase}
  {receiver : Receiver Event} {deadline : DateTime} {input : AlertInput} {s : AlertWait}

/-- What a receiver has got, and what it still has to, of an alert that has been active all along
or has not. -/
structure Follows (alertId : String) (active : Bool) (phase : AlertPhase) (receiver : Receiver Event) : Prop where
  within : receiver.position ≤ receiver.sent.length
  passed : receiver.Passed (isClearing alertId · = false)
  heard : ∀ event ∈ receiver.sent, isClearing alertId event = true → active = false
  isActive : active = true → phase.isActive = true

/-- Before the alert is looked for: one that is raised since the wait began was not there before. -/
structure Tracks (alertId : String) (active : Bool) (phase : AlertPhase) (receiver : Receiver Event) : Prop
    extends Follows alertId active phase receiver where
  raised : ∀ event ∈ receiver.sent, isRaising alertId event = true → active = false
  announced : active = false → phase.isActive = true →
    ∃ event ∈ receiver.sent, isRaising alertId event = true

/-- The alert of a wait that goes on is in the map and active, or its clearing was heard. -/
structure Informed (alertId : String) (active : Bool) (phase : AlertPhase) (receiver : Receiver Event) : Prop
    extends Follows alertId active phase receiver where
  told : active = false → ∃ event ∈ receiver.sent, isClearing alertId event = true
  listed : active = true → phase = .listed

theorem Follows.isActive_and (follows : Follows alertId active phase receiver) :
    (active && phase.isActive) = active := by
  cases isActive : active with
  | false => rfl
  | true => exact follows.isActive isActive

theorem Follows.turn (follows : Follows alertId active phase receiver) (next : AlertPhase) :
    Follows alertId (active && next.isActive) next receiver := by
  refine ⟨follows.within, follows.passed, fun event member clears => ?_, fun both => ?_⟩
  · rw [follows.heard event member clears, Bool.false_and]
  · exact (Bool.and_eq_true_iff.mp both).2

theorem Follows.hear (follows : Follows alertId active phase receiver) {event : Event}
    (clears : isClearing alertId event = true → active = false) :
    Follows alertId active phase (receiver.send event) := by
  refine ⟨?_, Receiver.passed_send follows.passed follows.within event, fun other member => ?_, follows.isActive⟩
  · rw [Receiver.send_sent, Receiver.send_position, List.length_append]
    exact Nat.le_add_right_of_le follows.within
  · rcases List.mem_append.mp member with earlier | last
    · exact follows.heard other earlier
    · rw [List.mem_singleton.mp last]
      exact clears

theorem Tracks.turn (tracks : Tracks alertId active phase receiver) {next : AlertPhase}
    (was : next.isActive = true → phase.isActive = true) :
    Tracks alertId (active && next.isActive) next receiver := by
  refine ⟨tracks.toFollows.turn next, fun event member raises => ?_, fun inactive isActive => ?_⟩
  · rw [tracks.raised event member raises, Bool.false_and]
  · rw [isActive, Bool.and_true] at inactive
    exact tracks.announced inactive (was isActive)

theorem Tracks.hear (tracks : Tracks alertId active phase receiver) {event : Event}
    (clears : isClearing alertId event = true → active = false)
    (raises : isRaising alertId event = true → active = false) :
    Tracks alertId active phase (receiver.send event) := by
  refine ⟨tracks.toFollows.hear clears, fun other member => ?_, fun inactive isActive => ?_⟩
  · rcases List.mem_append.mp member with earlier | last
    · exact tracks.raised other earlier
    · rw [List.mem_singleton.mp last]
      exact raises
  · obtain ⟨earlier, member, isRaising⟩ := tracks.announced inactive isActive
    exact ⟨earlier, List.mem_append_left _ member, isRaising⟩

/-- An alert that is not there is raised, and heard. -/
theorem Tracks.raise (tracks : Tracks alertId active .absent receiver) {now : DateTime} {alert : Alert}
    (isOwn : alert.id = alertId) :
    Tracks alertId (active && AlertPhase.announced.isActive) .announced
      (receiver.send (.alertRaised now alert false)) := by
  have inactive : (active && AlertPhase.announced.isActive) = false := by
    cases active with
    | false => rfl
    | true => cases tracks.isActive rfl
  refine ⟨(tracks.toFollows.turn .announced).hear fun clears => ?_, fun _ _ _ => inactive, ?_⟩
  · cases clears
  · exact fun _ _ => ⟨_, List.mem_append_right _ List.mem_cons_self, beq_iff_eq.mpr isOwn⟩

/-- Where the map tells, a look at it leaves the wait informed. -/
theorem Tracks.informed (tracks : Tracks alertId active phase receiver) (inMap : phase.inMap = true)
    (tells : AlertWait.MapTells alertId ⟨phase, .subscribed receiver, active⟩) :
    Informed alertId active phase receiver := by
  refine ⟨tracks.toFollows, fun inactive => ?_, fun isActive => ?_⟩
  · cases phase with
    | listed =>
      exact List.any_eq_true.mp (tells (List.any_eq_true.mpr (tracks.announced inactive rfl)))
    | withdrawn => exact List.any_eq_true.mp tells
    | absent | announced => cases inMap
  · cases phase with
    | listed => rfl
    | withdrawn => cases tracks.isActive isActive
    | absent | announced => cases inMap

theorem Tracks.inactive (tracks : Tracks alertId active phase receiver) (unlisted : ¬ phase.inMap = true)
    (tells : AlertWait.MapTells alertId ⟨phase, .subscribed receiver, active⟩) : active = false := by
  cases phase with
  | absent =>
    cases active with
    | false => rfl
    | true => cases tracks.isActive rfl
  | announced =>
    obtain ⟨event, member, raises⟩ := List.any_eq_true.mp tells
    exact tracks.raised event member raises
  | listed | withdrawn => exact absurd rfl unlisted

theorem Informed.turn (informed : Informed alertId active phase receiver) {next : AlertPhase}
    (keepsListed : phase = .listed → next = .listed) :
    Informed alertId (active && next.isActive) next receiver := by
  refine ⟨informed.toFollows.turn next, fun inactive => ?_, fun both => ?_⟩
  · cases active with
    | false => exact informed.told rfl
    | true =>
      rw [keepsListed (informed.listed rfl)] at inactive
      cases inactive
  · exact keepsListed (informed.listed (Bool.and_eq_true_iff.mp both).1)

theorem Informed.hear (informed : Informed alertId active phase receiver) {event : Event}
    (clears : isClearing alertId event = true → active = false) :
    Informed alertId active phase (receiver.send event) := by
  refine ⟨informed.toFollows.hear clears, fun inactive => ?_, informed.listed⟩
  obtain ⟨earlier, member, isClearing⟩ := informed.told inactive
  exact ⟨earlier, List.mem_append_left _ member, isClearing⟩

/-- The clearing is announced, and heard. -/
theorem Informed.withdraw (informed : Informed alertId active phase receiver) {event : Event}
    (clears : isClearing alertId event = true) :
    Informed alertId (active && AlertPhase.withdrawn.isActive) .withdrawn (receiver.send event) := by
  have inactive : (active && AlertPhase.withdrawn.isActive) = false := Bool.and_false active
  refine ⟨(informed.toFollows.turn .withdrawn).hear fun _ => inactive, fun _ => ?_, fun isActive => ?_⟩
  · exact ⟨event, List.mem_append_right _ List.mem_cons_self, clears⟩
  · rw [inactive] at isActive
    cases isActive

namespace AlertWait

def Inv (alertId : String) (s : AlertWait) : Prop :=
  match s.wait with
  | .notBegun => True
  | .subscribed receiver => Tracks alertId s.activeThroughout s.phase receiver
  | .waiting receiver _ => Informed alertId s.activeThroughout s.phase receiver
  | .ended otherwise => otherwise = s.activeThroughout

theorem clearing_self (now : DateTime) (alertId deviceId : String) (alert : Option Alert) :
    isClearing alertId (.alertCleared now alertId deviceId alert) = true := beq_self_eq_true alertId

theorem inv_subscribed (tracks : Tracks alertId active phase receiver)
    (safe : Safe capacity alertId ⟨phase, .subscribed receiver, active⟩ input) :
    (step capacity alertId timeoutSecs ⟨phase, .subscribed receiver, active⟩ input).Inv alertId := by
  have same : (active && phase.isActive) = active := tracks.toFollows.isActive_and
  cases input with
  | raise now alert =>
    by_cases isNew : phase = .absent ∧ alert.id = alertId
    · simp only [step, move, if_pos isNew]
      obtain ⟨rfl, isOwn⟩ := isNew
      exact tracks.raise isOwn
    · simp only [step, move, if_neg isNew]
      exact tracks.turn id
  | clear now deviceId alert =>
    by_cases listed : phase = .listed
    · simp only [step, move, if_pos listed]
      have withdrawn : Tracks alertId (active && AlertPhase.withdrawn.isActive) .withdrawn receiver :=
        tracks.turn fun isActive => by cases isActive
      exact withdrawn.hear (fun _ => Bool.and_false active) fun _ => Bool.and_false active
    · simp only [step, move, if_neg listed]
      exact tracks.turn id
  | write =>
    refine tracks.turn fun isActive => ?_
    cases phase with
    | announced | listed => rfl
    | absent | withdrawn => cases isActive
  | publish event =>
    by_cases own : (isClearing alertId event || isRaising alertId event) = true
    · simp only [step, move, if_pos own]
      exact tracks.turn id
    · simp only [step, move, if_neg own]
      rw [Bool.or_eq_true_iff, not_or] at own
      exact (tracks.turn id).hear (fun clears => absurd clears own.1) fun raises => absurd raises own.2
  | subscribe => exact tracks.turn id
  | look now =>
    simp only [Safe] at safe
    simp only [step, move, WaitPhase.look]
    by_cases inMap : phase.inMap = true
    · simp only [if_pos inMap]
      exact (tracks.informed inMap safe).turn id
    · simp only [if_neg inMap]
      change false = (active && phase.isActive)
      rw [same, tracks.inactive inMap safe]
  | poll now => exact tracks.turn id

theorem inv_waiting (informed : Informed alertId active phase receiver)
    (safe : Safe capacity alertId ⟨phase, .waiting receiver deadline, active⟩ input) :
    (step capacity alertId timeoutSecs ⟨phase, .waiting receiver deadline, active⟩ input).Inv alertId := by
  have same : (active && phase.isActive) = active := informed.toFollows.isActive_and
  cases input with
  | raise now alert =>
    by_cases isNew : phase = .absent ∧ alert.id = alertId
    · simp only [step, move, if_pos isNew]
      have unlisted : phase ≠ .listed := by simp [isNew.1]
      exact (informed.turn fun listed => absurd listed unlisted).hear fun clears => by cases clears
    · simp only [step, move, if_neg isNew]
      exact informed.turn id
  | clear now deviceId alert =>
    by_cases listed : phase = .listed
    · simp only [step, move, if_pos listed]
      exact informed.withdraw (clearing_self now alertId deviceId alert)
    · simp only [step, move, if_neg listed]
      exact informed.turn id
  | write =>
    refine informed.turn fun listed => ?_
    rw [listed]
    rfl
  | publish event =>
    by_cases own : (isClearing alertId event || isRaising alertId event) = true
    · simp only [step, move, if_pos own]
      exact informed.turn id
    · simp only [step, move, if_neg own]
      exact (informed.turn id).hear fun clears => absurd (Bool.or_eq_true_iff.mpr (.inl clears)) own
  | subscribe => exact informed.turn id
  | look now => exact informed.turn id
  | poll now =>
    simp only [Safe, KeepsUp] at safe
    simp only [step, move, WaitPhase.poll]
    by_cases lags : receiver.Lags capacity
    · rw [Receiver.recv_lagged lags]
      obtain ⟨event, member, clears⟩ := List.any_eq_true.mp (safe lags)
      change false = (active && phase.isActive)
      rw [same, informed.heard event member clears]
    rcases Receiver.recv_cases lags with ⟨event, next, received⟩ | ⟨all, received⟩
    · rw [received]
      by_cases clears : isClearing alertId event = true
      · simp only [if_pos clears]
        change false = (active && phase.isActive)
        rw [same, informed.heard event (List.mem_of_getElem? next) clears]
      · simp only [if_neg clears]
        have turned : Informed alertId (active && phase.isActive) phase receiver := informed.turn id
        refine ⟨⟨?_, ?_, turned.heard, turned.isActive⟩, turned.told, turned.listed⟩
        · exact Nat.succ_le_of_lt (List.getElem?_eq_some_iff.mp next).1
        · exact Receiver.passed_next informed.passed next (Bool.not_eq_true _ ▸ clears)
    · rw [received]
      by_cases late : deadline ≤ now
      · simp only [if_pos late]
        change true = (active && phase.isActive)
        rw [same]
        cases isActive : active with
        | true => rfl
        | false =>
          obtain ⟨event, member, clears⟩ := informed.told isActive
          rw [Receiver.passed_all informed.passed all event member] at clears
          cases clears
      · simp only [if_neg late]
        exact informed.turn id

/-- A safe step keeps what a wait knows. -/
theorem inv_step (inv : s.Inv alertId) (safe : s.Safe capacity alertId input) :
    (s.step capacity alertId timeoutSecs input).Inv alertId := by
  obtain ⟨phase, wait, active⟩ := s
  cases wait with
  | subscribed receiver => exact inv_subscribed inv safe
  | waiting receiver deadline => exact inv_waiting inv safe
  | ended otherwise =>
    cases input with
    | raise now alert | clear now deviceId alert | publish event =>
      simp only [step, move]
      split
      · exact inv
      · exact inv
    | write | subscribe | look now | poll now => exact inv
  | notBegun =>
    cases input with
    | raise now alert | clear now deviceId alert | publish event =>
      simp only [step, move]
      split
      · trivial
      · trivial
    | write | look now | poll now => trivial
    | subscribe =>
      refine ⟨⟨Nat.le_refl 0, ?_, ?_, id⟩, ?_, fun inactive isActive => ?_⟩
      all_goals try exact fun event member => (by cases member)
      exact absurd (inactive.symm.trans isActive) Bool.false_ne_true

theorem Inv.right (inv : s.Inv alertId) : s.Right := by
  unfold Inv at inv
  unfold Right
  split
  · next ended =>
    rw [ended] at inv
    exact inv
  · trivial

/-- From any phase of the alert, in a run that looks for it where the map tells and loses nothing
that matters, the otherwise actions run exactly if the alert was active until the timeout. -/
theorem right_of_safe (phase : AlertPhase) {inputs : List AlertInput}
    (steps : Runs.EachStep (step capacity alertId timeoutSecs) (Safe capacity alertId) (start phase) inputs) :
    Runs.Always (step capacity alertId timeoutSecs) Right (start phase) inputs := by
  have begun : (start phase).Inv alertId := trivial
  have kept : Runs.Always (step capacity alertId timeoutSecs) (Inv alertId) (start phase) inputs :=
    Runs.invariant (Inv alertId) (fun _ _ inv safe => inv_step inv safe) begun steps
  exact kept.mono fun _ inv => inv.right

end AlertWait
end Alerts

/-! ## The event -/

namespace EventWait
variable {capacity : Nat} {awaited : AwaitedEvent} {s : EventWait} {input : EventInput}

theorem right_step_iff (s : EventWait) (input : EventInput) (right : s.Right awaited) :
    (s.step capacity awaited input).Right awaited ↔ s.Safe capacity awaited input := by
  cases s with
  | notBegun => cases input <;> exact ⟨fun _ => trivial, fun _ => trivial⟩
  | resumed sent => cases input <;> exact ⟨fun _ => trivial, fun _ => right⟩
  | waiting receiver =>
    cases input with
    | publish event => exact ⟨fun _ => trivial, fun _ => trivial⟩
    | subscribe => exact ⟨fun _ => trivial, fun _ => trivial⟩
    | poll =>
      rw [step, Safe]
      by_cases lags : receiver.Lags capacity
      · simp only [Receiver.recv_lagged lags]
        exact ⟨fun resumes _ => resumes, fun safe => safe lags⟩
      · refine ⟨fun _ lags' => absurd lags' lags, fun _ => ?_⟩
        rcases Receiver.recv_cases lags with ⟨event, next, received⟩ | ⟨all, received⟩
        · simp only [received]
          split
          · next isMatch => exact List.any_eq_true.mpr ⟨event, List.mem_of_getElem? next, isMatch⟩
          · trivial
        · simp only [received]
          trivial

end EventWait

/-- In every run of the alerts, the bus and the waits: `WaitAlertCleared` runs its otherwise actions
exactly if the alert was active until the timeout, where every step is safe; and `WaitForEvent`
resumes only after an event that it waits for, if and only if every step is safe. -/
theorem waits_right (capacity : Nat) (alertId : String) (timeoutSecs : Nat) (phase : AlertPhase)
    (alertInputs : List AlertInput) (awaited : AwaitedEvent) (eventInputs : List EventInput) :
    (Runs.EachStep (AlertWait.step capacity alertId timeoutSecs) (AlertWait.Safe capacity alertId)
        (.start phase) alertInputs →
      Runs.Always (AlertWait.step capacity alertId timeoutSecs) AlertWait.Right (.start phase) alertInputs) ∧
    (Runs.Always (EventWait.step capacity awaited) (EventWait.Right awaited) .notBegun eventInputs ↔
      Runs.EachStep (EventWait.step capacity awaited) (EventWait.Safe capacity awaited) .notBegun
        eventInputs) := by
  have begun : EventWait.Right awaited .notBegun := trivial
  refine ⟨AlertWait.right_of_safe phase, ?_⟩
  exact Runs.always_iff_eachStep EventWait.right_step_iff begun eventInputs

def lampOffline : Alert :=
  { id := "lamp:offline", kind := .offline, deviceId := "lamp", ruleId := none, message := "Lamp is offline"
    reason := "", severity := .warning, raisedAt := 0, pluginId := none, topic := none, key := none
    devicePluginId := none }

/-- The alert clears while the run waits for it. -/
def clearedInTime : List AlertInput :=
  [.subscribe, .look 0, .publish (.roomChanged 0), .clear 1 "lamp" none, .poll 2, .write, .poll 3]

theorem waits_until_cleared :
    Runs.Always (AlertWait.step 2 "lamp:offline" 60) AlertWait.Right (.start .listed) clearedInTime := by
  refine (waits_right 2 "lamp:offline" 60 .listed clearedInTime ⟨none, none, none⟩ []).1 ?_
  refine ⟨trivial, fun raised => ?_, trivial, trivial, fun lags => ?_, trivial, fun lags => ?_, trivial⟩
  · cases raised
  · exact absurd lags (by decide)
  · exact absurd lags (by decide)

/-- A receiver that lost an event ends either wait, though the alert is still active and the
doorbell was not rung; and an alert that was just raised is taken for cleared. -/
theorem lost_events_end_waits :
    let crowd : List Event := [.roomChanged 0, .roomChanged 0]
    ¬ Runs.Always (AlertWait.step 1 "lamp:offline" 60) AlertWait.Right (.start .listed)
        ([.subscribe, .look 0] ++ crowd.map .publish ++ [.poll 0]) ∧
      ¬ Runs.Always (AlertWait.step 1 "lamp:offline" 60) AlertWait.Right (.start .absent)
        [.raise 0 lampOffline, .subscribe, .look 0] ∧
      ¬ Runs.Always (EventWait.step 1 ⟨some "doorbell", none, none⟩)
        (EventWait.Right ⟨some "doorbell", none, none⟩) .notBegun
        ([.subscribe] ++ crowd.map .publish ++ [.poll]) := by
  intro crowd
  refine ⟨fun always => ?_, fun always => ?_, fun always => ?_⟩
  · have wrong : false = true := always.last
    cases wrong
  · have wrong : false = true := always.last
    cases wrong
  · have wrong : false = true := always.last
    cases wrong

end HomeCore.Engine
