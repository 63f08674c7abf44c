import HomeCore.Streaming.Streams
import HomeCore.TaskList
import HomeCore.Types.MergePatch

/-! Streaming actions on the plugin's side: the dispatcher that starts, cancels and answers streams, the
contexts that closures emit through, and how a stream is brought to its end. Between two awaits a task
goes on alone; which goes on next, and what a closure does, is up to the run. -/
namespace HomeCore.PluginStreams
open Streaming (Message Payload streamTopic endsStream)

inductive ItemOp where
  | add
  | update
  | remove

def ItemOp.text : ItemOp → String
  | .add => "add"
  | .update => "update"
  | .remove => "remove"

/-- What a method of the context emits. -/
inductive Emission where
  | awaitingUser (prompt : String) (responseSchema : Option Json)
  | progress (percent : Option UInt8) (label message : Option String)
  | item (op : ItemOp) (data : Json)
  | warning (message : String) (data : Option Json)
  | complete (data : Json)
  | error (message : String)
  | canceled
  /-- What is made up for a closure that ended nothing. -/
  | dropped (result : Except String Unit)

namespace Emission

def stage : Emission → String
  | .awaitingUser .. => "awaiting_user"
  | .progress .. => "progress"
  | .item .. => "item"
  | .warning .. => "warning"
  | .complete .. => "complete"
  | .error .. => "error"
  | .canceled => "canceled"
  | .dropped .. => "error"

def isTerminal : Emission → Bool
  | .complete .. => true
  | .error .. => true
  | .canceled => true
  | .dropped .. => true
  | _ => false

def droppedMessage : Except String Unit → String
  | .ok () => "plugin dropped stream without emitting a terminal stage"
  | .error cause => "plugin action failed: " ++ cause

def optional (key : String) (value : Option Json) : List (String × Json) := (value.map fun v => (key, v)).toList

/-- The fields beside the stage. -/
def fields : Emission → List (String × Json)
  | .awaitingUser prompt responseSchema => ("prompt", .str prompt) :: optional "response_schema" responseSchema
  | .progress percent label message =>
    optional "percent" (percent.map fun p => .num (.posInt p.toNat)) ++ optional "label" (label.map .str) ++
      optional "message" (message.map .str)
  | .item op data => [("op", .str op.text), ("data", data)]
  | .warning message data => ("message", .str message) :: optional "data" data
  | .complete data => [("data", data)]
  | .error message => [("message", .str message)]
  | .canceled => []
  | .dropped result =>
    [("message", .str (droppedMessage result)), ("data", .obj [("reason", .str "plugin_dropped_stream")])]

/-- The event with the common fields filled in. -/
def event (emission : Emission) (requestId ts : String) : Json :=
  .obj ((((Std.ExtTreeMap.ofList emission.fields : AttrMap).insert "stage" (.str emission.stage)).insert
    "request_id" (.str requestId)).insert "ts" (.str ts)).toList

end Emission

/-! ## One stream -/

inductive Phase where
  | running
  /-- The closure has returned, and the error made up for it is yet to be published. -/
  | synthesizing (event : Json)
  | clearing
  | removing
  | finished
  /-- The closure panicked, and the task with it. -/
  | panicked
  deriving DecidableEq

structure PluginStream where
  requestId : String
  cancel : Bool
  /-- The latch. -/
  terminal : Bool
  /-- What the respond channel holds, and whether the context is there that takes it. -/
  responses : List Json
  held : Bool
  /-- Events past the latch that the client has not taken yet. -/
  emitting : List Json
  phase : Phase
  /-- The responses taken; no step reads them. -/
  taken : List Json

/-- What the closure and the task around it do next. -/
inductive StreamMove where
  | emit (emission : Emission) (ts : String)
  /-- The client takes an event, or fails to. -/
  | publish (index : Nat) (accepted : Bool)
  /-- The future of an emission is dropped. -/
  | abandon (index : Nat)
  /-- `await_respond`. -/
  | take
  /-- The context is dropped. -/
  | release
  | returns (result : Except String Unit) (ts : String)
  | finalize (accepted : Bool)
  | panics

namespace PluginStream

def start (requestId : String) : PluginStream := ⟨requestId, false, false, [], true, [], .running, []⟩

/-- The next move, and what it publishes on the stream's topic. -/
def go (s : PluginStream) : StreamMove → PluginStream × List Payload
  | .emit emission ts =>
    if s.held && !s.terminal then
      ({ s with
        terminal := emission.isTerminal
        emitting := s.emitting ++ [emission.event s.requestId ts] }, [])
    else (s, [])
  | .publish index accepted => match s.emitting[index]? with
    | some event => ({ s with emitting := s.emitting.eraseIdx index }, if accepted then [.json event] else [])
    | none => (s, [])
  | .abandon index => ({ s with emitting := s.emitting.eraseIdx index }, [])
  | .take => match s.held, s.responses with
    | true, response :: rest => ({ s with responses := rest, taken := s.taken ++ [response] }, [])
    | _, _ => (s, [])
  -- What the channel still holds is lost with its receiver.
  | .release => if s.emitting = [] then ({ s with held := false, responses := [] }, []) else (s, [])
  | .returns result ts => match s.phase with
    | .running =>
      if s.terminal then ({ s with phase := .clearing }, [])
      else
        ({ s with terminal := true, phase := .synthesizing ((Emission.dropped result).event s.requestId ts) }, [])
    | _ => (s, [])
  -- A publish that fails here is passed over.
  | .finalize accepted => match s.phase with
    | .synthesizing event => ({ s with phase := .clearing }, if accepted then [.json event] else [])
    | .clearing => ({ s with phase := .removing }, if accepted then [.empty] else [])
    | .removing => ({ s with phase := .finished }, [])
    | _ => (s, [])
  | .panics => match s.phase with
    | .running => ({ s with phase := .panicked }, [])
    | _ => (s, [])

end PluginStream

/-! ## The plugin -/

structure Plugin where
  pluginId : String
  /-- The ids of its streaming actions. -/
  actions : List String
  streams : List PluginStream
  /-- `active_streams`: the stream, by its number, that a request's cancels and responses go to. -/
  active : Std.ExtTreeMap String Nat
  published : List Message
  replies : List Json
  /-- The cancels and the responses that were answered with ok; no step reads them. -/
  canceled : List String
  responded : List (String × Json)

inductive PluginInput where
  | command (cmd : Json)
  | move (stream : Nat) (move : StreamMove)

namespace Plugin

def new (pluginId : String) (actions : List String) : Plugin := ⟨pluginId, actions, [], ∅, [], [], [], []⟩

/-- A text that is read off a command, empty where there is none. -/
def text (cmd : Json) (key : String) : String := ((cmd.get key).bind Json.asStr).getD ""

def ok (requestId : String) : Json := .obj [("request_id", .str requestId), ("status", .str "ok")]

def refusal (requestId error : String) : Json :=
  .obj [("error", .str error), ("request_id", .str requestId), ("status", .str "error")]

def accepted (requestId topic : String) : Json :=
  .obj [("request_id", .str requestId), ("status", .str "accepted"), ("stream_topic", .str topic)]

def dispatchCancel (p : Plugin) (cmd : Json) : Plugin × Json :=
  match (cmd.get "target_request_id").bind Json.asStr with
  | none => (p, refusal (text cmd "request_id") "cancel requires target_request_id")
  | some target => match p.active[target]? with
    | some k => ({ p with
        streams := p.streams.modify k fun s => { s with cancel := true }
        canceled := p.canceled ++ [target] }, ok (text cmd "request_id"))
    | none => (p, refusal (text cmd "request_id") "no active stream for target_request_id")

/-- The channel takes a response as long as the context is there. -/
def dispatchRespond (p : Plugin) (cmd : Json) : Plugin × Json :=
  match (cmd.get "target_request_id").bind Json.asStr with
  | none => (p, refusal (text cmd "request_id") "respond requires target_request_id")
  | some target =>
    let response := (cmd.get "response").getD (.obj [])
    match p.active[target]?.filter fun k => p.streams[k]?.any (·.held) with
    | some k => ({ p with
        streams := p.streams.modify k fun s => { s with responses := s.responses ++ [response] }
        responded := p.responded ++ [(target, response)] }, ok (text cmd "request_id"))
    | none => (p, refusal (text cmd "request_id") "no active awaiting_user stream for target_request_id")

def dispatchStreamingAction (p : Plugin) (cmd : Json) : Plugin × Json :=
  let requestId := text cmd "request_id"
  if requestId = "" then
    (p, .obj [("error", .str "streaming action requires request_id on the command"), ("status", .str "error")])
  else ({ p with
      streams := p.streams ++ [.start requestId]
      active := p.active.insert requestId p.streams.length },
    accepted requestId (streamTopic p.pluginId requestId))

/-- The other actions touch no stream. -/
def dispatchAction (p : Plugin) (cmd : Json) : Plugin × Option Json :=
  if text cmd "action" = "cancel" then ((p.dispatchCancel cmd).1, some (p.dispatchCancel cmd).2)
  else if text cmd "action" = "respond" then ((p.dispatchRespond cmd).1, some (p.dispatchRespond cmd).2)
  else if text cmd "action" ∈ p.actions then
    ((p.dispatchStreamingAction cmd).1, some (p.dispatchStreamingAction cmd).2)
  else (p, none)

/-- One stream goes on; at its end the request is no longer active. -/
def moveStream (p : Plugin) (k : Nat) (move : StreamMove) : Plugin :=
  match p.streams[k]? with
  | none => p
  | some s =>
    let (next, payloads) := s.go move
    { p with
      streams := p.streams.set k next
      active := if next.phase = .finished ∧ s.phase ≠ .finished then p.active.erase s.requestId else p.active
      published := p.published ++ payloads.map fun payload => ⟨streamTopic p.pluginId s.requestId, payload⟩ }

def step (p : Plugin) : PluginInput → Plugin
  | .command cmd =>
    let (next, reply) := p.dispatchAction cmd
    { next with replies := next.replies ++ reply.toList }
  | .move k move => p.moveStream k move

end Plugin

/-! ## Every stream ends once -/

theorem endsStream_event (emission : Emission) (requestId ts : String) :
    endsStream (emission.event requestId ts) = emission.isTerminal := by
  rw [endsStream, Emission.event, Json.get_obj_toList]
  simp only [Std.ExtTreeMap.getElem?_insert, Std.compare_eq_iff_eq, String.reduceEq, if_true, if_false,
    Option.bind_some, Json.asStr, Option.any_some]
  cases emission <;> rfl

def isEnd : Payload → Bool
  | .json event => endsStream event
  | _ => false

namespace PluginStream

/-- The terminal events that are out or on their way. -/
def terminals (s : PluginStream) (said : List Payload) : Nat :=
  said.countP isEnd + s.emitting.countP endsStream + match s.phase with
    | .synthesizing event => if endsStream event then 1 else 0
    | _ => 0

/-- The latch counts the terminal events. -/
def Once (s : PluginStream) (said : List Payload) : Prop := s.terminals said ≤ s.terminal.toNat

theorem countP_eraseIdx_add {events : List Json} {index : Nat} {event : Json} (found : events[index]? = some event) :
    (events.eraseIdx index).countP endsStream + (if endsStream event then 1 else 0) = events.countP endsStream := by
  obtain ⟨inside, isEvent⟩ := List.getElem?_eq_some_iff.mp found
  have perm := List.getElem_cons_eraseIdx_perm inside
  rw [isEvent] at perm
  rw [← perm.countP_eq, List.countP_cons]

theorem countP_json (said : List Payload) (event : Json) (accepted : Bool) :
    (said ++ if accepted then [Payload.json event] else []).countP isEnd ≤
      said.countP isEnd + if endsStream event then 1 else 0 := by
  cases accepted with
  | true =>
    rw [if_pos rfl, List.countP_append, List.countP_cons, List.countP_nil, Nat.zero_add]
    exact Nat.le_refl _
  | false => simp

theorem countP_empty (said : List Payload) (accepted : Bool) :
    (said ++ if accepted then [Payload.empty] else []).countP isEnd = said.countP isEnd := by
  cases accepted <;> simp [isEnd]

theorem once_go {s : PluginStream} {said : List Payload} (once : s.Once said) (move : StreamMove) :
    (s.go move).1.Once (said ++ (s.go move).2) := by
  cases move with
  | emit emission ts =>
    rw [go]
    split
    · rename_i free
      simp only [Bool.and_eq_true, Bool.not_eq_true'] at free
      simp only [Once, terminals, free.2, Bool.toNat_false] at once
      simp only [Once, terminals, List.append_nil, List.countP_append, List.countP_cons, List.countP_nil,
        endsStream_event]
      cases emission.isTerminal with
      | true =>
        simp only [if_true, Bool.toNat_true]
        omega
      | false =>
        simp only [Bool.false_eq_true, if_false, Bool.toNat_false]
        omega
    · rw [List.append_nil]
      exact once
  | publish index accepted =>
    rw [go]
    split
    · rename_i event found
      have count := countP_eraseIdx_add found
      have out := countP_json said event accepted
      simp only [Once, terminals] at once ⊢
      omega
    · rw [List.append_nil]
      exact once
  | abandon index =>
    have fewer := (List.eraseIdx_sublist s.emitting index).countP_le (p := endsStream)
    simp only [Once, terminals] at once
    simp only [go, Once, terminals, List.append_nil]
    omega
  | take =>
    rw [go]
    split <;> (rw [List.append_nil]; exact once)
  | release =>
    rw [go]
    split <;> (rw [List.append_nil]; exact once)
  | returns result ts =>
    rw [go]
    split
    · rename_i running
      split
      · simp only [Once, terminals, running] at once
        simpa only [Once, terminals, List.append_nil] using once
      · rename_i unlatched
        simp only [Once, terminals, running, Bool.eq_false_iff.mpr unlatched, Bool.toNat_false] at once
        simp only [Once, terminals, List.append_nil, endsStream_event, Emission.isTerminal, if_true,
          Bool.toNat_true]
        omega
    · rw [List.append_nil]
      exact once
  | finalize accepted =>
    rw [go]
    split
    · rename_i event synthesizing
      have out := countP_json said event accepted
      simp only [Once, terminals, synthesizing] at once ⊢
      omega
    · rename_i clearing
      simp only [Once, terminals, clearing, countP_empty] at once ⊢
      omega
    · rename_i removing
      simp only [Once, terminals, removing] at once
      simpa only [Once, terminals, List.append_nil] using once
    · rw [List.append_nil]
      exact once
  | panics =>
    rw [go]
    split
    · rename_i running
      simp only [Once, terminals, running] at once
      simpa only [Once, terminals, List.append_nil] using once
    · rw [List.append_nil]
      exact once

/-! ## What a client hears when each emission is awaited -/

/-- How far a client has heard a stream. -/
inductive Heard where
  | going
  | ended
  | cleared

/-- A client takes events up to the one that ends the stream, and after it the clearing of the topic. -/
def hear : Heard → Payload → Option Heard
  | .going, .json event => some (if endsStream event then .ended else .going)
  | .ended, .empty => some .cleared
  | _, _ => none

theorem hear_snoc {said : List Payload} {payload : Payload} {heard next : Heard}
    (before : said.foldlM hear .going = some heard) (now : hear heard payload = some next) :
    (said ++ [payload]).foldlM hear .going = some next := by
  rw [List.foldlM_append, before]
  simpa using now

/-- How far a client has heard, by where the stream stands. -/
def heardBy (s : PluginStream) : Heard :=
  match s.phase with
  | .running => if s.terminal ∧ s.emitting = [] then .ended else .going
  | .panicked => if s.terminal ∧ s.emitting = [] then .ended else .going
  | .synthesizing _ => .going
  | .clearing => .ended
  | .removing => .cleared
  | .finished => .cleared

/-- The closure is not done, or never will be. -/
def IsOpen (s : PluginStream) : Prop := s.phase = .running ∨ s.phase = .panicked

structure Contract (s : PluginStream) (said : List Payload) : Prop where
  heard : said.foldlM hear .going = some s.heardBy
  inFlight : s.emitting = [] ∨ ∃ event, s.emitting = [event] ∧ endsStream event = s.terminal
  finalizing : s.IsOpen ∨ (s.emitting = [] ∧ s.terminal = true)
  synthesized : ∀ event, s.phase = .synthesizing event → endsStream event = true

theorem heardBy_open {s : PluginStream} (isOpen : s.IsOpen) :
    s.heardBy = if s.terminal ∧ s.emitting = [] then .ended else .going := by
  rcases isOpen with isPhase | isPhase <;> rw [heardBy, isPhase]

theorem IsOpen.unsynthesized {s : PluginStream} (isOpen : s.IsOpen) (event : Json) : s.phase ≠ .synthesizing event := by
  rcases isOpen with isPhase | isPhase <;> rw [isPhase] <;> simp

/-- Each emission is awaited before the next and before the closure returns, and the client takes every event. -/
def Awaited (s : PluginStream) : StreamMove → Prop
  | .emit .. => s.emitting = []
  | .publish _ accepted => accepted = true
  | .abandon _ => False
  | .returns .. => s.emitting = []
  | .finalize accepted => accepted = true
  | _ => True

instance Awaited.decidable (s : PluginStream) : ∀ move, Decidable (s.Awaited move)
  | .emit .. => inferInstanceAs (Decidable (s.emitting = []))
  | .publish _ accepted => inferInstanceAs (Decidable (accepted = true))
  | .abandon _ => .isFalse id
  | .take => .isTrue trivial
  | .release => .isTrue trivial
  | .returns .. => inferInstanceAs (Decidable (s.emitting = []))
  | .finalize accepted => inferInstanceAs (Decidable (accepted = true))
  | .panics => .isTrue trivial

theorem contract_start (requestId : String) : (start requestId).Contract [] where
  heard := rfl
  inFlight := .inl rfl
  finalizing := .inl (.inl rfl)
  synthesized := by simp [start]

theorem Contract.emit {s : PluginStream} {said : List Payload} (contract : s.Contract said)
    (free : s.terminal = false) (emission : Emission) (ts : String) (awaited : s.emitting = []) :
    ({ s with
      terminal := emission.isTerminal
      emitting := s.emitting ++ [emission.event s.requestId ts] } : PluginStream).Contract said := by
  have isOpen : s.IsOpen := contract.finalizing.resolve_right fun isDone => by simp [free] at isDone
  refine ⟨?_, .inr ⟨_, by rw [awaited]; rfl, endsStream_event ..⟩, .inl isOpen, ?_⟩
  · rw [contract.heard]
    rcases isOpen with isPhase | isPhase <;> simp [heardBy, isPhase, free]
  · intro event isPhase
    exact (isOpen.unsynthesized event isPhase).elim

/-- The client takes the event in flight. -/
theorem Contract.publish {s : PluginStream} {said : List Payload} (contract : s.Contract said) {index : Nat}
    {event : Json} (found : s.emitting[index]? = some event) :
    ({ s with emitting := s.emitting.eraseIdx index } : PluginStream).Contract (said ++ [.json event]) := by
  obtain ⟨inside, isEvent⟩ := List.getElem?_eq_some_iff.mp found
  obtain ⟨sole, inFlight, latch⟩ := contract.inFlight.resolve_left fun none => by simp [none] at inside
  obtain rfl : index = 0 := by simpa [inFlight] using inside
  obtain rfl : sole = event := by simpa [inFlight] using isEvent
  have isOpen : s.IsOpen := contract.finalizing.resolve_right fun isDone => by simp [inFlight] at isDone
  have heard := contract.heard
  rw [heardBy_open isOpen, inFlight, if_neg (by simp)] at heard
  refine ⟨hear_snoc heard ?_, .inl (by rw [inFlight]; rfl), .inl isOpen, ?_⟩
  · rcases isOpen with isPhase | isPhase <;> simp [heardBy, isPhase, hear, inFlight, latch]
  · intro event isPhase
    exact (isOpen.unsynthesized event isPhase).elim

theorem Contract.returns {s : PluginStream} {said : List Payload} (contract : s.Contract said)
    (running : s.phase = .running) (awaited : s.emitting = []) (result : Except String Unit) (ts : String) :
    (s.go (.returns result ts)).1.Contract said := by
  have heard := contract.heard
  rw [heardBy_open (.inl running)] at heard
  simp only [go, running]
  split
  · rename_i latched
    rw [if_pos ⟨latched, awaited⟩] at heard
    exact ⟨heard, .inl awaited, .inr ⟨awaited, latched⟩, by simp⟩
  · rename_i unlatched
    rw [if_neg fun both => unlatched both.1] at heard
    refine ⟨heard, .inl awaited, .inr ⟨awaited, rfl⟩, ?_⟩
    intro event isEvent
    cases isEvent
    rw [endsStream_event]
    rfl

theorem Contract.finalize {s : PluginStream} {said : List Payload} (contract : s.Contract said) :
    (s.go (.finalize true)).1.Contract (said ++ (s.go (.finalize true)).2) := by
  have heard := contract.heard
  have isDone : s.IsOpen ∨ (s.emitting = [] ∧ s.terminal = true) := contract.finalizing
  simp only [go]
  split
  · rename_i event synthesizing
    have isDone := isDone.resolve_left fun isOpen => isOpen.unsynthesized event synthesizing
    rw [heardBy, synthesizing] at heard
    refine ⟨hear_snoc heard ?_, .inl isDone.1, .inr isDone, by simp⟩
    simp [hear, contract.synthesized event synthesizing, heardBy]
  · rename_i clearing
    have isDone := isDone.resolve_left (by simp [IsOpen, clearing])
    rw [heardBy, clearing] at heard
    exact ⟨hear_snoc heard rfl, .inl isDone.1, .inr isDone, by simp⟩
  · rename_i removing
    have isDone := isDone.resolve_left (by simp [IsOpen, removing])
    rw [heardBy, removing] at heard
    rw [List.append_nil]
    exact ⟨heard, .inl isDone.1, .inr isDone, by simp⟩
  · rw [List.append_nil]
    exact contract

theorem contract_go {s : PluginStream} {said : List Payload} (contract : s.Contract said) {move : StreamMove}
    (awaited : s.Awaited move) : (s.go move).1.Contract (said ++ (s.go move).2) := by
  cases move with
  | emit emission ts =>
    rw [go]
    split
    · rename_i free
      simp only [Bool.and_eq_true, Bool.not_eq_true'] at free
      rw [List.append_nil]
      exact contract.emit free.2 emission ts awaited
    · rw [List.append_nil]
      exact contract
  | publish index accepted =>
    have isAccepted : accepted = true := awaited
    rw [go, isAccepted]
    split
    · rename_i event found
      exact contract.publish found
    · rw [List.append_nil]
      exact contract
  | abandon index => exact awaited.elim
  | take =>
    rw [go]
    split
    · rw [List.append_nil]
      exact ⟨contract.heard, contract.inFlight, contract.finalizing, contract.synthesized⟩
    · rw [List.append_nil]
      exact contract
  | release =>
    rw [go]
    split
    · rw [List.append_nil]
      exact ⟨contract.heard, contract.inFlight, contract.finalizing, contract.synthesized⟩
    · rw [List.append_nil]
      exact contract
  | returns result ts =>
    by_cases running : s.phase = .running
    · have nothing : (s.go (.returns result ts)).2 = [] := by
        simp only [go, running]
        split <;> rfl
      rw [nothing, List.append_nil]
      exact contract.returns running awaited result ts
    · rw [go]
      split
      · rename_i isRunning
        exact absurd isRunning running
      · rw [List.append_nil]
        exact contract
  | finalize accepted =>
    have isAccepted : accepted = true := awaited
    rw [isAccepted]
    exact contract.finalize
  | panics =>
    rw [go]
    split
    · rename_i running
      rw [List.append_nil]
      have heard := contract.heard
      rw [heardBy_open (.inl running)] at heard
      exact ⟨heard, contract.inFlight, .inl (.inr rfl), by simp⟩
    · rw [List.append_nil]
      exact contract

/-! ## What the moves leave alone -/

/-- While the context is there each of these responses was taken or waits to be; once it is gone none
waits, and those that were taken are the first ones. -/
def Answered (s : PluginStream) (responded : List Json) : Prop :=
  if s.held then responded = s.taken ++ s.responses else s.responses = [] ∧ s.taken <+: responded

/-- A move leaves the request id and the cancel flag, and takes no response twice. -/
structure Beside (s next : PluginStream) : Prop where
  requestId : next.requestId = s.requestId
  cancel : next.cancel = s.cancel
  answered : ∀ responded, s.Answered responded → next.Answered responded
  finished : s.phase = .finished → next.phase = .finished

theorem Beside.refl (s : PluginStream) : s.Beside s := ⟨rfl, rfl, fun _ => id, id⟩

theorem Answered.take {s : PluginStream} {responded rest : List Json} {response : Json} (held : s.held = true)
    (waiting : s.responses = response :: rest) (answered : s.Answered responded) :
    ({ s with responses := rest, taken := s.taken ++ [response] } : PluginStream).Answered responded := by
  rw [Answered, if_pos held] at answered
  rw [Answered, if_pos held, answered, waiting, List.append_assoc]
  rfl

theorem Answered.release {s : PluginStream} {responded : List Json} (answered : s.Answered responded) :
    ({ s with held := false, responses := [] } : PluginStream).Answered responded := by
  rw [Answered, if_neg Bool.false_ne_true]
  rw [Answered] at answered
  split at answered
  · exact ⟨rfl, answered ▸ List.prefix_append _ _⟩
  · exact ⟨rfl, answered.2⟩

theorem Answered.respond {s : PluginStream} {responded : List Json} (held : s.held = true)
    (answered : s.Answered responded) (response : Json) :
    ({ s with responses := s.responses ++ [response] } : PluginStream).Answered (responded ++ [response]) := by
  rw [Answered, if_pos held] at answered
  rw [Answered, if_pos held, answered, List.append_assoc]

theorem beside_go (s : PluginStream) (move : StreamMove) : s.Beside (s.go move).1 := by
  cases move with
  | emit emission ts =>
    rw [go]
    split
    · exact ⟨rfl, rfl, fun _ => id, id⟩
    · exact .refl s
  | publish index accepted =>
    rw [go]
    split
    · exact ⟨rfl, rfl, fun _ => id, id⟩
    · exact .refl s
  | abandon index => exact ⟨rfl, rfl, fun _ => id, id⟩
  | take =>
    rw [go]
    split
    · rename_i response rest held waiting
      exact ⟨rfl, rfl, fun _ answered => answered.take held waiting, id⟩
    · exact .refl s
  | release =>
    rw [go]
    split
    · exact ⟨rfl, rfl, fun _ answered => answered.release, id⟩
    · exact .refl s
  | returns result ts =>
    rw [go]
    split
    · rename_i running
      split
      · exact ⟨rfl, rfl, fun _ => id, fun finished => by simp [running] at finished⟩
      · exact ⟨rfl, rfl, fun _ => id, fun finished => by simp [running] at finished⟩
    · exact .refl s
  | finalize accepted =>
    rw [go]
    split
    · rename_i synthesizing
      exact ⟨rfl, rfl, fun _ => id, fun finished => by simp [synthesizing] at finished⟩
    · rename_i clearing
      exact ⟨rfl, rfl, fun _ => id, fun finished => by simp [clearing] at finished⟩
    · exact ⟨rfl, rfl, fun _ => id, fun _ => rfl⟩
    · exact .refl s
  | panics =>
    rw [go]
    split
    · rename_i running
      exact ⟨rfl, rfl, fun _ => id, fun finished => by simp [running] at finished⟩
    · exact .refl s

end PluginStream

/-! ## The streams beside one another -/

namespace Plugin

/-- What was published on the topic of a request, in order. -/
def said (p : Plugin) (requestId : String) : List Payload :=
  (p.published.filter fun m => m.topic = streamTopic p.pluginId requestId).map (·.payload)

def requestIds (p : Plugin) : List String := p.streams.map (·.requestId)

/-- A command that starts a stream has a request id of its own. -/
def Fresh (p : Plugin) : PluginInput → Prop
  | .command cmd => text cmd "action" ∈ p.actions → text cmd "request_id" ∉ p.requestIds
  | .move .. => True

/-- A move is one that the stream may make. -/
def Allowed (may : PluginStream → StreamMove → Prop) (p : Plugin) : PluginInput → Prop
  | .command _ => True
  | .move k move => ∀ s, p.streams[k]? = some s → may s move

instance Fresh.decidable (p : Plugin) : ∀ input, Decidable (p.Fresh input)
  | .command cmd =>
    inferInstanceAs (Decidable (text cmd "action" ∈ p.actions → text cmd "request_id" ∉ p.requestIds))
  | .move .. => .isTrue trivial

instance Allowed.decidable (may : PluginStream → StreamMove → Prop) [∀ s move, Decidable (may s move)] (p : Plugin) :
    ∀ input, Decidable (p.Allowed may input)
  | .command _ => .isTrue trivial
  | .move k move => inferInstanceAs (Decidable (∀ s ∈ p.streams[k]?, may s move))

theorem streamTopic_inj {pluginId a b : String} : streamTopic pluginId a = streamTopic pluginId b ↔ a = b := by
  constructor
  · intro same
    unfold streamTopic at same
    exact (String.append_right_inj _).mp ((String.append_left_inj _).mp same)
  · exact congrArg (streamTopic pluginId)

theorem said_append (topic requestId : String) (payloads : List Payload) (pluginId : String) :
    ((payloads.map fun payload => (⟨topic, payload⟩ : Message)).filter fun m =>
      m.topic = streamTopic pluginId requestId).map (·.payload) =
      if topic = streamTopic pluginId requestId then payloads else [] := by
  induction payloads with
  | nil => simp
  | cons payload rest ih =>
    by_cases isTopic : topic = streamTopic pluginId requestId
    · simp_all
    · simp_all

/-- The responses that were answered with ok for a request, in order. -/
def respondedTo (p : Plugin) (requestId : String) : List Json :=
  (p.responded.filter fun r => r.1 = requestId).map Prod.snd

/-- What the plugin has for a request beside its stream. -/
@[ext] structure View where
  said : List Payload
  entry : Option Nat
  canceled : Bool
  responded : List Json

def view (p : Plugin) (requestId : String) : View where
  said := p.said requestId
  entry := p.active[requestId]?
  canceled := requestId ∈ p.canceled
  responded := p.respondedTo requestId

/-- What holds of every stream and of what the plugin has for its request. -/
structure Each (inv : Nat → PluginStream → View → Prop) (p : Plugin) : Prop where
  distinct : p.requestIds.Nodup
  strangers : ∀ requestId ∉ p.requestIds, p.view requestId = ⟨[], none, false, []⟩
  entries : ∀ (requestId : String) (k : Nat), p.active[requestId]? = some k →
    ∃ s, p.streams[k]? = some s ∧ s.requestId = requestId
  each : ∀ (k : Nat) (s : PluginStream), p.streams[k]? = some s → inv k s (p.view s.requestId)

/-- A property that a stream begins with, and that its moves, cancels and responses keep. -/
structure Own (may : PluginStream → StreamMove → Prop) (inv : Nat → PluginStream → View → Prop) : Prop where
  start : ∀ k requestId, inv k (.start requestId) ⟨[], some k, false, []⟩
  go : ∀ k s view move, inv k s view → may s move → inv k (s.go move).1 { view with
    said := view.said ++ (s.go move).2
    entry := if (s.go move).1.phase = .finished ∧ s.phase ≠ .finished then none else view.entry }
  cancel : ∀ k s view, inv k s view → inv k { s with cancel := true } { view with canceled := true }
  respond : ∀ k s view response, s.held = true → inv k s view →
    inv k { s with responses := s.responses ++ [response] } { view with responded := view.responded ++ [response] }

section Each
variable {may : PluginStream → StreamMove → Prop} {inv : Nat → PluginStream → View → Prop} {p : Plugin}

/-- One stream goes on, with what the plugin has for its request, and the others do not notice. -/
theorem Each.set (each : p.Each inv) {k : Nat} {s next : PluginStream} {view : View} {after : Plugin}
    (found : p.streams[k]? = some s) (streams : after.streams = p.streams.set k next) (holds : inv k next view)
    (isView : after.view s.requestId = view) (sameId : next.requestId = s.requestId)
    (others : ∀ requestId, requestId ≠ s.requestId → after.view requestId = p.view requestId)
    (entry : view.entry = none ∨ view.entry = p.active[s.requestId]?) : after.Each inv := by
  have ids : after.requestIds = p.requestIds := by
    rw [requestIds, streams]
    exact TaskList.map_set found sameId
  have isKnown : s.requestId ∈ p.requestIds := List.mem_map.mpr ⟨s, List.mem_of_getElem? found, rfl⟩
  have before : ∀ (requestId : String) (j : Nat), after.active[requestId]? = some j →
      p.active[requestId]? = some j := by
    intro requestId j active
    by_cases isId : requestId = s.requestId
    · have now : after.active[s.requestId]? = view.entry := congrArg View.entry isView
      rw [isId, now] at active
      rw [isId]
      rcases entry with gone | stays
      · rw [gone] at active
        cases active
      · rw [← stays, active]
    · exact (congrArg View.entry (others requestId isId)).symm.trans active
  refine ⟨ids ▸ each.distinct, ?_, ?_, ?_⟩
  · intro requestId stranger
    rw [ids] at stranger
    rw [others requestId fun isId => stranger (isId ▸ isKnown)]
    exact each.strangers requestId stranger
  · intro requestId j active
    obtain ⟨old, foundOld, isId⟩ := each.entries requestId j (before requestId j active)
    rw [streams, List.getElem?_set]
    by_cases isK : k = j
    · obtain rfl := isK
      rw [found] at foundOld
      cases foundOld
      exact ⟨next, by rw [if_pos rfl, if_pos (List.getElem?_eq_some_iff.mp found).1], sameId.trans isId⟩
    · exact ⟨old, by rw [if_neg isK, foundOld], isId⟩
  · intro j other foundJ
    rw [streams] at foundJ
    rcases TaskList.set_cases_named each.distinct found foundJ with ⟨rfl, rfl⟩ | ⟨foundOld, apart⟩
    · rw [sameId, isView]
      exact holds
    · rw [others other.requestId apart]
      exact each.each j other foundOld

theorem Each.move (own : Own may inv) (each : p.Each inv) {k : Nat} {move : StreamMove}
    (allowed : ∀ s, p.streams[k]? = some s → may s move) : (p.moveStream k move).Each inv := by
  rw [moveStream]
  split
  · exact each
  · rename_i s found
    have goes := own.go k s (p.view s.requestId) move (each.each k s found) (allowed s found)
    refine each.set found rfl goes (View.ext ?_ ?_ rfl rfl) (s.beside_go move).requestId ?_ ?_
    · simp only [view, said, List.filter_append, List.map_append, said_append, if_true]
    · simp only [view]
      split
      · exact Std.ExtTreeMap.getElem?_erase_self
      · rfl
    · intro requestId apart
      refine View.ext ?_ ?_ rfl rfl
      · simp only [view, said, List.filter_append, List.map_append, said_append, streamTopic_inj, if_neg apart.symm,
          List.append_nil]
      · simp only [view]
        split
        · rw [Std.ExtTreeMap.getElem?_erase, if_neg]
          simpa using apart.symm
        · rfl
    · dsimp only
      split
      · exact .inl rfl
      · exact .inr rfl

theorem Each.cancel (own : Own may inv) (each : p.Each inv) (cmd : Json) : (p.dispatchCancel cmd).1.Each inv := by
  rw [dispatchCancel]
  split
  · exact each
  · rename_i target _
    split
    · rename_i k active
      obtain ⟨s, found, rfl⟩ := each.entries target k active
      refine each.set found (TaskList.modify_eq_set found _) (own.cancel k s _ (each.each k s found))
        (View.ext rfl rfl ?_ rfl) rfl ?_ (.inr rfl)
      · simp [view]
      · intro requestId apart
        exact View.ext rfl rfl (by simp [view, apart]) rfl
    · exact each

theorem Each.respond (own : Own may inv) (each : p.Each inv) (cmd : Json) : (p.dispatchRespond cmd).1.Each inv := by
  rw [dispatchRespond]
  split
  · exact each
  · rename_i target _
    dsimp only
    split
    · rename_i k listening
      obtain ⟨active, listens⟩ := Option.filter_eq_some_iff.mp listening
      obtain ⟨s, found, rfl⟩ := each.entries target k active
      rw [found, Option.any_some] at listens
      refine each.set found (TaskList.modify_eq_set found _) (own.respond k s _ _ listens (each.each k s found))
        (View.ext rfl rfl rfl ?_) rfl ?_ (.inr rfl)
      · simp only [view, respondedTo, List.filter_append, List.map_append]
        simp
      · intro requestId apart
        refine View.ext rfl rfl rfl ?_
        simp [view, respondedTo, List.filter_append, apart.symm]
    · exact each

theorem Each.begin (own : Own may inv) (each : p.Each inv) {requestId : String} (fresh : requestId ∉ p.requestIds)
    {after : Plugin} (streams : after.streams = p.streams ++ [.start requestId])
    (others : ∀ other, other ≠ requestId → after.view other = p.view other)
    (begun : after.view requestId = ⟨[], some p.streams.length, false, []⟩) : after.Each inv := by
  have ids : after.requestIds = p.requestIds ++ [requestId] := by
    rw [requestIds, streams, List.map_append]
    rfl
  refine ⟨?_, ?_, ?_, ?_⟩
  · rw [ids]
    refine List.nodup_append.mpr ⟨each.distinct, List.nodup_singleton _, ?_⟩
    rintro other member same isSame rfl
    exact fresh (List.mem_singleton.mp isSame ▸ member)
  · intro stranger absent
    rw [ids, List.mem_append, List.mem_singleton, not_or] at absent
    rw [others stranger absent.2]
    exact each.strangers stranger absent.1
  · intro other k active
    rw [streams]
    by_cases isId : other = requestId
    · obtain rfl := isId
      obtain rfl : p.streams.length = k := Option.some.inj ((congrArg View.entry begun).symm.trans active)
      exact ⟨.start other, by simp, rfl⟩
    · have before := (congrArg View.entry (others other isId)).symm.trans active
      obtain ⟨s, found, isOther⟩ := each.entries other k before
      exact ⟨s, by rw [List.getElem?_append_left (List.getElem?_eq_some_iff.mp found).1, found], isOther⟩
  · intro k s found
    rw [streams] at found
    by_cases inside : k < p.streams.length
    · rw [List.getElem?_append_left inside] at found
      have apart : s.requestId ≠ requestId := by
        rintro rfl
        exact fresh (List.mem_map.mpr ⟨s, List.mem_of_getElem? found, rfl⟩)
      rw [others s.requestId apart]
      exact each.each k s found
    · rw [List.getElem?_append_right (Nat.le_of_not_lt inside), List.getElem?_singleton] at found
      split at found
      · cases found
        obtain rfl : k = p.streams.length := by omega
        have started := own.start p.streams.length requestId
        rw [← begun] at started
        exact started
      · cases found

theorem Each.step (own : Own may inv) (each : p.Each inv) {input : PluginInput} (fresh : p.Fresh input)
    (allowed : p.Allowed may input) : (p.step input).Each inv := by
  cases input with
  | command cmd =>
    have dispatched : (p.dispatchAction cmd).1.Each inv := by
      rw [dispatchAction]
      split
      · exact each.cancel own cmd
      · split
        · exact each.respond own cmd
        · split
          · rename_i streaming
            rw [dispatchStreamingAction]
            dsimp only
            split
            · exact each
            · refine each.begin own (fresh streaming) rfl ?_ ?_
              · intro other apart
                refine View.ext rfl ?_ rfl rfl
                simp only [view]
                rw [Std.ExtTreeMap.getElem?_insert, if_neg]
                simpa using apart.symm
              · have nothing := each.strangers _ (fresh streaming)
                simp only [view, View.mk.injEq] at nothing
                exact View.ext nothing.1 Std.ExtTreeMap.getElem?_insert_self nothing.2.2.1 nothing.2.2.2
          · exact each
    exact ⟨dispatched.distinct, dispatched.strangers, dispatched.entries, dispatched.each⟩
  | move k move => exact each.move own allowed

theorem each_run (own : Own may inv) (pluginId : String) (actions : List String) {inputs : List PluginInput}
    (steps : Runs.EachStep step (fun p input => p.Fresh input ∧ p.Allowed may input) (new pluginId actions) inputs) :
    Runs.Always step (Each inv) (new pluginId actions) inputs := by
  apply Runs.invariant (Each inv) _ _ steps
  · intro p input each safe
    exact each.step own safe.1 safe.2
  · exact ⟨List.nodup_nil, fun _ _ => View.ext rfl (by simp [view, new]) (by simp [view, new]) rfl, by simp [new],
      by simp [new]⟩

theorem fresh_allowed {pluginId : String} {actions : List String} {inputs : List PluginInput}
    (fresh : Runs.EachStep step Fresh (new pluginId actions) inputs) :
    Runs.EachStep step (fun p input => p.Fresh input ∧ p.Allowed (fun _ _ => True) input) (new pluginId actions)
      inputs := by
  refine fresh.mono fun p input isFresh => ⟨isFresh, ?_⟩
  cases input with
  | command cmd => trivial
  | move k move => exact fun _ _ => trivial

end Each

def asks (action requestId : String) (more : List (String × Json)) : PluginInput :=
  .command (.obj (("action", .str action) :: ("request_id", .str requestId) :: more))

def targets (requestId : String) : String × Json := ("target_request_id", .str requestId)

/-- Two streams are started. One is answered what it asks, and completes; the other is canceled, and drops
its context with a response in it. Both are brought to their ends. -/
def pairingStops : List PluginInput :=
  [asks "pair" "r1" [], asks "pair" "r2" [], .move 0 (.emit (.awaitingUser "press the button" none) "t"),
    .move 0 (.publish 0 true), asks "respond" "r3" [targets "r1", ("response", .bool true)], .move 0 .take,
    asks "cancel" "r4" [targets "r2"], asks "respond" "r5" [targets "r2"],
    .move 1 (.emit .canceled "t"), .move 1 (.publish 0 true), .move 1 .release, .move 1 (.returns (.ok ()) "t"),
    .move 0 (.emit (.complete .null) "t"), .move 0 (.publish 0 true), .move 0 (.returns (.ok ()) "t")] ++
  [0, 1, 0, 1, 0, 1].map fun k => .move k (.finalize true)

/-- However the streams and the commands go on beside one another, and whatever the closures do or the
client fails to take: no stream ends twice. -/
theorem one_terminal (pluginId : String) (actions : List String) {inputs : List PluginInput}
    (fresh : Runs.EachStep step Fresh (new pluginId actions) inputs) :
    Runs.Always step (fun p => ∀ s ∈ p.streams, (p.said s.requestId).countP isEnd ≤ 1)
      (new pluginId actions) inputs := by
  have own : Own (fun _ _ => True) fun _ s view => s.Once view.said :=
    ⟨fun _ _ => Nat.zero_le _, fun _ _ _ move once _ => PluginStream.once_go once move, fun _ _ _ once => once,
      fun _ _ _ _ _ once => once⟩
  refine (each_run own pluginId actions (fresh_allowed fresh)).mono fun p each s member => ?_
  obtain ⟨k, found⟩ := List.mem_iff_getElem?.mp member
  have once : s.Once (p.said s.requestId) := each.each k s found
  have latch := s.terminal.toNat_le
  rw [PluginStream.Once, PluginStream.terminals] at once
  omega

theorem pairing_ends_once : Runs.Always step (fun p => ∀ s ∈ p.streams, (p.said s.requestId).countP isEnd ≤ 1)
    (new "hub" ["pair"]) pairingStops :=
  one_terminal "hub" ["pair"] (by decide +kernel)

/-- A client understands all that every stream has said, and one that is finished has been ended and
cleared. -/
def KeepContract (p : Plugin) : Prop :=
  ∀ s ∈ p.streams, ∃ heard, (p.said s.requestId).foldlM PluginStream.hear .going = some heard ∧
    (s.phase = .finished → heard = .cleared)

/-- Where each emission is awaited and the client takes every event, clients hear whole streams. -/
theorem stream_contract (pluginId : String) (actions : List String) {inputs : List PluginInput}
    (steps : Runs.EachStep step (fun p input => p.Fresh input ∧ p.Allowed PluginStream.Awaited input)
      (new pluginId actions) inputs) :
    Runs.Always step KeepContract (new pluginId actions) inputs := by
  have keeps {s next : PluginStream} {said : List Payload} (contract : s.Contract said)
      (same : next = { s with cancel := next.cancel, responses := next.responses }) : next.Contract said := by
    rw [same]
    exact ⟨contract.heard, contract.inFlight, contract.finalizing, contract.synthesized⟩
  have own : Own PluginStream.Awaited fun _ s view => s.Contract view.said :=
    ⟨fun _ => PluginStream.contract_start, fun _ _ _ _ contract awaited => PluginStream.contract_go contract awaited,
      fun _ _ _ contract => keeps contract rfl, fun _ _ _ _ _ contract => keeps contract rfl⟩
  refine (each_run own pluginId actions steps).mono fun p each s member => ?_
  obtain ⟨k, found⟩ := List.mem_iff_getElem?.mp member
  have contract : s.Contract (p.said s.requestId) := each.each k s found
  refine ⟨s.heardBy, contract.heard, ?_⟩
  intro isFinished
  rw [PluginStream.heardBy, isFinished]

theorem pairing_heard : Runs.Always step KeepContract (new "hub" ["pair"]) pairingStops :=
  stream_contract "hub" ["pair"] (by decide +kernel)

/-! ## Cancels and responses -/

/-- A stream is registered until it is finished, and has heard of the cancels and the responses that were
answered with ok for its request, and of no others, as long as its context is there. -/
structure Routed (k : Nat) (s : PluginStream) (view : View) : Prop where
  registered : view.entry = if s.phase = .finished then none else some k
  canceled : view.canceled = s.cancel
  responded : s.Answered view.responded

theorem own_routed : Own (fun _ _ => True) Routed where
  start _ _ := ⟨rfl, rfl, by rw [PluginStream.Answered]; rfl⟩
  go k s view move routed _ := by
    have beside := s.beside_go move
    refine ⟨?_, routed.canceled.trans beside.cancel.symm, beside.answered _ routed.responded⟩
    dsimp only
    rw [routed.registered]
    by_cases isFinished : (s.go move).1.phase = .finished
    · by_cases wasFinished : s.phase = .finished
      · simp [isFinished, wasFinished]
      · simp [isFinished, wasFinished]
    · have goesOn : s.phase ≠ .finished := fun wasFinished => isFinished (beside.finished wasFinished)
      simp [isFinished, goesOn]
  cancel _ _ _ routed := ⟨routed.registered, rfl, routed.responded⟩
  respond _ _ _ response held routed :=
    ⟨routed.registered, routed.canceled, routed.responded.respond held response⟩

/-- Each stream is routed to, and what is registered are streams. -/
def Routes (p : Plugin) : Prop :=
  (∀ (k : Nat) (s : PluginStream), p.streams[k]? = some s → Routed k s (p.view s.requestId)) ∧
    ∀ (requestId : String) (k : Nat), p.active[requestId]? = some k →
      ∃ s, p.streams[k]? = some s ∧ s.requestId = requestId

/-- In every run a command goes to the stream that its request started, and to it alone. -/
theorem commands_routed (pluginId : String) (actions : List String) {inputs : List PluginInput}
    (fresh : Runs.EachStep step Fresh (new pluginId actions) inputs) :
    Runs.Always step Routes (new pluginId actions) inputs :=
  (each_run own_routed pluginId actions (fresh_allowed fresh)).mono fun _ each => ⟨each.each, each.entries⟩

theorem pairing_routed : Runs.Always step Routes (new "hub" ["pair"]) pairingStops :=
  commands_routed "hub" ["pair"] (by decide +kernel)

end Plugin
end HomeCore.PluginStreams
