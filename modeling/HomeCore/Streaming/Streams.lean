import HomeCore.Runs
import HomeCore.Types.Json

/-! Streaming plugin actions, one lock at a time: the handlers that reserve a stream, the timeout
tasks, the sweep of a plugin gone offline, the observer of terminal events, and the cache of what
was streamed. Which task goes on next, and what the tasks hear of the bus, is up to the run. -/
namespace HomeCore.Streaming

inductive Concurrency where
  | single
  | multi
  deriving DecidableEq

/-- Per-request tracker entry. -/
structure StreamingEntry where
  pluginId : String
  actionId : String
  concurrency : Concurrency

/-- What a message carries. A retained message is cleared with an empty one. -/
inductive Payload where
  | empty
  | unreadable
  | json (value : Json)

structure Message where
  topic : String
  payload : Payload

def parseStreamTopic (topic : String) : Option (String × String) :=
  match (topic.toList.splitOn '/').map String.ofList with
  | ["homecore", "plugins", pluginId, "commands", requestId, "events"] => some (pluginId, requestId)
  | _ => none

def streamTopic (pluginId requestId : String) : String :=
  "homecore/plugins/" ++ pluginId ++ "/commands/" ++ requestId ++ "/events"

def isTerminal (stage : String) : Bool := stage ∈ ["complete", "error", "canceled", "timeout"]

/-- An event without a stage ends nothing. -/
def endsStream (event : Json) : Bool := ((event.get "stage").bind Json.asStr).any isTerminal

/-- The request whose stream a message is about, and the event it brings. -/
def streamEvent (m : Message) : Option (String × Json) :=
  match parseStreamTopic m.topic, m.payload with
  | some (_, requestId), .json event => some (requestId, event)
  | _, _ => none

/-! ## The cache -/

/-- In nanoseconds, as the clock is. -/
def entryTtl : Nat := 60 * 1000000000

def maxEventsPerRequest : Nat := 256

structure CachedStream where
  events : List Json
  terminalAt : Option Nat

/-- Stream events by request, in the order they came. -/
abbrev StreamCache := Std.ExtTreeMap String CachedStream

namespace StreamCache

def snapshot (cache : StreamCache) (requestId : String) : List Json :=
  cache[requestId]?.elim [] (·.events)

def append (cache : StreamCache) (requestId : String) (event : Json) (terminal : Bool) (now : Nat) :
    StreamCache :=
  let entry := cache[requestId]?.getD ⟨[], none⟩
  let entry := if entry.events.length < maxEventsPerRequest then
      { entry with events := entry.events ++ [event] }
    else entry
  cache.insert requestId (if terminal then { entry with terminalAt := some now } else entry)

def gc (cache : StreamCache) (now : Nat) : StreamCache :=
  cache.filter fun _ entry => match entry.terminalAt with
    | some since => decide (now - since < entryTtl)
    | none => true

/-- What the populator makes of a message. -/
def mirror (cache : StreamCache) (m : Message) (now : Nat) : StreamCache :=
  match streamEvent m with
  | some (requestId, event) => cache.append requestId event (endsStream event) now
  | none => cache

end StreamCache

/-! ## The tasks -/

/-- Where the handler of a request is that reserved a stream. -/
inductive Handler where
  /-- About to schedule the timeout it may have, in milliseconds. -/
  | reserved (pluginId : String) (timeoutMs : Option Nat)
  /-- The command is sent, its answer awaited. -/
  | sending
  /-- Releasing, the command having failed. -/
  | canceling
  | removing
  | returned
  deriving DecidableEq

/-- Where a task is that releases a request and then injects a terminal for it. -/
inductive Injection where
  | canceling
  | removing
  | publishing
  | clearing
  deriving DecidableEq

inductive TimeoutPhase where
  | sleeping
  | injecting (phase : Injection)
  | finished
  deriving DecidableEq

structure Timeout where
  pluginId : String
  /-- When it is due. -/
  deadline : Nat
  /-- The cancel channel was sent to. -/
  canceled : Bool
  phase : TimeoutPhase
  deriving DecidableEq

/-- The sweep of a plugin gone offline: the requests still to be released, the first at hand. -/
structure Sweep where
  pluginId : String
  requests : List String
  phase : Injection
  deriving DecidableEq

inductive Observer where
  | waiting
  | canceling (requestId : String)
  | removing (requestId : String)
  deriving DecidableEq

structure Streams where
  now : Nat
  /-- The registry's entries, and the requests a cancel channel is installed for. -/
  inner : Std.ExtTreeMap String StreamingEntry
  timeoutCancel : Std.ExtTreeSet String
  /-- Handlers whose action is not busy, with its timeout. -/
  admitted : List (StreamingEntry × Option Nat)
  handlers : Std.ExtTreeMap String Handler
  timeouts : Std.ExtTreeMap String Timeout
  sweep : Sweep
  observer : Observer
  cache : StreamCache
  /-- What core has published. -/
  published : List Message
  /-- The request ids minted or named so far; a new one is none of them. -/
  named : List String

namespace Streams

def new : Streams where
  now := 0
  inner := ∅
  timeoutCancel := ∅
  admitted := []
  handlers := ∅
  timeouts := ∅
  sweep := ⟨"", [], .canceling⟩
  observer := .waiting
  cache := ∅
  published := []
  named := []

def activeSingle (s : Streams) (pluginId actionId : String) : Option String :=
  (s.inner.toList.find? fun (_, e) =>
    e.pluginId == pluginId && e.actionId == actionId && e.concurrency == .single).map Prod.fst

/-- A request for an action that is busy is answered at once. -/
def invoke (s : Streams) (entry : StreamingEntry) (timeoutMs : Option Nat) : Streams :=
  if entry.concurrency = .single ∧ (s.activeSingle entry.pluginId entry.actionId).isSome then s
  else { s with admitted := s.admitted ++ [(entry, timeoutMs)] }

/-- An admitted handler mints a request id, unlike any other, and reserves its slot. -/
def reserve (s : Streams) (index : Nat) (requestId : String) : Streams :=
  match s.admitted[index]? with
  | none => s
  | some (entry, timeoutMs) =>
    if requestId ∈ s.named then s
    else { s with
      admitted := s.admitted.eraseIdx index
      inner := s.inner.insert requestId entry
      handlers := s.handlers.insert requestId (.reserved entry.pluginId timeoutMs)
      named := requestId :: s.named }

/-- The first half of `release`: the timeout task, if one is pending, is sent for. -/
def cancelTimeout (s : Streams) (requestId : String) : Streams :=
  if requestId ∈ s.timeoutCancel then { s with
    timeoutCancel := s.timeoutCancel.erase requestId
    timeouts := s.timeouts.modify requestId fun t => { t with canceled := true } }
  else s

/-- The second half of `release`. -/
def removeEntry (s : Streams) (requestId : String) : Streams :=
  { s with inner := s.inner.erase requestId }

def setHandler (s : Streams) (requestId : String) (next : Handler) : Streams :=
  { s with handlers := s.handlers.insert requestId next }

def scheduleTimeout (s : Streams) (pluginId requestId : String) (timeoutMs : Nat) : Streams :=
  { s with
    timeoutCancel := s.timeoutCancel.insert requestId
    timeouts := s.timeouts.insert requestId
      ⟨pluginId, s.now + timeoutMs * 1000000, false, .sleeping⟩ }

/-- The handler goes on; where it awaits the answer to its command, that may be an error. -/
def handlerGoes (s : Streams) (requestId : String) (fails : Bool) : Streams :=
  match s.handlers[requestId]? with
  | some (.reserved _ none) => s.setHandler requestId .sending
  | some (.reserved pluginId (some timeoutMs)) =>
    (s.scheduleTimeout pluginId requestId timeoutMs).setHandler requestId .sending
  | some .sending => s.setHandler requestId (if fails then .canceling else .returned)
  | some .canceling => (s.cancelTimeout requestId).setHandler requestId .removing
  | some .removing => (s.removeEntry requestId).setHandler requestId .returned
  | some .returned | none => s

/-- Publishing may fail, and what it was for goes on all the same. -/
def publish (s : Streams) (sent : Bool) (m : Message) : Streams :=
  if sent then { s with published := s.published ++ [m] } else s

/-- A terminal event that core makes up. -/
def timeoutEvent (pluginId requestId ts : String) : Message where
  topic := streamTopic pluginId requestId
  payload := .json (.obj [("message", .str "core-injected timeout"), ("request_id", .str requestId),
    ("stage", .str "timeout"), ("ts", .str ts)])

def offlineEvent (pluginId requestId ts : String) : Message where
  topic := streamTopic pluginId requestId
  payload := .json (.obj [("data", .obj [("reason", .str "plugin_offline")]),
    ("message", .str "plugin went offline"), ("request_id", .str requestId), ("stage", .str "error"),
    ("ts", .str ts)])

def clearing (pluginId requestId : String) : Message := ⟨streamTopic pluginId requestId, .empty⟩

/-! ### The timeout task -/

def setTimeout (s : Streams) (requestId : String) (phase : TimeoutPhase) : Streams :=
  { s with timeouts := s.timeouts.modify requestId fun t => { t with phase } }

/-- The sleep is over. A cancel that came in time may still lose against it. -/
def timeoutWakes (s : Streams) (requestId : String) : Streams :=
  match s.timeouts[requestId]? with
  | some t => if t.phase = .sleeping ∧ t.deadline ≤ s.now then
      s.setTimeout requestId (.injecting .canceling) else s
  | none => s

def timeoutCanceled (s : Streams) (requestId : String) : Streams :=
  match s.timeouts[requestId]? with
  | some t => if t.phase = .sleeping ∧ t.canceled then s.setTimeout requestId .finished else s
  | none => s

def timeoutGoes (s : Streams) (requestId ts : String) (sent : Bool) : Streams :=
  match s.timeouts[requestId]? with
  | none => s
  | some t => match t.phase with
    | .injecting .canceling =>
      (s.cancelTimeout requestId).setTimeout requestId (.injecting .removing)
    -- Only if the request is still outstanding.
    | .injecting .removing =>
      (s.removeEntry requestId).setTimeout requestId
        (if requestId ∈ s.inner then .injecting .publishing else .finished)
    | .injecting .publishing =>
      (s.publish sent (timeoutEvent t.pluginId requestId ts)).setTimeout requestId
        (.injecting .clearing)
    | .injecting .clearing =>
      (s.publish sent (clearing t.pluginId requestId)).setTimeout requestId .finished
    | .sleeping | .finished => s

/-! ### The sweep -/

def entriesForPlugin (s : Streams) (pluginId : String) : List String :=
  (s.inner.toList.filter fun (_, e) => e.pluginId == pluginId).map Prod.fst

/-- A plugin's status changed, and the sweep, idle, hears of it. The entries come in no order. -/
def statusChanged (s : Streams) (pluginId status : String) (requests : List String) : Streams :=
  if status = "offline" ∧ s.sweep.requests = [] ∧ requests.isPerm (s.entriesForPlugin pluginId) then
    { s with sweep := ⟨pluginId, requests, .canceling⟩ }
  else s

def sweepGoes (s : Streams) (ts : String) (sent : Bool) : Streams :=
  match s.sweep.requests with
  | [] => s
  | requestId :: rest => match s.sweep.phase with
    | .canceling => { s.cancelTimeout requestId with sweep := { s.sweep with phase := .removing } }
    | .removing => { s.removeEntry requestId with sweep := { s.sweep with phase := .publishing } }
    | .publishing =>
      { s.publish sent (offlineEvent s.sweep.pluginId requestId ts) with
        sweep := { s.sweep with phase := .clearing } }
    | .clearing =>
      { s.publish sent (clearing s.sweep.pluginId requestId) with
        sweep := ⟨s.sweep.pluginId, rest, .canceling⟩ }

/-! ### The observer and the populator -/

/-- A message names its request. -/
def name (s : Streams) (m : Message) : Streams :=
  { s with named := ((streamEvent m).map Prod.fst).toList ++ s.named }

/-- The terminal event a message brings, if any. -/
def terminal (m : Message) : Option (String × Json) :=
  (streamEvent m).filter fun (_, event) => endsStream event

def observe (s : Streams) (m : Message) : Streams :=
  match s.observer, terminal m with
  | .waiting, some (requestId, _) => { s.name m with observer := .canceling requestId }
  | .waiting, none => s.name m
  | _, _ => s

def observerGoes (s : Streams) : Streams :=
  match s.observer with
  | .waiting => s
  | .canceling requestId => { s.cancelTimeout requestId with observer := .removing requestId }
  | .removing requestId => { s.removeEntry requestId with observer := .waiting }

end Streams

/-- What happens next. -/
inductive Event where
  | tick (nanos : Nat)
  | invoke (entry : StreamingEntry) (timeoutMs : Option Nat)
  | reserve (index : Nat) (requestId : String)
  | handlerGoes (requestId : String) (fails : Bool)
  | timeoutWakes (requestId : String)
  | timeoutCanceled (requestId : String)
  | timeoutGoes (requestId ts : String) (sent : Bool)
  | statusChanged (pluginId status : String) (requests : List String)
  | sweepGoes (ts : String) (sent : Bool)
  /-- The observer takes a message off the bus. -/
  | observe (m : Message)
  | observerGoes
  /-- The populator takes a message off the bus. -/
  | mirror (m : Message)
  | gc

def Streams.step (s : Streams) : Event → Streams
  | .tick nanos => { s with now := s.now + nanos }
  | .invoke entry timeoutMs => s.invoke entry timeoutMs
  | .reserve index requestId => s.reserve index requestId
  | .handlerGoes requestId fails => s.handlerGoes requestId fails
  | .timeoutWakes requestId => s.timeoutWakes requestId
  | .timeoutCanceled requestId => s.timeoutCanceled requestId
  | .timeoutGoes requestId ts sent => s.timeoutGoes requestId ts sent
  | .statusChanged pluginId status requests => s.statusChanged pluginId status requests
  | .sweepGoes ts sent => s.sweepGoes ts sent
  | .observe m => s.observe m
  | .observerGoes => s.observerGoes
  | .mirror m => { s.name m with cache := s.cache.mirror m s.now }
  | .gc => { s with cache := s.cache.gc s.now }

end HomeCore.Streaming
