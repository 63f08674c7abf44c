import HomeCore.Engine.DeviceCache

/-! The start of the engine beside a bridge that is already at work. The bridge writes a record and
then publishes its events one after another; the engine reads the records, fills its cache from them
and subscribes. What is published before it subscribes, it does not receive. -/
namespace HomeCore.Engine

/-- How far `RuleEngine::run` is. -/
inductive StartPhase where
  | notStarted
  /-- The devices are read; none, if that failed. -/
  | read (devices : List DeviceState)
  /-- The cache holds what was read. -/
  | filled (devices : List DeviceState)
  | listening

structure StartingHouse where
  bridge : StateBridge
  /-- What the report that the bridge is handling has still to publish. -/
  announcing : List Event
  /-- The engine's receiver. -/
  received : List Event
  phase : StartPhase
  cache : EngineCache

inductive StartInput where
  /-- A command seen on its way to a device. -/
  | command (now : DateTime) (deviceId : String) (payload : Json)
  /-- The bridge handles a report, up to its first event. -/
  | report (now : DateTime) (failing : Option StoreCall) (deviceId : String) (incoming : Json)
      (isPartial : Bool)
  /-- The next event of the report. -/
  | publish
  | read (failed : Bool)
  | fill
  | subscribe (now : DateTime)
  /-- The receiver fell behind, and has lost its oldest event. -/
  | lagged
  | process (now : DateTime)

namespace StartingHouse

def start (bridge : StateBridge) : StartingHouse := ⟨bridge, [], [], .notStarted, ⟨∅, ∅⟩⟩

def isListening (house : StartingHouse) : Bool :=
  match house.phase with
  | .listening => true
  | _ => false

/-- The bridge takes one message at a time. -/
def report (readers : ChangeReaders) (house : StartingHouse) (now : DateTime)
    (failing : Option StoreCall) (deviceId : String) (incoming : Json) (isPartial : Bool) : StartingHouse :=
  if house.announcing.isEmpty then
    match house.bridge.handleState readers now failing deviceId incoming isPartial with
    | (bridge, .ok events) => { house with bridge := bridge, announcing := events }
    | (bridge, .error _) => { house with bridge := bridge }
  else house

def publish (house : StartingHouse) : StartingHouse :=
  match house.announcing with
  | [] => house
  | event :: rest =>
    { house with
      announcing := rest
      received := if house.isListening then house.received ++ [event] else house.received }

def systemStarted (now : DateTime) : Event := .custom now "system_started" (.obj [])

/-- `RuleEngine::run` up to its loop. The engine hears its own first event. -/
def startUp (house : StartingHouse) : StartInput → StartingHouse
  | .read failed => match house.phase with
    | .notStarted =>
      { house with phase := .read (if failed then [] else house.bridge.store.listDevices) }
    | _ => house
  | .fill => match house.phase with
    | .read devices => { house with phase := .filled devices, cache := seed devices }
    | _ => house
  | .subscribe now => match house.phase with
    | .filled _ => { house with phase := .listening, received := [systemStarted now] }
    | _ => house
  | _ => house

def step (readers : ChangeReaders) (house : StartingHouse) : StartInput → StartingHouse
  | .command now deviceId payload =>
    { house with bridge := house.bridge.recordPendingCommandChange readers now deviceId payload }
  | .report now failing deviceId incoming isPartial =>
    house.report readers now failing deviceId incoming isPartial
  | .publish => house.publish
  | .lagged => { house with received := house.received.tail }
  | .process now => match house.received with
    | [] => house
    | event :: later => { house with received := later, cache := updateCache now house.cache event }
  | input => house.startUp input

/-- What the engine will have handled, in this order. -/
def line (house : StartingHouse) : List Event := house.received ++ house.announcing

/-- The device cache once the engine has handled what it has received and what a report is about to
publish. -/
def caughtUp (house : StartingHouse) : Std.ExtTreeMap String AttrMap :=
  house.line.foldl cacheAttributes house.cache.deviceCache

def stored (house : StartingHouse) (deviceId : String) : Option AttrMap :=
  (house.bridge.store.getDevice deviceId).map (·.attributes)

end StartingHouse

/-- Every attribute is known, with its value. -/
def Covers (known attrs : Option AttrMap) : Prop :=
  ∀ (key : String) (value : Json),
    attrs.bind (·[key]?) = some value → known.bind (·[key]?) = some value

/-- What the event says about the attributes of the device. -/
def reportOf (deviceId : String) : Event → Option AttrMap
  | .deviceStateChanged _ id _ _ current _ _ => if id = deviceId then some current else none
  | _ => none

def lastReport (deviceId : String) (events : List Event) : Option AttrMap :=
  events.reverse.findSome? (reportOf deviceId)

end HomeCore.Engine

/-! What the engine misses at start-up: what is written after it has read the records and published
before it subscribes, and what its receiver loses when it falls behind. -/
namespace HomeCore.Engine

/-- The engine that listens will know every stored attribute. -/
def KnowsStore (house : StartingHouse) : Prop :=
  house.isListening = true → ∀ deviceId, Covers house.caughtUp[deviceId]? (house.stored deviceId)

def readAttributes (devices : List DeviceState) (deviceId : String) : Option AttrMap :=
  (devices.find? (·.deviceId == deviceId)).map (·.attributes)

/-- When the engine subscribes, a device has the attributes that were read of it, or the event that
says otherwise is still to come. An event that is lost is followed by another about its device, or
says what the engine knows. -/
def Heard (house : StartingHouse) : StartInput → Prop
  | .subscribe _ => match house.phase with
    | .filled devices => ∀ deviceId, (lastReport deviceId house.announcing).isSome = true ∨
        Covers (readAttributes devices deviceId) (house.stored deviceId)
    | _ => True
  | .lagged => match house.received with
    | event :: later => ∀ deviceId, ∀ current ∈ reportOf deviceId event,
        (lastReport deviceId (later ++ house.announcing)).isSome = true ∨
          Covers house.cache.deviceCache[deviceId]? (some current)
    | [] => True
  | _ => True

/-! ## Catching up -/

section Line
variable {deviceId : String}

theorem lastReport_append (earlier later : List Event) :
    lastReport deviceId (earlier ++ later) = (lastReport deviceId later).or (lastReport deviceId earlier) := by
  rw [lastReport, List.reverse_append, List.findSome?_append]
  rfl

theorem lastReport_cons (event : Event) (later : List Event) :
    lastReport deviceId (event :: later) = (lastReport deviceId later).or (reportOf deviceId event) := by
  rw [← List.singleton_append, lastReport_append]
  simp [lastReport]

theorem covers_empty (known : Option AttrMap) : Covers known (some ∅) := by
  intro key value absent
  simp at absent

theorem covers_merge (known : Option AttrMap) (current : AttrMap) :
    Covers (some (match known with
      | some attrs => mergeAttributes attrs current
      | none => current)) (some current) := by
  intro key value isCurrent
  cases known with
  | none => exact isCurrent
  | some attrs =>
    rw [Option.bind_some] at isCurrent ⊢
    rw [getElem?_mergeAttributes, isCurrent]
    rfl

/-- An event tells the cache about its own device. -/
theorem lookup_cacheAttributes (deviceId : String) (cache : Std.ExtTreeMap String AttrMap) (event : Event) :
    (reportOf deviceId event = none → (cacheAttributes cache event)[deviceId]? = cache[deviceId]?) ∧
      ∀ current, reportOf deviceId event = some current →
        Covers (cacheAttributes cache event)[deviceId]? (some current) := by
  cases event with
  | deviceStateChanged at_ id name previous current changed change =>
    simp only [reportOf, cacheAttributes]
    by_cases same : id = deviceId
    · subst same
      simp only [if_true, reduceCtorEq, false_implies, Option.some.injEq, forall_eq', true_and,
        Std.ExtTreeMap.getElem?_insert_self]
      exact covers_merge cache[id]? current
    · have differ : ¬ compare id deviceId = .eq := mt Std.compare_eq_iff_eq.mp same
      simp [same, Std.ExtTreeMap.getElem?_insert]
  | _ => simp [reportOf, cacheAttributes]

/-- Whoever handles the events knows what the last of them says about a device, and otherwise what
was known before. -/
theorem covers_caughtUp {attrs : Option AttrMap} (cache : Std.ExtTreeMap String AttrMap)
    {events : List Event} (latest : ∀ current ∈ lastReport deviceId events, attrs = some current) :
    Covers (events.foldl cacheAttributes cache)[deviceId]? attrs ↔
      (lastReport deviceId events).isSome = true ∨ Covers cache[deviceId]? attrs := by
  induction events using List.reverseRecOn with
  | nil => simp [lastReport]
  | append_singleton earlier event ih =>
    obtain ⟨passes, tells⟩ := lookup_cacheAttributes deviceId
      (earlier.foldl cacheAttributes cache) event
    rw [List.foldl_append, List.foldl_cons, List.foldl_nil]
    rw [lastReport_append] at latest ⊢
    have single : lastReport deviceId [event] = reportOf deviceId event := by simp [lastReport]
    rw [single] at latest ⊢
    cases isReport : reportOf deviceId event with
    | none =>
      rw [isReport, Option.none_or] at latest
      rw [passes isReport, Option.none_or]
      exact ih latest
    | some current =>
      rw [latest current (by simp [isReport])]
      simp [tells current isReport]

end Line

/-! ## What is in line -/

/-- The last event about a device says what is stored of it. -/
def Latest (house : StartingHouse) : Prop :=
  ∀ deviceId, ∀ current ∈ lastReport deviceId house.line, house.stored deviceId = some current

structure InLine (house : StartingHouse) : Prop where
  latest : Latest house
  quiet : house.isListening = false → house.received = []
  seeded : ∀ devices, house.phase = .filled devices → ∀ deviceId,
    house.cache.deviceCache[deviceId]? = readAttributes devices deviceId
  /-- Each device was read once. -/
  distinct : ∀ devices, house.phase = .read devices → ∀ deviceId,
    (seed devices).deviceCache[deviceId]? = readAttributes devices deviceId

theorem InLine.covers_iff {house : StartingHouse} (inLine : InLine house) (deviceId : String) :
    Covers house.caughtUp[deviceId]? (house.stored deviceId) ↔
      (lastReport deviceId house.line).isSome = true ∨
        Covers house.cache.deviceCache[deviceId]? (house.stored deviceId) :=
  covers_caughtUp house.cache.deviceCache (inLine.latest deviceId)

theorem seed_readAttributes (store : DeviceStore) (deviceId : String) :
    (seed store.listDevices).deviceCache[deviceId]? = readAttributes store.listDevices deviceId := by
  rw [readAttributes, store.find?_listDevices, seed]
  exact Maps.getElem?_ofList_toList store.keyed (·.attributes) deviceId

theorem lastReport_reportEvents (now : DateTime) (kind : DeviceWrite) (before after : DeviceState)
    (change : DeviceChange) (deviceId : String) :
    lastReport deviceId (reportEvents now kind before after change) =
      if before.attributes = after.attributes then none
      else if after.deviceId = deviceId then some after.attributes else none := by
  have announced : lastReport deviceId (announcement now kind after) = none := by
    cases kind <;> rfl
  simp only [reportEvents, lastReport_append, announced, List.isEmpty_iff, changedKeys_eq_nil]
  by_cases same : before.attributes = after.attributes
  · simp only [same, if_true]
    split <;> split <;> rfl
  · simp only [same, if_false]
    split <;> split <;> simp [lastReport, reportOf]

section Report
variable (readers : ChangeReaders) (now : DateTime) {failing : Option StoreCall}
  {deviceId : String} {incoming : Json} (isPartial : Bool) {house : StartingHouse}

/-- What a report does: it stores what it says about its device, and announces that unless the record
said so already. -/
inductive Reports (house : StartingHouse) : StartingHouse → Prop where
  | ignored {bridge : StateBridge} (store : bridge.store = house.bridge.store) :
      Reports house { house with bridge := bridge }
  | told {deviceId : String} {next : AttrMap} {bridge : StateBridge} {events : List Event}
      (idle : house.announcing = [])
      (stored : ∀ other, (bridge.store.getDevice other).map (·.attributes) =
        if deviceId = other then some next else house.stored other)
      (announced : ∀ other, lastReport other events =
        if (house.stored deviceId).getD ∅ = next then none
        else if deviceId = other then some next else none) :
      Reports house { house with bridge := bridge, announcing := events }

theorem report_reports (house : StartingHouse) (failing : Option StoreCall) (deviceId : String)
    (incoming : Json) :
    Reports house (house.report readers now failing deviceId incoming isPartial) := by
  rw [StartingHouse.report]
  split
  · next idle =>
    by_cases ignored : incoming.asObject = none ∨ ¬ Handled house.bridge.store failing deviceId
    · obtain ⟨storeEq, eventsEq⟩ :=
        handleState_ignored readers now failing house.bridge deviceId incoming isPartial ignored
      split
      · next bridge events handled =>
        rw [handled] at storeEq eventsEq
        rw [eventsEq events rfl, ← List.isEmpty_iff.mp idle]
        exact .ignored storeEq
      · next bridge call handled =>
        rw [handled] at storeEq
        exact .ignored storeEq
    · obtain ⟨isObject, handled⟩ := not_or.mp ignored
      obtain ⟨payload, isObject⟩ := Option.ne_none_iff_exists'.mp isObject
      obtain ⟨after, kind, change, idEq, _, _, storeEq, eventsEq⟩ := handleState_handled readers now
        failing house.bridge deviceId incoming isPartial isObject (not_not.mp handled)
      split
      · next bridge events result =>
        rw [result] at storeEq eventsEq
        obtain rfl := Except.ok.inj eventsEq
        refine @Reports.told house deviceId after.attributes bridge _ (List.isEmpty_iff.mp idle) ?_ ?_
        · intro other
          rw [show bridge.store = _ from storeEq, getDevice_upsert, idEq]
          split <;> rfl
        · intro other
          rw [lastReport_reportEvents, idEq, recordBefore_attributes]
          rfl
      · next result =>
        rw [result] at eventsEq
        cases eventsEq
  · exact .ignored rfl

end Report

section Steps
variable {house house' : StartingHouse}

theorem InLine.reported (inLine : InLine house) (reports : Reports house house') : InLine house' := by
  cases reports with
  | @ignored bridge store =>
    refine ⟨?_, inLine.quiet, inLine.seeded, inLine.distinct⟩
    intro deviceId current isLast
    have before := inLine.latest deviceId current isLast
    rwa [StartingHouse.stored, ← store] at before
  | @told deviceId next bridge events idle stored announced =>
    refine ⟨?_, inLine.quiet, inLine.seeded, inLine.distinct⟩
    intro other current isLast
    change ((bridge.store.getDevice other).map (·.attributes)) = some current
    rw [stored]
    rw [StartingHouse.line, lastReport_append, announced, Option.mem_def] at isLast
    have before : ∀ current ∈ lastReport other house.received, house.stored other = some current := by
      intro current isLast
      refine inLine.latest other current ?_
      rwa [StartingHouse.line, idle, List.append_nil]
    by_cases same : (house.stored deviceId).getD ∅ = next
    · rw [if_pos same, Option.none_or] at isLast
      have was := before current isLast
      split
      · next isDevice =>
        subst isDevice
        rw [was, Option.getD_some] at same
        rw [same]
      · exact was
    · rw [if_neg same] at isLast
      split
      · next isDevice =>
        rwa [if_pos isDevice, Option.some_or] at isLast
      · next other =>
        rw [if_neg other, Option.none_or] at isLast
        exact before current isLast

theorem KnowsStore.reported (knows : KnowsStore house) (inLine : InLine house)
    (reports : Reports house house') : KnowsStore house' := by
  have inLine' := inLine.reported reports
  cases reports with
  | @ignored bridge store =>
    intro listening other
    have before := knows listening other
    rwa [StartingHouse.stored, ← store] at before
  | @told deviceId next bridge events idle stored announced =>
    intro listening other
    refine (inLine'.covers_iff other).mpr ?_
    have before := (inLine.covers_iff other).mp (knows listening other)
    rw [StartingHouse.line, idle, List.append_nil] at before
    rw [StartingHouse.line, lastReport_append]
    rcases before with awaited | known
    · left
      obtain ⟨current, isLast⟩ := Option.isSome_iff_exists.mp awaited
      rw [isLast]
      cases lastReport other events <;> rfl
    · change _ ∨ Covers house.cache.deviceCache[other]? ((bridge.store.getDevice other).map (·.attributes))
      rw [stored, announced]
      by_cases isDevice : deviceId = other
      · subst isDevice
        rw [if_pos rfl, if_pos rfl]
        by_cases same : (house.stored deviceId).getD ∅ = next
        · right
          cases was : house.stored deviceId with
          | none =>
            rw [was, Option.getD_none] at same
            rw [← same]
            exact covers_empty _
          | some attrs =>
            rw [was, Option.getD_some] at same
            rw [← same, ← was]
            exact known
        · left
          rw [if_neg same]
          rfl
      · right
        rwa [if_neg isDevice]

/-- Leaving the oldest event out of the line changes nothing about the last ones. -/
theorem latest_tail {event : Event} {later : List Event} {deviceId : String} {current : AttrMap}
    (isLast : lastReport deviceId later = some current) :
    lastReport deviceId (event :: later) = some current := by
  rw [lastReport_cons, isLast, Option.some_or]

theorem InLine.publish (inLine : InLine house) : InLine house.publish := by
  rw [StartingHouse.publish]
  split
  · exact inLine
  next event rest announcing =>
  refine ⟨?_, ?_, inLine.seeded, inLine.distinct⟩
  · intro deviceId current isLast
    refine inLine.latest deviceId current ?_
    rw [StartingHouse.line, announcing]
    change lastReport deviceId ((if house.isListening then house.received ++ [event] else house.received) ++
      rest) = some current at isLast
    split at isLast
    · rwa [List.append_assoc, List.singleton_append] at isLast
    · next deaf =>
      rw [inLine.quiet (by simpa using deaf), List.nil_append] at isLast ⊢
      exact latest_tail isLast
  · intro deaf
    change (if house.isListening then house.received ++ [event] else house.received) = []
    change house.isListening = false at deaf
    rw [deaf]
    exact inLine.quiet deaf

theorem InLine.startUp (inLine : InLine house) (input : StartInput) : InLine (house.startUp input) := by
  cases input with
  | read failed =>
    rw [StartingHouse.startUp]
    split
    · next notStarted =>
      have deaf : house.isListening = false := by rw [StartingHouse.isListening, notStarted]
      refine ⟨inLine.latest, fun _ => inLine.quiet deaf, (fun _ filled => by cases filled), ?_⟩
      rintro devices isRead deviceId
      obtain rfl := StartPhase.read.inj isRead
      cases failed
      · exact seed_readAttributes house.bridge.store deviceId
      · simp [seed, readAttributes]
    · exact inLine
  | fill =>
    rw [StartingHouse.startUp]
    split
    · next devices isRead =>
      have deaf : house.isListening = false := by rw [StartingHouse.isListening, isRead]
      refine ⟨inLine.latest, fun _ => inLine.quiet deaf, ?_, (fun _ reading => by cases reading)⟩
      rintro devices' isFilled deviceId
      obtain rfl := StartPhase.filled.inj isFilled
      exact inLine.distinct devices isRead deviceId
    · exact inLine
  | subscribe now =>
    rw [StartingHouse.startUp]
    split
    · next devices filled =>
      have deaf : house.isListening = false := by rw [StartingHouse.isListening, filled]
      refine ⟨?_, (fun stillDeaf => by cases stillDeaf), (fun _ filled => by cases filled),
        (fun _ reading => by cases reading)⟩
      intro deviceId current isLast
      refine inLine.latest deviceId current ?_
      rw [StartingHouse.line, inLine.quiet deaf, List.nil_append]
      have silent : reportOf deviceId (StartingHouse.systemStarted now) = none := rfl
      rwa [StartingHouse.line, List.singleton_append, lastReport_cons, silent, Option.or_none] at isLast
    · exact inLine
  | command | report | publish | lagged | process => exact inLine

theorem InLine.lagged (inLine : InLine house) :
    InLine { house with received := house.received.tail } := by
  cases received : house.received with
  | nil =>
    have same : { house with received := [].tail } = house := by rw [List.tail_nil, ← received]
    rw [same]
    exact inLine
  | cons event later =>
    refine ⟨?_, ?_, inLine.seeded, inLine.distinct⟩
    · intro deviceId current isLast
      refine inLine.latest deviceId current ?_
      rw [StartingHouse.line, received]
      exact latest_tail isLast
    · intro deaf
      have none := inLine.quiet deaf
      rw [received] at none
      cases none

theorem InLine.step (readers : ChangeReaders) (inLine : InLine house) (input : StartInput) :
    InLine (house.step readers input) := by
  cases input with
  | command now deviceId payload =>
    refine inLine.reported (.ignored ?_)
    rw [StateBridge.recordPendingCommandChange]
    split <;> rfl
  | report now failing deviceId incoming isPartial =>
    exact inLine.reported (report_reports readers now isPartial house failing deviceId incoming)
  | publish => exact inLine.publish
  | read failed => exact inLine.startUp (.read failed)
  | fill => exact inLine.startUp .fill
  | subscribe now => exact inLine.startUp (.subscribe now)
  | lagged => exact inLine.lagged
  | process now =>
    rw [StartingHouse.step]
    split
    · exact inLine
    next event later received =>
    have shorter := inLine.lagged
    rw [received] at shorter
    refine ⟨shorter.latest, shorter.quiet, ?_, ?_⟩
    · intro devices filled
      have none := inLine.quiet (by rw [StartingHouse.isListening, show house.phase = _ from filled])
      rw [received] at none
      cases none
    · exact inLine.distinct

theorem knows_subscribe (inLine : InLine house) (knows : KnowsStore house) (now : DateTime) :
    KnowsStore (house.startUp (.subscribe now)) ↔ Heard house (.subscribe now) := by
  have inLine' := inLine.startUp (.subscribe now)
  rw [Heard]
  cases isPhase : house.phase with
  | filled devices =>
    have moved : house.startUp (.subscribe now) = { house with
        phase := .listening
        received := [StartingHouse.systemStarted now] } := by
      simp only [StartingHouse.startUp, isPhase]
    rw [moved] at inLine' ⊢
    rw [KnowsStore]
    simp only [StartingHouse.isListening, true_implies]
    refine forall_congr' fun deviceId => ?_
    rw [inLine'.covers_iff, ← inLine.seeded devices isPhase deviceId]
    have silent : reportOf deviceId (StartingHouse.systemStarted now) = none := rfl
    rw [StartingHouse.line, List.singleton_append, lastReport_cons, silent, Option.or_none]
    exact Iff.rfl
  | notStarted | read | listening =>
    have same : house.startUp (.subscribe now) = house := by simp only [StartingHouse.startUp, isPhase]
    rw [same]
    exact iff_of_true knows trivial

theorem knows_lagged (inLine : InLine house) (knows : KnowsStore house) :
    KnowsStore { house with received := house.received.tail } ↔ Heard house .lagged := by
  have inLine' := inLine.lagged
  rw [Heard]
  cases received : house.received with
  | nil =>
    have same : { house with received := [].tail } = house := by rw [List.tail_nil, ← received]
    rw [same]
    exact iff_of_true knows trivial
  | cons event later =>
    rw [received] at inLine'
    have listening : house.isListening = true := by
      by_contra deaf
      have none := inLine.quiet (by simpa using deaf)
      rw [received] at none
      cases none
    have before := fun deviceId => (inLine.covers_iff deviceId).mp (knows listening deviceId)
    have latest : ∀ deviceId, ∀ current ∈ lastReport deviceId house.line,
        house.stored deviceId = some current := inLine.latest
    simp only [StartingHouse.line, received, List.cons_append, lastReport_cons] at before latest
    have after : KnowsStore { house with received := later } ↔ ∀ deviceId,
        (lastReport deviceId (later ++ house.announcing)).isSome = true ∨
          Covers house.cache.deviceCache[deviceId]? (house.stored deviceId) := by
      rw [KnowsStore]
      refine ⟨fun known deviceId => (inLine'.covers_iff deviceId).mp (known listening deviceId), ?_⟩
      exact fun known _ deviceId => (inLine'.covers_iff deviceId).mpr (known deviceId)
    rw [List.tail_cons, after]
    refine forall_congr' fun deviceId => ?_
    cases isLast : lastReport deviceId (later ++ house.announcing) with
    | some current => simp
    | none =>
      have known := before deviceId
      have told := latest deviceId
      rw [isLast, Option.none_or] at known told
      cases isReport : reportOf deviceId event with
      | none =>
        rw [isReport] at known
        simpa using known
      | some current =>
        rw [told current isReport]
        simp

/-- One step: the engine goes on knowing the store exactly when it has heard of what is stored. -/
theorem knows_step (readers : ChangeReaders) (inLine : InLine house) (knows : KnowsStore house)
    (input : StartInput) : KnowsStore (house.step readers input) ↔ Heard house input := by
  cases input with
  | command now deviceId payload =>
    refine iff_of_true (knows.reported inLine (.ignored ?_)) trivial
    rw [StateBridge.recordPendingCommandChange]
    split <;> rfl
  | report now failing deviceId incoming isPartial =>
    have reports := report_reports readers now isPartial house failing deviceId incoming
    exact iff_of_true (knows.reported inLine reports) trivial
  | publish =>
    refine iff_of_true ?_ trivial
    rw [StartingHouse.step, StartingHouse.publish]
    split
    · exact knows
    next event rest announcing =>
    intro listening
    have known := knows listening
    change house.isListening = true at listening
    simp only [StartingHouse.caughtUp, StartingHouse.line, announcing, listening, if_true,
      List.append_assoc, List.singleton_append] at known ⊢
    exact known
  | read failed =>
    refine iff_of_true ?_ trivial
    simp only [StartingHouse.step, StartingHouse.startUp]
    split
    · intro listening
      cases listening
    · exact knows
  | fill =>
    refine iff_of_true ?_ trivial
    simp only [StartingHouse.step, StartingHouse.startUp]
    split
    · intro listening
      cases listening
    · exact knows
  | subscribe now => exact knows_subscribe inLine knows now
  | lagged => exact knows_lagged inLine knows
  | process now =>
    refine iff_of_true ?_ trivial
    rw [StartingHouse.step]
    split
    · exact knows
    next event later received =>
    intro listening
    have known := knows listening
    simp only [StartingHouse.caughtUp, StartingHouse.line, received, List.cons_append, List.foldl_cons]
      at known
    exact known

end Steps

theorem inLine_start (bridge : StateBridge) : InLine (StartingHouse.start bridge) where
  latest := fun _ _ isLast => by cases isLast
  quiet := fun _ => rfl
  seeded := fun _ filled => by cases filled
  distinct := fun _ reading => by cases reading

/-- Over every run of the bridge and the engine beside each other, the engine that listens knows every
stored attribute, once it has handled what it receives, if and only if it hears of all that was
written after it read the records, and loses nothing that it is not told again. -/
theorem nothing_missed_iff (readers : ChangeReaders) (bridge : StateBridge) (inputs : List StartInput) :
    Runs.Always (StartingHouse.step readers) KnowsStore (StartingHouse.start bridge) inputs ↔
      Runs.EachStep (StartingHouse.step readers) Heard (StartingHouse.start bridge) inputs := by
  refine Runs.always_iff_under InLine ?_ ?_ (inLine_start bridge) ?_ inputs
  · exact fun house input inLine _ _ => inLine.step readers input
  · exact fun house input inLine knows => knows_step readers inLine knows input
  · exact fun listening => by cases listening

/-- The lamp reports while the engine starts, between its reading of the records and its subscription:
it is on, and the engine has never heard of that. -/
theorem report_falls_between :
    let step := StartingHouse.step ⟨fun _ _ => none, fun _ => none⟩
    let inputs := [.read false, .fill, .report 0 none "lamp" (.obj [("level", .num (.posInt 7))]) true,
      .publish, .subscribe 0, .process 0]
    let house := inputs.foldl step (StartingHouse.start lampBridge)
    (house.line.isEmpty = true ∧
      (house.stored "lamp").bind (·["level"]?) = some (.num (.posInt 7)) ∧
      house.cache.deviceCache["lamp"]?.bind (·["level"]?) = none) ∧
    ¬ Runs.Always step KnowsStore (StartingHouse.start lampBridge) inputs := by
  intro step inputs house
  have evaluated : house.line.isEmpty = true ∧
      (house.stored "lamp").bind (·["level"]?) = some (.num (.posInt 7)) ∧
      house.cache.deviceCache["lamp"]?.bind (·["level"]?) = none := by
    decide
  refine ⟨evaluated, fun always => ?_⟩
  obtain ⟨allHandled, isStored, unknown⟩ := evaluated
  have listening : house.isListening = true := by decide
  have known := always.last listening "lamp" "level" (.num (.posInt 7)) isStored
  have caughtUp : house.caughtUp = house.cache.deviceCache := by
    rw [StartingHouse.caughtUp, List.isEmpty_iff.mp allHandled, List.foldl_nil]
  change house.caughtUp["lamp"]?.bind _ = _ at known
  rw [caughtUp, unknown] at known
  cases known

end HomeCore.Engine
