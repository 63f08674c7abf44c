import HomeCore.Glue.Sources

/-! Counters: a count that commands move by its step between its bounds. Sums are of 64-bit
integers; one that does not fit stops the command, as it does where sums are checked. -/
namespace HomeCore.Glue.Counter
open HomeCore.Engine

def minI64 : Int := -2 ^ 63

def maxI64 : Int := 2 ^ 63 - 1

def InI64 (n : Int) : Prop := minI64 ≤ n ∧ n ≤ maxI64

instance (n : Int) : Decidable (InI64 n) := inferInstanceAs (Decidable (_ ∧ _))

/-- `Value::as_i64`. -/
def asI64 : Json → Option Int
  | .num (.posInt n) => if InI64 n then some n else none
  | .num (.negInt n) => if InI64 n then some n else none
  | _ => none

def ofI64 (n : Int) : Json := .num (if 0 ≤ n then .posInt n.toNat else .negInt n)

/-- A sum or a difference, where it fits. -/
def checked (n : Int) : Option Int := if InI64 n then some n else none

section Attributes
variable (attributes : AttrMap)

def count : Int := (attributes["count"]?.bind asI64).getD 0

def step : Int := (attributes["step"]?.bind asI64).getD 1

def min? : Option Int := attributes["min"]?.bind asI64

def max? : Option Int := attributes["max"]?.bind asI64

end Attributes

def atLeast (low : Option Int) (n : Int) : Int := low.elim n (max n)

def atMost (high : Option Int) (n : Int) : Int := high.elim n (min n)

inductive NewCount where
  | known (count : Int)
  | overflow
  | unknownCommand
  deriving DecidableEq

def NewCount.of (sum : Option Int) (clamp : Int → Int) : NewCount :=
  sum.elim .overflow fun n => .known (clamp n)

def newCount (attributes : AttrMap) (command : String) (payload : Json) : NewCount :=
  match command with
  | "increment" => .of (checked (count attributes + step attributes)) (atMost (max? attributes))
  | "decrement" => .of (checked (count attributes - step attributes)) (atLeast (min? attributes))
  | "reset" => .known ((min? attributes).getD 0)
  | "set" => .known (atMost (max? attributes) (atLeast (min? attributes)
      (((payload.get "value").bind asI64).getD 0)))
  | _ => .unknownCommand

/-- What a command leaves in the store and announces; nothing where a sum overflows. -/
def handleCmd (env : GlueEnv) (now : DateTime) (store : DeviceStore) (deviceId : String)
    (payload : List UInt8) : Option WriteResult :=
  match env.parse payload with
  | none => some (store, [])
  | some value =>
    let change := (extractChangeFromCommandPayload env.readers now value).getD (.unknown now)
    match (value.get "command").bind Json.asStr with
    | none => some (store, [])
    | some command =>
      match store.getDevice deviceId with
      | none => some (store, [])
      | some device =>
        match newCount device.attributes command value with
        | .overflow => none
        | .unknownCommand => some (store, [])
        | .known newCount =>
          if newCount = count device.attributes then some (store, [])
          else some (applyStateUpdate now store deviceId change
            (withEntries [("count", ofI64 newCount)]))

/-! ## Runs -/

/-- A command, when it is taken. -/
abbrev Command := DateTime × List UInt8

/-- The store after a command; as it was where a sum overflows. -/
def afterCommand (env : GlueEnv) (deviceId : String) (store : DeviceStore) (command : Command) : DeviceStore :=
  ((handleCmd env command.1 store deviceId command.2).map Prod.fst).getD store

/-- The bounds are in order where both are given. -/
def Ordered (attributes : AttrMap) : Prop :=
  ∀ low ∈ min? attributes, ∀ high ∈ max? attributes, low ≤ high

def WithinBounds (low high : Option Int) (n : Int) : Prop := (∀ l ∈ low, l ≤ n) ∧ ∀ h ∈ high, n ≤ h

def InRange (attributes : AttrMap) : Prop :=
  WithinBounds (min? attributes) (max? attributes) (count attributes)

/-- The stored count is in range. -/
def CountInRange (deviceId : String) (store : DeviceStore) : Prop :=
  ∀ device, store.getDevice deviceId = some device → InRange device.attributes

/-- No sum overflows. -/
def Sums (env : GlueEnv) (deviceId : String) (store : DeviceStore) (command : Command) : Prop :=
  (handleCmd env command.1 store deviceId command.2).isSome = true

/-- What a command needs: the sum of an increment fits and is no less than the lower bound,
that of a decrement fits and is no more than the upper, and zero is no more than the upper
bound for a reset without a lower. -/
def Fits (attributes : AttrMap) (command : String) : Prop :=
  (command = "increment" → InI64 (count attributes + step attributes) ∧
    ∀ low ∈ min? attributes, low ≤ count attributes + step attributes) ∧
  (command = "decrement" → InI64 (count attributes - step attributes) ∧
    ∀ high ∈ max? attributes, count attributes - step attributes ≤ high) ∧
  (command = "reset" → min? attributes = none → ∀ high ∈ max? attributes, 0 ≤ high)

instance (low high : Option Int) (n : Int) : Decidable (WithinBounds low high n) :=
  inferInstanceAs (Decidable (_ ∧ _))

instance (attributes : AttrMap) : Decidable (Ordered attributes) :=
  inferInstanceAs (Decidable (∀ low ∈ min? attributes, ∀ high ∈ max? attributes, low ≤ high))

instance (attributes : AttrMap) : Decidable (InRange attributes) :=
  inferInstanceAs (Decidable (WithinBounds _ _ _))

instance (attributes : AttrMap) (command : String) : Decidable (Fits attributes command) :=
  inferInstanceAs (Decidable (_ ∧ _ ∧ _))

/-- The command fits the counter as the store has it. -/
def Safe (env : GlueEnv) (deviceId : String) (store : DeviceStore) (command : Command) : Prop :=
  ∀ value, env.parse command.2 = some value → ∀ name, (value.get "command").bind Json.asStr = some name →
    ∀ device, store.getDevice deviceId = some device → Fits device.attributes name

end HomeCore.Glue.Counter

/-! A counter stays in range, and its sums fit, exactly as long as its commands fit what they
find: the lower bound is not looked at by an increment, the upper one neither by a decrement nor
by a reset. -/
namespace HomeCore.Glue.Counter
open HomeCore.Engine

variable {env : GlueEnv} {deviceId : String} {store : DeviceStore} {attributes : AttrMap}

/-! ## Numbers -/

theorem asI64_inI64 {value : Json} {n : Int} (read : asI64 value = some n) : InI64 n := by
  simp only [asI64] at read
  split at read
  · split at read
    · cases read
      assumption
    · cases read
  · split at read
    · cases read
      assumption
    · cases read
  · cases read

theorem asI64_ofI64 {n : Int} (fits : InI64 n) : asI64 (ofI64 n) = some n := by
  by_cases nonneg : 0 ≤ n
  · simp [ofI64, asI64, nonneg, fits]
  · simp [ofI64, asI64, nonneg, fits]

theorem read_inI64 {key : String} {n : Int} (read : attributes[key]?.bind asI64 = some n) : InI64 n := by
  obtain ⟨value, _, isRead⟩ := Option.bind_eq_some_iff.mp read
  exact asI64_inI64 isRead

theorem checked_eq_some {n m : Int} : checked n = some m ↔ InI64 n ∧ n = m := by
  simp only [checked]
  split <;> simp_all

theorem getD_inI64 {read : Option Int} {otherwise : Int} (fits : InI64 otherwise)
    (each : ∀ n, read = some n → InI64 n) : InI64 (read.getD otherwise) := by
  cases read with
  | none => exact fits
  | some n => exact each n rfl

theorem atMost_inI64 {high : Option Int} {n : Int} (fits : InI64 n) (each : ∀ h, high = some h → InI64 h) :
    InI64 (atMost high n) := by
  cases high with
  | none => exact fits
  | some h =>
    have bound := each h rfl
    simp only [atMost, Option.elim_some, InI64] at *
    omega

theorem atLeast_inI64 {low : Option Int} {n : Int} (fits : InI64 n) (each : ∀ l, low = some l → InI64 l) :
    InI64 (atLeast low n) := by
  cases low with
  | none => exact fits
  | some l =>
    have bound := each l rfl
    simp only [atLeast, Option.elim_some, InI64] at *
    omega

theorem zero_inI64 : InI64 0 := by decide

/-- What is stored is a 64-bit integer. -/
theorem newCount_inI64 {command : String} {payload : Json} {n : Int}
    (isNew : newCount attributes command payload = .known n) : InI64 n := by
  have low : ∀ l, min? attributes = some l → InI64 l := fun l => read_inI64
  have high : ∀ h, max? attributes = some h → InI64 h := fun h => read_inI64
  simp only [newCount] at isNew
  split at isNew
  · cases sum : checked (count attributes + step attributes) with
    | none => simp [sum, NewCount.of] at isNew
    | some m =>
      obtain ⟨fits, rfl⟩ := checked_eq_some.mp sum
      simp only [sum, NewCount.of, Option.elim_some, NewCount.known.injEq] at isNew
      exact isNew ▸ atMost_inI64 fits high
  · cases sum : checked (count attributes - step attributes) with
    | none => simp [sum, NewCount.of] at isNew
    | some m =>
      obtain ⟨fits, rfl⟩ := checked_eq_some.mp sum
      simp only [sum, NewCount.of, Option.elim_some, NewCount.known.injEq] at isNew
      exact isNew ▸ atLeast_inI64 fits low
  · cases isNew
    exact getD_inI64 zero_inI64 low
  · cases isNew
    refine atMost_inI64 (atLeast_inI64 (getD_inI64 zero_inI64 fun n read => ?_) low) high
    obtain ⟨value, _, isRead⟩ := Option.bind_eq_some_iff.mp read
    exact asI64_inI64 isRead
  · cases isNew

/-! ## One command -/

section Bounds
variable {low high : Option Int} {n : Int}

theorem atMost_within (ordered : ∀ l ∈ low, ∀ h ∈ high, l ≤ h) :
    WithinBounds low high (atMost high n) ↔ ∀ l ∈ low, l ≤ n := by
  cases high with
  | none => simp [WithinBounds, atMost]
  | some h =>
    constructor
    · intro within l isLow
      have above := within.1 l isLow
      simp only [atMost, Option.elim_some] at above
      omega
    · intro above
      refine ⟨fun l isLow => ?_, fun other isHigh => ?_⟩
      · have first := above l isLow
        have second := ordered l isLow h rfl
        simp only [atMost, Option.elim_some]
        omega
      · cases isHigh
        simp only [atMost, Option.elim_some]
        omega

theorem atLeast_within (ordered : ∀ l ∈ low, ∀ h ∈ high, l ≤ h) :
    WithinBounds low high (atLeast low n) ↔ ∀ h ∈ high, n ≤ h := by
  cases low with
  | none => simp [WithinBounds, atLeast]
  | some l =>
    constructor
    · intro within h isHigh
      have below := within.2 h isHigh
      simp only [atLeast, Option.elim_some] at below
      omega
    · intro below
      refine ⟨fun other isLow => ?_, fun h isHigh => ?_⟩
      · cases isLow
        simp only [atLeast, Option.elim_some]
        omega
      · have first := below h isHigh
        have second := ordered l rfl h isHigh
        simp only [atLeast, Option.elim_some]
        omega

theorem reset_within (ordered : ∀ l ∈ low, ∀ h ∈ high, l ≤ h) :
    WithinBounds low high (low.getD 0) ↔ (low = none → ∀ h ∈ high, 0 ≤ h) := by
  cases low with
  | none => simp [WithinBounds]
  | some l =>
    refine ⟨fun _ isNone => (by cases isNone), fun _ => ⟨fun other isLow => ?_, fun h isHigh => ?_⟩⟩
    · cases isLow
      exact le_refl l
    · exact ordered l rfl h isHigh

theorem set_within (ordered : ∀ l ∈ low, ∀ h ∈ high, l ≤ h) :
    WithinBounds low high (atMost high (atLeast low n)) := by
  rw [atMost_within ordered]
  intro l isLow
  cases isLow
  simp only [atLeast, Option.elim_some]
  omega

end Bounds

/-- The sum fits and the count that comes of it is in range, or the command is unknown. -/
def NewCount.Good (attributes : AttrMap) : NewCount → Prop
  | .known n => WithinBounds (min? attributes) (max? attributes) n
  | .overflow => False
  | .unknownCommand => True

theorem of_good {n : Int} {clamp : Int → Int} :
    (NewCount.of (checked n) clamp).Good attributes ↔
      InI64 n ∧ WithinBounds (min? attributes) (max? attributes) (clamp n) := by
  by_cases fits : InI64 n
  · simp [checked, fits, NewCount.of, NewCount.Good]
  · simp [checked, fits, NewCount.of, NewCount.Good]

theorem newCount_good_iff (ordered : Ordered attributes) (command : String) (payload : Json) :
    (newCount attributes command payload).Good attributes ↔ Fits attributes command := by
  simp only [newCount, Fits]
  split
  · rw [of_good, atMost_within ordered]
    simp
  · rw [of_good, atLeast_within ordered]
    simp
  · rw [NewCount.Good, reset_within ordered]
    simp
  · have within := set_within (n := ((payload.get "value").bind asI64).getD 0) ordered
    simp [NewCount.Good, within]
  · rename_i increment decrement reset _
    exact ⟨fun _ => ⟨fun same => (increment same).elim, fun same => (decrement same).elim,
      fun same => (reset same).elim⟩, fun _ => trivial⟩

theorem counted_attributes {n : Int} (fits : InI64 n) :
    InRange (withEntries [("count", ofI64 n)] attributes) ↔
      WithinBounds (min? attributes) (max? attributes) n := by
  have isCount : count (withEntries [("count", ofI64 n)] attributes) = n := by
    simp [count, withEntries, asI64_ofI64 fits]
  have isMin : min? (withEntries [("count", ofI64 n)] attributes) = min? attributes := by
    simp [min?, withEntries, Std.ExtTreeMap.getElem?_insert]
  have isMax : max? (withEntries [("count", ofI64 n)] attributes) = max? attributes := by
    simp [max?, withEntries, Std.ExtTreeMap.getElem?_insert]
  rw [InRange, isCount, isMin, isMax]

/-- The bounds are in order as the store has them. -/
def BoundsOrdered (deviceId : String) (store : DeviceStore) : Prop :=
  ∀ device, store.getDevice deviceId = some device → Ordered device.attributes

section Commands
variable {command : Command} {value : Json} {name : String} {device : DeviceState}

/-- Where nothing is stored, the count stays where it was. -/
theorem idle_kept (inRange : CountInRange deviceId store)
    (idle : handleCmd env command.1 store deviceId command.2 = some (store, [])) :
    CountInRange deviceId (afterCommand env deviceId store command) ∧ Sums env deviceId store command := by
  rw [afterCommand, Sums, idle]
  exact ⟨inRange, rfl⟩

theorem safe_iff_fits (parsed : env.parse command.2 = some value)
    (named : (value.get "command").bind Json.asStr = some name)
    (found : store.getDevice deviceId = some device) :
    Safe env deviceId store command ↔ Fits device.attributes name := by
  constructor
  · exact fun safe => safe value parsed name named device found
  · intro fits other isParsed otherName isNamed otherDevice isFound
    rw [parsed] at isParsed
    cases isParsed
    rw [named] at isNamed
    cases isNamed
    rw [found] at isFound
    cases isFound
    exact fits

theorem handleCmd_found (parsed : env.parse command.2 = some value)
    (named : (value.get "command").bind Json.asStr = some name)
    (found : store.getDevice deviceId = some device) :
    handleCmd env command.1 store deviceId command.2 =
      match newCount device.attributes name value with
      | .overflow => none
      | .unknownCommand => some (store, [])
      | .known n =>
        if n = count device.attributes then some (store, [])
        else some (applyStateUpdate command.1 store deviceId
          ((extractChangeFromCommandPayload env.readers command.1 value).getD (.unknown command.1))
          (withEntries [("count", ofI64 n)])) := by
  cases counted : newCount device.attributes name value with
  | overflow => simp only [handleCmd, parsed, named, found, counted]
  | unknownCommand => simp only [handleCmd, parsed, named, found, counted]
  | known n => simp only [handleCmd, parsed, named, found, counted]

theorem getDevice_applyStateUpdate {now : DateTime} {change : DeviceChange} {mutate : AttrMap → AttrMap}
    (found : store.getDevice deviceId = some device) :
    (applyStateUpdate now store deviceId change mutate).1.getDevice deviceId =
      some (edited now change mutate device) := by
  have isId : (edited now change mutate device).deviceId = deviceId := store.keyed deviceId device found
  simp only [applyStateUpdate, rewriteRecord, found]
  rw [getDevice_upsert, if_pos isId]

/-- A count is stored in range exactly if it is one. -/
theorem stored_inRange {now : DateTime} {change : DeviceChange} {n : Int} (fits : InI64 n)
    (found : store.getDevice deviceId = some device) :
    CountInRange deviceId
        (applyStateUpdate now store deviceId change (withEntries [("count", ofI64 n)])).1 ↔
      WithinBounds (min? device.attributes) (max? device.attributes) n := by
  rw [← counted_attributes fits]
  constructor
  · exact fun inRange => inRange _ (getDevice_applyStateUpdate found)
  · intro within other isFound
    rw [getDevice_applyStateUpdate found] at isFound
    cases isFound
    exact within

/-- A command that finds the counter in range leaves it so, its sum fitting, exactly if it
fits. -/
theorem command_exactly (ordered : BoundsOrdered deviceId store) (inRange : CountInRange deviceId store) :
    CountInRange deviceId (afterCommand env deviceId store command) ∧ Sums env deviceId store command ↔
      Safe env deviceId store command := by
  cases parsed : env.parse command.2 with
  | none =>
    have idle : handleCmd env command.1 store deviceId command.2 = some (store, []) := by
      simp only [handleCmd, parsed]
    refine ⟨fun _ value isParsed => ?_, fun _ => idle_kept inRange idle⟩
    rw [parsed] at isParsed
    cases isParsed
  | some value =>
    cases named : (value.get "command").bind Json.asStr with
    | none =>
      have idle : handleCmd env command.1 store deviceId command.2 = some (store, []) := by
        simp only [handleCmd, parsed, named]
      refine ⟨fun _ other isParsed name isNamed => ?_, fun _ => idle_kept inRange idle⟩
      rw [parsed] at isParsed
      cases isParsed
      rw [named] at isNamed
      cases isNamed
    | some name =>
      cases found : store.getDevice deviceId with
      | none =>
        have idle : handleCmd env command.1 store deviceId command.2 = some (store, []) := by
          simp only [handleCmd, parsed, named, found]
        refine ⟨fun _ other _ _ _ device isFound => ?_, fun _ => idle_kept inRange idle⟩
        rw [found] at isFound
        cases isFound
      | some device =>
        have handled := handleCmd_found parsed named found
        rw [safe_iff_fits parsed named found,
          ← newCount_good_iff (ordered device found) name value]
        cases isNew : newCount device.attributes name value with
        | overflow =>
          simp only [isNew] at handled
          rw [Sums, handled]
          exact ⟨fun kept => absurd kept.2 (by simp), False.elim⟩
        | unknownCommand =>
          simp only [isNew] at handled
          exact ⟨fun _ => trivial, fun _ => idle_kept inRange handled⟩
        | known n =>
          simp only [isNew] at handled
          by_cases same : n = count device.attributes
          · rw [if_pos same] at handled
            refine ⟨fun _ => ?_, fun _ => idle_kept inRange handled⟩
            rw [NewCount.Good, same]
            exact inRange device found
          · rw [if_neg same] at handled
            rw [afterCommand, Sums, handled, Option.map_some, Option.getD_some,
              stored_inRange (newCount_inI64 isNew) found, NewCount.Good]
            exact ⟨And.left, fun within => ⟨within, rfl⟩⟩

theorem ordered_withEntries {n : Int} (ordered : Ordered attributes) :
    Ordered (withEntries [("count", ofI64 n)] attributes) := by
  intro low isLow high isHigh
  refine ordered low ?_ high ?_
  · simpa [min?, withEntries, Std.ExtTreeMap.getElem?_insert] using isLow
  · simpa [max?, withEntries, Std.ExtTreeMap.getElem?_insert] using isHigh

/-- No command moves the bounds. -/
theorem bounds_kept (ordered : BoundsOrdered deviceId store) (command : Command) :
    BoundsOrdered deviceId (afterCommand env deviceId store command) := by
  simp only [afterCommand, handleCmd]
  split
  · exact ordered
  · split
    · exact ordered
    · split
      · exact ordered
      next device found =>
        split
        · exact ordered
        · exact ordered
        · split
          · exact ordered
          · intro after isAfter
            rw [Option.map_some, Option.getD_some, getDevice_applyStateUpdate found] at isAfter
            cases isAfter
            exact ordered_withEntries (ordered device found)

end Commands

/-! ## Runs -/

/-- In a run of commands the stored count stays in range and no sum overflows exactly if every
command fits the counter as it finds it. -/
theorem stays_in_range_iff (env : GlueEnv) (deviceId : String) (store : DeviceStore)
    (ordered : BoundsOrdered deviceId store) (inRange : CountInRange deviceId store)
    (commands : List Command) :
    Runs.Always (afterCommand env deviceId) (CountInRange deviceId) store commands ∧
        Runs.EachStep (afterCommand env deviceId) (Sums env deviceId) store commands ↔
      Runs.EachStep (afterCommand env deviceId) (Safe env deviceId) store commands :=
  Runs.always_and_eachStep_iff (BoundsOrdered deviceId)
    (fun _ command isOrdered => bounds_kept isOrdered command)
    (fun _ _ isOrdered isInRange => command_exactly isOrdered isInRange) ordered inRange commands

/-! ## A counter of doors -/

def doorCommands : List (List UInt8 × Json) :=
  ["increment", "decrement", "reset"].map fun name =>
    (("\x7b\"command\":\"" ++ name ++ "\"\x7d").toList.map fun c => c.toNat.toUInt8,
      .obj [("command", .str name)])

def doorsEnv : GlueEnv where
  readers := ⟨fun _ _ => none, fun _ => none⟩
  parse payload := doorCommands.lookup payload
  rfc3339 _ := ""
  round q := q

def doorCounter (settings : List (String × Int)) : DeviceState :=
  { DeviceState.new "counter_doors" "Doors" pluginId 0 with
    attributes := withEntries (settings.map fun entry => (entry.1, ofI64 entry.2)) ∅ }

def doors (settings : List (String × Int)) : DeviceStore :=
  (⟨∅, [], DeviceStore.none_keyed⟩ : DeviceStore).upsert (doorCounter settings)

def doorCommand (index : Nat) : Command := (1, (doorCommands.map Prod.fst).getD index [])

theorem increment_parsed :
    doorsEnv.parse (doorCommand 0).2 = some (.obj [("command", .str "increment")]) := by
  decide

theorem reset_parsed : doorsEnv.parse (doorCommand 2).2 = some (.obj [("command", .str "reset")]) := by
  decide

theorem doors_found (settings : List (String × Int)) :
    (doors settings).getDevice "counter_doors" = some (doorCounter settings) := by
  have isId : (doorCounter settings).deviceId = "counter_doors" := rfl
  rw [doors, getDevice_upsert, if_pos isId]

theorem doors_of {settings : List (String × Int)} {good : AttrMap → Prop}
    (holds : good (doorCounter settings).attributes) (device : DeviceState)
    (found : (doors settings).getDevice "counter_doors" = some device) : good device.attributes := by
  rw [doors_found] at found
  cases found
  exact holds

theorem doors_safe_iff (settings : List (String × Int)) {index : Nat} {name : String}
    (parsed : doorsEnv.parse (doorCommand index).2 = some (.obj [("command", .str name)])) :
    Safe doorsEnv "counter_doors" (doors settings) (doorCommand index) ↔
      Fits (doorCounter settings).attributes name := by
  refine safe_iff_fits parsed ?_ (doors_found settings)
  simp [Json.get, Json.asObject, Json.asStr]

instance (env : GlueEnv) (deviceId : String) (store : DeviceStore) (command : Command) :
    Decidable (Safe env deviceId store command) :=
  inferInstanceAs (Decidable (∀ value ∈ env.parse command.2, ∀ name ∈ (value.get "command").bind Json.asStr,
    ∀ device ∈ store.getDevice deviceId, Fits device.attributes name))

/-- At most five doors are open, and they are opened two at a time. -/
def fiveDoors : DeviceStore := doors [("count", 2), ("step", 2), ("min", 0), ("max", 5)]

/-- Doors are opened up to the bound, some are closed, and the count begins anew. -/
theorem door_counted :
    Runs.Always (afterCommand doorsEnv "counter_doors") (CountInRange "counter_doors") fiveDoors
        ([0, 0, 1, 2, 0].map doorCommand) ∧
      Runs.EachStep (afterCommand doorsEnv "counter_doors") (Sums doorsEnv "counter_doors") fiveDoors
        ([0, 0, 1, 2, 0].map doorCommand) := by
  have ordered : Ordered (doorCounter [("count", 2), ("step", 2), ("min", 0), ("max", 5)]).attributes := by decide
  have inRange : InRange (doorCounter [("count", 2), ("step", 2), ("min", 0), ("max", 5)]).attributes := by decide
  refine (stays_in_range_iff doorsEnv "counter_doors" fiveDoors (doors_of ordered) (doors_of inRange) _).mpr ?_
  decide +kernel

/-- A run of one command that does not fit leaves the range, or its sum overflows. -/
theorem one_unsafe {settings : List (String × Int)} {index : Nat} {name : String}
    (ordered : Ordered (doorCounter settings).attributes) (inRange : InRange (doorCounter settings).attributes)
    (parsed : doorsEnv.parse (doorCommand index).2 = some (.obj [("command", .str name)]))
    (misfit : ¬ Fits (doorCounter settings).attributes name) :
    ¬ (Runs.Always (afterCommand doorsEnv "counter_doors") (CountInRange "counter_doors") (doors settings)
          [doorCommand index] ∧
        Runs.EachStep (afterCommand doorsEnv "counter_doors") (Sums doorsEnv "counter_doors") (doors settings)
          [doorCommand index]) := by
  rintro ⟨always, calm⟩
  have isOrdered : BoundsOrdered "counter_doors" (doors settings) := doors_of ordered
  have isInRange : CountInRange "counter_doors" (doors settings) := doors_of inRange
  have isSafe := (command_exactly isOrdered isInRange).mp ⟨always.2, calm.1⟩
  exact misfit ((doors_safe_iff settings parsed).mp isSafe)

/-- The counter is in its range, and one of the commands takes it out or is summed wrong. -/
def LeavesRange (settings : List (String × Int)) (index : Nat) : Prop :=
  BoundsOrdered "counter_doors" (doors settings) ∧ CountInRange "counter_doors" (doors settings) ∧
    ¬ (Runs.Always (afterCommand doorsEnv "counter_doors") (CountInRange "counter_doors") (doors settings)
          [doorCommand index] ∧
        Runs.EachStep (afterCommand doorsEnv "counter_doors") (Sums doorsEnv "counter_doors") (doors settings)
          [doorCommand index])

/-- An increment by less than nothing falls below the lower bound, a reset exceeds a negative
upper bound, and at the greatest integer an increment overflows. -/
theorem counters_leave_range :
    LeavesRange [("count", 0), ("step", -1), ("min", 0)] 0 ∧ LeavesRange [("count", -1), ("max", -1)] 2 ∧
      LeavesRange [("count", maxI64)] 0 := by
  refine ⟨?_, ?_, ?_⟩
  · have ordered : Ordered (doorCounter [("count", 0), ("step", -1), ("min", 0)]).attributes := by decide
    have inRange : InRange (doorCounter [("count", 0), ("step", -1), ("min", 0)]).attributes := by decide
    exact ⟨doors_of ordered, doors_of inRange, one_unsafe ordered inRange increment_parsed (by decide)⟩
  · have ordered : Ordered (doorCounter [("count", -1), ("max", -1)]).attributes := by decide
    have inRange : InRange (doorCounter [("count", -1), ("max", -1)]).attributes := by decide
    exact ⟨doors_of ordered, doors_of inRange, one_unsafe ordered inRange reset_parsed (by decide)⟩
  · have ordered : Ordered (doorCounter [("count", maxI64)]).attributes := by decide
    have inRange : InRange (doorCounter [("count", maxI64)]).attributes := by decide
    exact ⟨doors_of ordered, doors_of inRange, one_unsafe ordered inRange increment_parsed (by decide)⟩

end HomeCore.Glue.Counter
