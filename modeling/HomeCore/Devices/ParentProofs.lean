import HomeCore.Devices.ForgottenProofs
import HomeCore.Forest

/-! The devices that others sit behind. A registration refuses only a device that
names itself, so a circle can be closed by a second one. -/
namespace HomeCore

def DeviceStore.parentOf (store : DeviceStore) (deviceId : String) : Option String :=
  (store.getDevice deviceId).bind (·.parentDeviceId)

/-- A message, when it is received, and the random id it may draw. -/
structure Received (Schema : Type) where
  now : DateTime
  random : Uuid
  message : BridgeMessage Schema

def HomeStore.receive {Schema : Type} (env : BridgeEnv Schema) (home : HomeStore Schema)
    (received : Received Schema) : HomeStore Schema :=
  home.handle env received.now received.random received.message

/-- Following parents from any device never comes back to one. -/
def ParentsForm {Schema : Type} (home : HomeStore Schema) : Prop :=
  Forest.IsForest home.devices.parentOf

/-- A registration that is stored names a parent above which the device is not. -/
def ClosesNoCircle {Schema : Type} (home : HomeStore Schema) (received : Received Schema) : Prop :=
  match received.message with
  | .registration _ json => ∀ reg, readRegistration json = .ok reg →
      (home.devices.getDevice reg.deviceId ≠ none ∨ home.devices.isForgotten reg.deviceId = false) →
      ∀ parent ∈ reg.parentDeviceId, ∀ n,
        Forest.walk home.devices.parentOf parent n ≠ some reg.deviceId
  | _ => True

theorem parentOf_upsert (store : DeviceStore) (device : DeviceState) :
    (store.upsert device).parentOf =
      Function.update store.parentOf device.deviceId device.parentDeviceId := by
  funext deviceId
  simp only [DeviceStore.parentOf, getDevice_upsert, Function.update_apply, eq_comm]
  split <;> rfl

/-- A write that leaves the parent as the store has it. -/
theorem parentOf_upsert_same {store : DeviceStore} {device : DeviceState}
    (same : device.parentDeviceId = store.parentOf device.deviceId) :
    (store.upsert device).parentOf = store.parentOf := by
  rw [parentOf_upsert, same, Function.update_eq_self]

theorem parentOf_delete {store : DeviceStore} {deviceId place parent : String}
    (found : (store.delete deviceId).parentOf place = some parent) :
    store.parentOf place = some parent := by
  simp only [DeviceStore.parentOf, DeviceStore.getDevice, DeviceStore.delete,
    Std.ExtTreeMap.getElem?_erase] at found ⊢
  split at found
  · cases found
  · exact found

theorem withCanonicalName_parent (devices : List DeviceState) (device : DeviceState) :
    (withCanonicalName devices device).parentDeviceId = device.parentDeviceId := by
  unfold withCanonicalName
  split <;> rfl

theorem recordBefore_parent (now : DateTime) (deviceId : String) (store : DeviceStore) :
    (recordBefore now deviceId store).parentDeviceId = store.parentOf deviceId := by
  unfold recordBefore DeviceStore.parentOf
  cases store.getDevice deviceId <;> rfl

section Messages
variable {Schema : Type} (env : BridgeEnv Schema) (now : DateTime) (random : Uuid)
  (home : HomeStore Schema)

theorem parentOf_state (deviceId : String) (incoming : Json) (isPartial : Bool) :
    (home.handle env now random (.state deviceId incoming isPartial)).devices.parentOf =
      home.devices.parentOf := by
  let bridge : StateBridge := ⟨home.devices, env.pendingCommandChanges⟩
  change (bridge.handleState env.readers now none deviceId incoming isPartial).1.store.parentOf =
    bridge.store.parentOf
  by_cases ignored : incoming.asObject = none ∨ ¬ Handled bridge.store none deviceId
  · rw [(handleState_ignored env.readers now none bridge deviceId incoming isPartial ignored).1]
  · obtain ⟨isSome, handled⟩ := not_or.mp ignored
    obtain ⟨payload, isObject⟩ := Option.ne_none_iff_exists'.mp isSome
    rw [handleState_store env.readers now none bridge deviceId incoming isPartial isObject
      (not_not.mp handled)]
    apply parentOf_upsert_same
    rw [withCanonicalName_parent, (withCanonicalName_kept _ _).1]
    exact (recordBefore_parent now deviceId bridge.store).trans
      (congrArg bridge.store.parentOf (recordBefore_deviceId now deviceId bridge.store).symm)

theorem parentOf_availability (deviceId : String) (available : Bool) :
    (home.handle env now random (.availability deviceId available)).devices.parentOf =
      home.devices.parentOf := by
  simp only [HomeStore.handle, HomeStore.handleAvailability]
  split
  · rfl
  · rename_i device seen
    apply parentOf_upsert_same
    rw [withCanonicalName_parent, (withCanonicalName_kept _ _).1]
    change device.parentDeviceId = home.devices.parentOf device.deviceId
    cases found : home.devices.getDevice deviceId with
    | some existing =>
      rw [found, Option.some_or, Option.some_inj] at seen
      rw [← seen, DeviceStore.parentOf, home.devices.keyed deviceId existing found, found]
      rfl
    | none =>
      rw [found, Option.none_or] at seen
      split at seen
      · cases seen
      · rw [← Option.some_inj.mp seen]
        exact (congrArg (·.bind DeviceState.parentDeviceId) found).symm

/-- Setting no parent, or one. -/
def withParent (parents : String → Option String) (deviceId : String) (said : Option String) :
    String → Option String :=
  said.elim parents fun parent => Function.update parents deviceId (some parent)

theorem parentOf_registered {store : DeviceStore} {device : DeviceState} {said : Option String}
    (parentEq : device.parentDeviceId = said.or (store.parentOf device.deviceId)) :
    (store.upsert device).parentOf = withParent store.parentOf device.deviceId said := by
  rw [parentOf_upsert, parentEq]
  cases said with
  | none => exact Function.update_eq_self _ _
  | some parent => rfl

/-- The parents after a registration that can be read: one is set, where the
record is stored and the payload names one. -/
theorem parentOf_registration {json : Json} {reg : Registration} (pluginId : String)
    (isRead : readRegistration json = .ok reg) :
    (home.handle env now random (.registration pluginId json)).devices.parentOf =
      if home.devices.getDevice reg.deviceId ≠ none ∨ home.devices.isForgotten reg.deviceId = false then
        withParent home.devices.parentOf reg.deviceId reg.parentDeviceId
      else home.devices.parentOf := by
  rw [registration_store env now random home pluginId isRead]
  simp only [Registration.record]
  cases found : home.devices.getDevice reg.deviceId with
  | some existing =>
    have idEq := home.devices.keyed reg.deviceId existing found
    simp only [ne_eq, reduceCtorEq, not_false_eq_true, true_or, if_true, Option.elim_some]
    rw [parentOf_registered, update_deviceId, idEq]
    rw [withCanonicalName_parent, update_deviceId, idEq, DeviceStore.parentOf, found]
    rfl
  | none =>
    cases forgotten : home.devices.isForgotten reg.deviceId with
    | true => simp
    | false =>
      simp only [ne_eq, not_true, false_or, if_true, Bool.false_eq_true, if_false, Option.elim_some]
      rw [parentOf_registered, (withCanonicalName_kept _ _).1]
      · rfl
      · rw [withCanonicalName_parent, (withCanonicalName_kept _ _).1]
        have unknown : home.devices.parentOf reg.deviceId = none := by
          rw [DeviceStore.parentOf, found]
          rfl
        exact ((congrArg reg.parentDeviceId.or unknown).trans Option.or_none).symm

end Messages

/-- One message: a forest stays one exactly when no circle is closed. -/
theorem parentsForm_receive {Schema : Type} (env : BridgeEnv Schema) (home : HomeStore Schema)
    (received : Received Schema) (form : ParentsForm home) :
    ParentsForm (home.receive env received) ↔ ClosesNoCircle home received := by
  obtain ⟨now, random, message⟩ := received
  unfold ParentsForm at form
  simp only [ParentsForm, HomeStore.receive, ClosesNoCircle]
  cases message with
  | registration pluginId json =>
    dsimp only
    cases isRead : readRegistration json with
    | error missing =>
      simpa [HomeStore.handle, HomeStore.handleDeviceRegistration, isRead] using form
    | ok reg =>
      rw [parentOf_registration env now random home pluginId isRead]
      simp only [Except.ok.injEq, forall_eq']
      split
      · rename_i stored
        simp only [stored, forall_const]
        cases reg.parentDeviceId with
        | none => simpa [withParent] using form
        | some parent =>
          simpa [withParent] using Forest.isForest_update_iff form reg.deviceId parent
      · rename_i unstored
        simpa [unstored] using form
  | unregistration pluginId json =>
    simp only [iff_true, HomeStore.handle, HomeStore.handleDeviceUnregistration]
    split
    · exact form
    · split
      · exact form
      · exact form.mono fun _ _ => parentOf_delete
  | schema deviceId parsed =>
    simp only [iff_true, HomeStore.handle, HomeStore.handleDeviceSchema]
    split <;> exact form
  | state deviceId incoming isPartial =>
    rw [parentOf_state]
    simpa using form
  | availability deviceId available =>
    rw [parentOf_availability]
    simpa using form

/-- Over every run of registrations, unregistrations and other messages, the
parents form a forest throughout if and only if no registration closes a circle. -/
theorem parents_form_forest_iff {Schema : Type} (env : BridgeEnv Schema) (home : HomeStore Schema)
    (form : ParentsForm home) (messages : List (Received Schema)) :
    Runs.Always (HomeStore.receive env) ParentsForm home messages ↔
      Runs.EachStep (HomeStore.receive env) ClosesNoCircle home messages :=
  Runs.always_iff_eachStep (parentsForm_receive env) form messages

def noDevices : HomeStore String where
  devices := ⟨∅, [], DeviceStore.none_keyed⟩
  areas := ⟨∅, AreaStore.none_keyed⟩
  schemas := ∅
  history := []

def registered (deviceId parent : String) : Received String where
  now := 0
  random := ⟨0⟩
  message := .registration "zwave" (.obj [("device_id", .str deviceId), ("name", .str deviceId),
    ("parent_device_id", .str parent)])

/-- Two devices that each say they sit behind the other. -/
theorem two_registrations_close_circle :
    let home := [registered "hub" "stick", registered "stick" "hub"].foldl
      (HomeStore.receive lightTypes) noDevices
    Forest.walk home.devices.parentOf "hub" 2 = some "hub" ∧ ¬ ParentsForm home := by
  intro home
  have back : Forest.walk home.devices.parentOf "hub" 2 = some "hub" := by
    decide
  exact ⟨back, fun form => form "hub" 0 2 "hub" (by decide) rfl back⟩

theorem walk_noDevices (start place : String) (n : Nat) :
    Forest.walk noDevices.devices.parentOf start (n + 1) ≠ some place := by
  intro reached
  obtain ⟨below, _, isParent⟩ := Option.bind_eq_some_iff.mp reached
  simp [noDevices, DeviceStore.parentOf, DeviceStore.getDevice] at isParent

theorem parentsForm_noDevices : ParentsForm noDevices :=
  Forest.isForest_iff.mpr fun start n => walk_noDevices start start n

/-- A hub behind a stick that is not registered itself. -/
theorem hub_behind_stick :
    Runs.Always (HomeStore.receive lightTypes) ParentsForm noDevices [registered "hub" "stick"] := by
  refine (parents_form_forest_iff lightTypes noDevices parentsForm_noDevices _).mpr ⟨?_, trivial⟩
  intro reg isRead _ parent said n back
  have evaluated : (readRegistration (.obj [("device_id", .str "hub"), ("name", .str "hub"),
      ("parent_device_id", .str "stick")])).toOption.all
        (fun reg => reg.deviceId == "hub" && reg.parentDeviceId == some "stick") = true := by
    decide
  rw [isRead] at evaluated
  simp only [Except.toOption, Option.all_some, Bool.and_eq_true, beq_iff_eq] at evaluated
  rw [evaluated.2, Option.mem_some_iff] at said
  rw [evaluated.1, ← said] at back
  cases n with
  | zero => exact absurd back (by decide)
  | succ n => exact walk_noDevices _ _ n back

end HomeCore
