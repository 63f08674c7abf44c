import HomeCore.Streaming.EventStream

/-! Which runs of the event stream show a caller nothing but what it may read: the snapshots leave
out what no scope of the caller covers, the events do not. -/
namespace HomeCore.EventStream
variable {Schema Room Scene Rest : Type}

/-! ## The house without what is kept from the caller -/

theorem House.shownTo_shownTo (claims : Claims) (house : House Schema Room Scene) :
    (house.shownTo claims).shownTo claims = house.shownTo claims := by
  simp only [House.shownTo]
  congr 1 <;> split <;> rfl

theorem readSection_congr {α : Type} {may : Bool} {read other : Option α}
    (same : may → read = other) : readSection may read = readSection may other := by
  cases may with
  | false => rfl
  | true => rw [same rfl]

theorem Connection.readDevices_shownTo (c : Connection Schema) (house : House Schema Room Scene)
    (may : c.claims.hasScope "devices:read") :
    c.readDevices (house.shownTo c.claims) = c.readDevices house := by
  simp only [readDevices, House.shownTo, may, if_true]

/-- A snapshot reads nothing that the caller may not. -/
theorem Connection.snapshot_shownTo (c : Connection Schema) (now : DateTime)
    (house : House Schema Room Scene) :
    c.snapshot now (house.shownTo c.claims) = c.snapshot now house := by
  have devices := readSection_congr (c.readDevices_shownTo house)
  have rooms : readSection (c.claims.hasScope "areas:read") (house.shownTo c.claims).rooms =
      readSection (c.claims.hasScope "areas:read") house.rooms :=
    readSection_congr fun may => if_pos may
  have scenes : readSection (c.claims.hasScope "scenes:read") (house.shownTo c.claims).scenes =
      readSection (c.claims.hasScope "scenes:read") house.scenes :=
    readSection_congr fun may => if_pos may
  have alerts : (if c.claims.hasScope "devices:read" then (house.shownTo c.claims).alerts else none) =
      if c.claims.hasScope "devices:read" then house.alerts else none := by
    split
    next may => exact if_pos may
    next => rfl
  simp only [snapshot, devices, rooms, scenes, alerts]

theorem Connection.opening_shownTo (c : Connection Schema) (now : DateTime)
    (house : House Schema Room Scene) :
    (c.opening now (house.shownTo c.claims) : List (Frame Schema Room Scene Rest)) =
      c.opening now house := by
  rw [opening, opening, c.snapshot_shownTo]

theorem Connection.behind_shownTo (c : Connection Schema) (now : DateTime)
    (house : House Schema Room Scene) (missed : Nat) :
    (c.behind now (house.shownTo c.claims) missed : Frame Schema Room Scene Rest) =
      c.behind now house missed := by
  rw [behind, behind, c.snapshot_shownTo]

def State.shownTo (claims : Claims) (s : State Schema Room Scene) : State Schema Room Scene :=
  { s with house := s.house.shownTo claims }

theorem Connection.begin_shownTo (c : Connection Schema) (now : DateTime)
    (house : House Schema Room Scene) :
    c.begin now (house.shownTo c.claims) = (c.begin now house).shownTo c.claims := by
  rw [begin, c.snapshot_shownTo]
  rfl

/-! ## One step -/

theorem house_step (s : State Schema Room Scene) (i : Input Schema Room Scene Rest) :
    (s.step i).house = s.house.after i := by
  cases i with
  | tick =>
    simp only [State.step]
    split <;> rfl
  | _ => rfl

/-- The step of what is shown of an input, over the house as it is shown. -/
theorem step_shown (claims : Claims) (s : State Schema Room Scene)
    (i : Input Schema Room Scene Rest) :
    (shownInput claims s.house i).toList.foldl State.step (s.shownTo claims) =
      (s.step i).shownTo claims := by
  cases i with
  | house changed =>
    simp only [shownInput]
    split
    next same =>
      simp only [Option.toList_none, List.foldl_nil, State.shownTo, State.step, same]
    next =>
      simp only [Option.toList_some, List.foldl_cons, List.foldl_nil, State.shownTo, State.step]
  | event published =>
    simp only [shownInput]
    split <;> rfl
  | lagged lost now =>
    simp only [shownInput]
    split <;> rfl
  | tick =>
    simp only [shownInput, Option.toList_some, List.foldl_cons, List.foldl_nil, State.step,
      State.shownTo]
    split <;> rfl
  | pong => rfl
  | ends => rfl

variable (c : Connection Schema)

theorem outputs_one (s : State Schema Room Scene) (i : Input Schema Room Scene Rest) :
    Outputs.outputs State.step c.sends s [i] = c.sends s i := by
  rw [Outputs.outputs, Outputs.outputs, List.append_nil]

theorem filter_covers {claims : Claims} {lost : List (Published Rest)}
    (all : lost.all (covers claims)) : lost.filter (covers claims) = lost := by
  rw [List.filter_eq_self]
  exact List.all_eq_true.mp all

/-- A readable step sends what the step of its visible form sends. -/
theorem sends_shown {s : State Schema Room Scene} {i : Input Schema Room Scene Rest}
    (readable : Readable c s i) :
    c.sends s i = Outputs.outputs State.step c.sends (s.shownTo c.claims)
      (shownInput c.claims s.house i).toList := by
  cases i with
  | house changed =>
    simp only [shownInput]
    split <;> rfl
  | event published =>
    simp only [shownInput]
    split
    next => rw [Option.toList_some, outputs_one]; rfl
    next hidden =>
      have silent : (s.streaming && c.passes published.event) = false :=
        Bool.eq_false_iff.mpr fun forwards => hidden (readable forwards)
      simp only [Connection.sends, silent, Option.toList_none, Outputs.outputs, Bool.false_eq_true,
        if_false]
  | lagged lost now =>
    simp only [shownInput]
    by_cases streaming : s.streaming = true
    · rw [filter_covers (readable streaming)]
      split
      next empty =>
        simp only [empty, Connection.sends, List.isEmpty_nil, Bool.not_true, Bool.and_false,
          Bool.false_eq_true, if_false, Option.toList_none, Outputs.outputs]
      next =>
        rw [Option.toList_some, outputs_one]
        simp only [Connection.sends, State.shownTo, c.behind_shownTo]
    · have ended : s.streaming = false := Bool.eq_false_iff.mpr streaming
      split
      next => simp only [Connection.sends, ended, Bool.false_and, Bool.false_eq_true, if_false,
          Option.toList_none, Outputs.outputs]
      next =>
        rw [Option.toList_some, outputs_one]
        simp only [Connection.sends, State.shownTo, ended, Bool.false_and, Bool.false_eq_true,
          if_false]
  | tick => exact (outputs_one c (s.shownTo c.claims) .tick).symm
  | pong => rfl
  | ends => rfl

/-! ## What a frame tells of the events

Counting the events that a frame tells of shows a run that is not readable: its frames tell of more
events than those of the run it agrees with. -/

def told : Frame Schema Room Scene Rest → Nat
  | .event _ => 1
  | .snapshot missed _ => missed.getD 0
  | .lagged missed => missed
  | .ping => 0

theorem told_behind (now : DateTime) (house : House Schema Room Scene) (missed : Nat) :
    told (c.behind now house missed : Frame Schema Room Scene Rest) = missed := by
  rw [Connection.behind]
  split <;> rfl

/-- How many events the frames of a step tell of. -/
def load (s : State Schema Room Scene) : Input Schema Room Scene Rest → Nat
  | .event published => if s.streaming && c.passes published.event then 1 else 0
  | .lagged lost _ => if s.streaming then lost.length else 0
  | _ => 0

theorem total_sends (s : State Schema Room Scene) (i : Input Schema Room Scene Rest) :
    Outputs.total told (c.sends s i) = load c s i := by
  cases i with
  | event published =>
    simp only [Connection.sends, load]
    split <;> rfl
  | lagged lost now =>
    simp only [Connection.sends, load]
    cases s.streaming with
    | false => rfl
    | true =>
      cases lost with
      | nil => rfl
      | cons first others =>
        simp only [Outputs.total, List.isEmpty_cons, Bool.not_false, Bool.and_true, if_true,
          List.map_cons, List.map_nil, List.sum_cons, List.sum_nil, told_behind, Nat.add_zero]
  | tick =>
    simp only [Connection.sends, load]
    split <;> rfl
  | _ => rfl

/-- The same of the step of an input's visible form. -/
def shownLoad (s : State Schema Room Scene) : Input Schema Room Scene Rest → Nat
  | .event published =>
    if covers c.claims published && (s.streaming && c.passes published.event) then 1 else 0
  | .lagged lost _ => if s.streaming then (lost.filter (covers c.claims)).length else 0
  | _ => 0

theorem total_shown (s : State Schema Room Scene) (i : Input Schema Room Scene Rest) :
    Outputs.total told (Outputs.outputs State.step c.sends (s.shownTo c.claims)
      (shownInput c.claims s.house i).toList) = shownLoad c s i := by
  cases i with
  | house changed =>
    simp only [shownInput]
    split <;> rfl
  | event published =>
    simp only [shownInput, shownLoad]
    cases covers c.claims published with
    | false => rfl
    | true =>
      simp only [if_true, Option.toList_some, outputs_one, total_sends, Bool.true_and]
      rfl
  | lagged lost now =>
    simp only [shownInput, shownLoad]
    split
    next empty =>
      simp only [empty, List.length_nil, ite_self]
      rfl
    next =>
      simp only [Option.toList_some, outputs_one, total_sends]
      rfl
  | tick =>
    simp only [shownInput, Option.toList_some, outputs_one, total_sends]
    rfl
  | pong => rfl
  | ends => rfl

theorem shownLoad_le (s : State Schema Room Scene) (i : Input Schema Room Scene Rest) :
    shownLoad c s i ≤ load c s i := by
  cases i with
  | event published =>
    simp only [shownLoad, load]
    cases covers c.claims published with
    | false => simp only [Bool.false_and, Bool.false_eq_true, if_false, Nat.zero_le]
    | true => simp only [Bool.true_and, le_refl]
  | lagged lost now =>
    simp only [shownLoad, load]
    split
    next => exact List.length_filter_le _ _
    next => exact le_refl 0
  | _ => exact le_refl 0

/-- A step whose visible form tells of as many events is readable. -/
theorem readable_of_load {s : State Schema Room Scene} {i : Input Schema Room Scene Rest}
    (equal : shownLoad c s i = load c s i) : Readable c s i := by
  cases i with
  | event published =>
    intro forwards
    simp only [shownLoad, load, forwards, Bool.and_true, if_true] at equal
    by_contra hidden
    rw [if_neg hidden] at equal
    cases equal
  | lagged lost now =>
    intro streaming
    simp only [shownLoad, load, streaming, if_true] at equal
    rw [List.all_eq_true]
    exact List.length_filter_eq_length_iff.mp equal
  | _ => trivial

/-! ## Whole runs -/

/-- The stream, and the same stream over what the caller may see. -/
def Beside (claims : Claims) (house : House Schema Room Scene) (s shown : State Schema Room Scene) :
    Prop :=
  s.house = house ∧ shown = s.shownTo claims

theorem beside_step (claims : Claims) (house : House Schema Room Scene)
    (s shown : State Schema Room Scene) (i : Input Schema Room Scene Rest)
    (beside : Beside claims house s shown) :
    Beside claims (house.after i) (s.step i)
      ((shownInput claims house i).toList.foldl State.step shown) := by
  obtain ⟨rfl, rfl⟩ := beside
  constructor
  · exact house_step s i
  · exact step_shown claims s i

theorem beside_begin (now : DateTime) (house : House Schema Room Scene) :
    Beside c.claims house (c.begin now house) (c.begin now (house.shownTo c.claims)) :=
  ⟨rfl, c.begin_shownTo now house⟩

theorem frames_shownTo {run : Run Schema Room Scene Rest} (readable : run.Readable c) :
    c.frames run = c.frames (run.shownTo c.claims) := by
  have sent := Outputs.outputs_projected (Beside c.claims) (beside_step c.claims)
    (fun house s shown i beside safe => by
      obtain ⟨rfl, rfl⟩ := beside
      exact sends_shown c safe)
    (beside_begin c run.openedAt run.house) readable
  rw [Connection.frames, Connection.frames, sent]
  simp only [Run.shownTo, c.opening_shownTo]

theorem readable_of_frames {run : Run Schema Room Scene Rest}
    (equal : c.frames run = c.frames (run.shownTo c.claims)) : run.Readable c := by
  simp only [Connection.frames, Run.shownTo, c.opening_shownTo, List.append_cancel_left_eq] at equal
  apply Outputs.eachStep_of_outputs_eq (Beside c.claims) (beside_step c.claims)
    (fun house s shown i beside => ?_) (fun house s shown i beside same => ?_)
    (beside_begin c run.openedAt run.house) (congrArg (Outputs.total told) equal)
  · obtain ⟨rfl, rfl⟩ := beside
    rw [total_shown, total_sends]
    exact shownLoad_le c s i
  · obtain ⟨rfl, rfl⟩ := beside
    rw [total_shown, total_sends] at same
    exact readable_of_load c same

theorem shownInput_again (claims : Claims) {house other : House Schema Room Scene}
    {i j : Input Schema Room Scene Rest} (alike : house.shownTo claims = other.shownTo claims)
    (seen : shownInput claims house i = some j) :
    shownInput claims other j = some j ∧
      (house.after i).shownTo claims = (other.after j).shownTo claims := by
  cases i with
  | house changed =>
    simp only [shownInput] at seen
    split at seen
    next => cases seen
    next differs =>
      cases seen
      have still : ¬(changed.shownTo claims).shownTo claims = other.shownTo claims := by
        rwa [House.shownTo_shownTo, ← alike]
      constructor
      · rw [shownInput, if_neg still, House.shownTo_shownTo]
      · exact (House.shownTo_shownTo claims changed).symm
  | event published =>
    simp only [shownInput] at seen
    split at seen
    next may => cases seen; exact ⟨if_pos may, alike⟩
    next => cases seen
  | lagged lost now =>
    simp only [shownInput] at seen
    split at seen
    next => cases seen
    next some =>
      cases seen
      simp only [shownInput, List.filter_filter, Bool.and_self]
      exact ⟨if_neg some, alike⟩
  | tick => cases seen; exact ⟨rfl, alike⟩
  | pong => cases seen; exact ⟨rfl, alike⟩
  | ends => cases seen; exact ⟨rfl, alike⟩

theorem after_unseen (claims : Claims) {house other : House Schema Room Scene}
    {i : Input Schema Room Scene Rest} (alike : house.shownTo claims = other.shownTo claims)
    (unseen : shownInput claims house i = none) :
    (house.after i).shownTo claims = other.shownTo claims := by
  cases i with
  | house changed =>
    simp only [shownInput] at unseen
    split at unseen
    next same => exact same.trans alike
    next => cases unseen
  | _ => exact alike

/-- What is shown of a run is shown of that again. -/
theorem Run.shownTo_shownTo (claims : Claims) (run : Run Schema Room Scene Rest) :
    (run.shownTo claims).shownTo claims = run.shownTo claims := by
  have inputs := Outputs.projected_projected
    (fun house other : House Schema Room Scene => house.shownTo claims = other.shownTo claims)
    (fun _ _ _ _ => shownInput_again claims) (fun _ _ _ => after_unseen claims)
    (House.shownTo_shownTo claims run.house).symm run.inputs
  simp only [Run.shownTo, House.shownTo_shownTo, inputs]

theorem readable_shown {s : State Schema Room Scene} {house : House Schema Room Scene}
    {i j : Input Schema Room Scene Rest} (seen : shownInput c.claims house i = some j) :
    Readable c s j := by
  cases i with
  | house changed =>
    simp only [shownInput] at seen
    split at seen <;> cases seen
    trivial
  | event published =>
    simp only [shownInput] at seen
    split at seen
    next may => cases seen; exact fun _ => may
    next => cases seen
  | lagged lost now =>
    simp only [shownInput] at seen
    split at seen <;> cases seen
    intro _
    rw [List.all_eq_true]
    exact fun published kept => (List.mem_filter.mp kept).2
  | tick => cases seen; trivial
  | pong => cases seen; trivial
  | ends => cases seen; trivial

theorem shownTo_readable (run : Run Schema Room Scene Rest) : (run.shownTo c.claims).Readable c :=
  Outputs.eachStep_projected (fun _ _ _ _ => readable_shown c) _ _ _

/-- The frames of a run are the same as those of every readable run that agrees with it on what
the caller may read, exactly if the run is readable itself: if no event that no scope of the
caller covers was forwarded, and none was among those it was told it lost. -/
theorem shows_what_it_may_read_iff (run : Run Schema Room Scene Rest) :
    run.Readable c ↔ ∀ other : Run Schema Room Scene Rest, other.Readable c →
      Agree c.claims run other → c.frames run = c.frames other := by
  constructor
  · intro readable other otherReadable agree
    calc c.frames run = c.frames (run.shownTo c.claims) := frames_shownTo c readable
      _ = c.frames (other.shownTo c.claims) := by rw [agree]
      _ = c.frames other := (frames_shownTo c otherReadable).symm
  · intro same
    apply readable_of_frames
    exact same _ (shownTo_readable c run) (Run.shownTo_shownTo c.claims run).symm

/-- A key that may read scenes only, on a stream with no filter. -/
def scenesKey : Connection Unit where
  claims := ⟨none, .admin, ["scenes:read"], .apiKey ⟨1⟩ ⟨2⟩ "panel", 0, none⟩
  query := ⟨none, none, true⟩
  fillPrimary := fun _ schema => schema

/-- A house in which the given events are published. -/
def houseRun (events : List Event) : Run Unit Unit Unit Unit where
  openedAt := 0
  house := ⟨some ∅, some [], some [], some [], some []⟩
  inputs := events.map fun event => .event ⟨event, ()⟩

/-- The key hears of a lock that went offline. -/
theorem scenes_key_hears_of_lock :
    Agree scenesKey.claims (houseRun [.deviceAvailabilityChanged 1 "lock_front" none false])
      (houseRun []) ∧
    scenesKey.frames (houseRun [.deviceAvailabilityChanged 1 "lock_front" none false]) ≠
      scenesKey.frames (houseRun []) := by
  constructor
  · rfl
  · intro same
    have counts := congrArg List.length same
    revert counts
    decide

end HomeCore.EventStream
