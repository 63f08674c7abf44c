import HomeCore.Calendars.IcsFiles
import HomeCore.Engine.Conditions

/-! What the condition on an active calendar finds. Its scan ends at the first event that is
yet to start; parsing leaves the events in the order of their starts, so none is missed. -/
namespace HomeCore.Calendars

/-- A file, and when and how it is read. -/
structure CalendarFile (crates : CalendarCrates) where
  id : String
  content : String
  expansionDays : Nat
  readAt : DateTime
  house : crates.Zone

/-- What the condition reads of an event. -/
def CalEvent.scanned (event : CalEvent) : Engine.CalendarEvent := ⟨event.start, event.endAt, event.summary⟩

def CalendarEntry.scanned (entry : CalendarEntry) : Engine.CalendarEntry :=
  ⟨entry.id, entry.events.map CalEvent.scanned⟩

section Files
variable (crates : CalendarCrates)

/-- The calendar that a file is parsed into, if it is one. -/
def CalendarFile.entry (file : CalendarFile crates) : Option CalendarEntry :=
  match parseIcsAt crates file.id file.content file.expansionDays file.readAt file.house with
  | .ok entry => entry
  | .error _ => none

def loadedCalendars (files : List (CalendarFile crates)) : List Engine.CalendarEntry :=
  (files.filterMap (CalendarFile.entry crates)).map CalendarEntry.scanned

end Files

def passesTitle (texts : Engine.Texts) (titleContains : Option String)
    (event : Engine.CalendarEvent) : Prop :=
  ∀ part, titleContains = some part →
    (texts.lower part).toList <:+: (texts.lower event.summary).toList

/-! ## Events are in order -/

theorem parsed_sorted {crates : CalendarCrates} {id content : String} {expansionDays : Nat}
    {now : DateTime} {house : crates.Zone} {entry : CalendarEntry}
    (parsed : parseIcsAt crates id content expansionDays now house = .ok (some entry)) :
    entry.events.Pairwise fun a b => a.start ≤ b.start := by
  rw [parseIcsAt] at parsed
  split at parsed
  · cases parsed
  · obtain ⟨windowEnd, _, parsed⟩ := Outcome.bind_ok.mp parsed
    obtain ⟨events, _, parsed⟩ := Outcome.bind_ok.mp parsed
    cases parsed
    have sorted : (events.flatten.mergeSort fun a b => decide (a.start ≤ b.start)).Pairwise
        fun a b => decide (a.start ≤ b.start) = true := by
      apply List.pairwise_mergeSort
      · intro a b c first second
        exact decide_eq_true (le_trans (of_decide_eq_true first) (of_decide_eq_true second))
      · intro a b
        simpa using le_total a.start b.start
    exact sorted.imp of_decide_eq_true

theorem loaded_sorted {crates : CalendarCrates} {files : List (CalendarFile crates)}
    {entry : Engine.CalendarEntry} (member : entry ∈ loadedCalendars crates files) :
    entry.events.Pairwise fun a b => a.start ≤ b.start := by
  obtain ⟨loaded, fromFile, rfl⟩ := List.mem_map.mp member
  obtain ⟨file, _, isEntry⟩ := List.mem_filterMap.mp fromFile
  rw [CalendarFile.entry] at isEntry
  split at isEntry
  · rename_i parsed
    subst isEntry
    exact List.pairwise_map.mpr (parsed_sorted parsed)
  · cases isEntry

/-! ## The scan -/

variable {texts : Engine.Texts} {titleContains : Option String}

theorem passesTitle_iff {event : Engine.CalendarEvent} :
    (titleContains.all fun part =>
        decide ((texts.lower part).toList <:+: (texts.lower event.summary).toList)) = true ↔
      passesTitle texts titleContains event := by
  cases titleContains with
  | none => simp [passesTitle]
  | some part => simp [passesTitle]

/-- In a list in order, the scan finds an event exactly where one is under way. -/
theorem activeEvent_isSome_iff (world : Engine.World) {events : List Engine.CalendarEvent}
    (sorted : events.Pairwise fun a b => a.start ≤ b.start) :
    (Engine.activeEvent texts world titleContains events).isSome = true ↔
      ∃ event ∈ events, passesTitle texts titleContains event ∧ event.start ≤ world.now ∧
        world.now < event.finish := by
  induction events with
  | nil => simp [Engine.activeEvent]
  | cons event later ih =>
    obtain ⟨first, sorted⟩ := List.pairwise_cons.mp sorted
    have found := ih sorted
    rw [Engine.activeEvent]
    by_cases yetToStart : world.now < event.start
    · -- nor has any later one started
      rw [if_pos yetToStart]
      constructor
      · intro none_
        cases none_
      · rintro ⟨other, member, _, started, _⟩
        rcases List.mem_cons.mp member with rfl | after
        · exact absurd yetToStart (not_lt.mpr started)
        · exact absurd yetToStart (not_lt.mpr (le_trans (first other after) started))
    · rw [if_neg yetToStart, List.exists_mem_cons_iff]
      have started := not_lt.mp yetToStart
      by_cases ended : event.finish ≤ world.now
      · rw [if_pos ended, found]
        have notActive : ¬ world.now < event.finish := not_lt.mpr ended
        simp [notActive]
      · rw [if_neg ended]
        have active := not_le.mp ended
        split
        · rename_i passes
          have isActive := passesTitle_iff.mp passes
          simp [isActive, started, active]
        · rename_i fails
          have isOther : ¬ passesTitle texts titleContains event := fun passes =>
            fails (passesTitle_iff.mpr passes)
          rw [found]
          simp [isOther]

/-- The condition on an active calendar passes exactly where some event of a calendar that it
means, with a title that it asks for, has started and is not over. -/
theorem calendar_active_iff (crates : CalendarCrates) (texts : Engine.Texts) (world : Engine.World)
    (files : List (CalendarFile crates)) (calendarId titleContains : Option String) :
    ∃ trace, Engine.calendarActiveTrace texts
        { world with calendars := some (loadedCalendars crates files) } calendarId titleContains =
          .ok trace ∧
      (trace.passed = true ↔ ∃ entry ∈ loadedCalendars crates files,
        (∀ id, calendarId = some id → entry.id = id) ∧
        ∃ event ∈ entry.events, passesTitle texts titleContains event ∧ event.start ≤ world.now ∧
          world.now < event.finish) := by
  refine ⟨_, rfl, ?_⟩
  let loaded : Engine.World := { world with calendars := some (loadedCalendars crates files) }
  have scan : ∀ entry ∈ loadedCalendars crates files,
      (Engine.activeEvent texts loaded titleContains entry.events).isSome = true ↔
        ∃ event ∈ entry.events, passesTitle texts titleContains event ∧ event.start ≤ world.now ∧
          world.now < event.finish := fun entry member =>
    activeEvent_isSome_iff loaded (loaded_sorted member)
  change ((loadedCalendars crates files).filter _ |>.findSome? _).isSome = true ↔ _
  rw [List.findSome?_isSome_iff]
  constructor
  · rintro ⟨entry, chosen, found⟩
    obtain ⟨member, meant⟩ := List.mem_filter.mp chosen
    refine ⟨entry, member, ?_, (scan entry member).mp found⟩
    rintro id rfl
    simpa using meant
  · rintro ⟨entry, member, meant, active⟩
    refine ⟨entry, List.mem_filter.mpr ⟨member, ?_⟩, (scan entry member).mpr active⟩
    cases calendarId with
    | none => rfl
    | some id => simpa using meant id rfl

end HomeCore.Calendars
