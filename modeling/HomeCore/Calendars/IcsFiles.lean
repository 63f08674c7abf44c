import HomeCore.Calendars.Durations

/-! A calendar file read into events: which components are events, when they start and how
long they last, and the occurrences of those that recur. The parser of the format, the time
zones and the expansion of recurrence rules are other packages' part. -/
namespace HomeCore.Calendars

structure IcsProperty where
  name : String
  params : List (String × Option String)
  val : String

structure IcsComponent where
  name : String
  properties : List IcsProperty

/-- Other packages' part. A wall-clock time is counted in nanoseconds as if it were UTC. -/
structure CalendarCrates where
  Zone : Type
  Rule : Type
  Series : Type
  /-- Unfolds the lines of a calendar and parses it. -/
  readCalendar : String → Option (List IcsComponent)
  findProp : IcsComponent → String → Option IcsProperty
  /-- Midnight of a date written `%Y%m%d`. -/
  parseDate : String → Option Int
  /-- A date and time written `%Y%m%dT%H%M%S`. -/
  parseDateTime : String → Option Int
  parseZone : String → Option Zone
  utc : Zone
  /-- The first of the instants at which a zone's clocks show a time. -/
  earliest : Zone → Int → Option DateTime
  parseRule : String → Option Rule
  count : Rule → Nat → Rule
  withUntil : Rule → DateTime → Rule
  /-- Validates a rule against its first start. -/
  build : Rule → DateTime → Zone → Option Series
  /-- The occurrences of a rule and the RDATEs, less the EXDATEs, from the first instant to the
  second, as many as the limit allows. -/
  all : Series → List DateTime → List DateTime → DateTime → DateTime → Nat → List DateTime

def hourLength : Int := 3600 * second

/-- When an iCalendar date or date-time happens, and the zone it was written in. -/
structure When (Zone : Type) where
  instant : DateTime
  dateOnly : Bool
  zone : Zone

structure CalEvent where
  uid : String
  summary : String
  start : DateTime
  endAt : DateTime
  isAllDay : Bool
  deriving DecidableEq

structure CalendarEntry where
  id : String
  events : List CalEvent
  deriving DecidableEq

/-- `str::eq_ignore_ascii_case`. -/
def eqIgnoreAsciiCase (a b : String) : Bool := a.toLower = b.toLower

def trimQuotes (text : List Char) : List Char :=
  ((text.dropWhile (· = '"')).reverse.dropWhile (· = '"')).reverse

def param (prop : IcsProperty) (key : String) : Option String :=
  ((prop.params.find? fun p => eqIgnoreAsciiCase p.1 key).bind (·.2)).map fun v =>
    String.ofList (trimQuotes v.toList)

def stripZ (text : String) : Option String :=
  if text.toList.getLast? = some 'Z' then some (String.ofList text.toList.dropLast) else none

section Dates
variable (crates : CalendarCrates)

/-- A time that a clock change skips is taken an hourLength on, one that it repeats the first time. -/
def localInstant (zone : crates.Zone) (wall : Int) : Option DateTime :=
  (crates.earliest zone wall).or (crates.earliest zone (wall + hourLength))

/-- One value of a property. A named zone that is not known is read as the house's. -/
def whenOf (declaredDate : Bool) (zone : Option crates.Zone) (house : crates.Zone) (raw : String) :
    Option (When crates.Zone) :=
  let raw := String.ofList (trim raw.toList)
  if declaredDate || raw.utf8ByteSize = 8 then do
    let day ← crates.parseDate raw
    let instant ← localInstant crates house day
    some ⟨instant, true, house⟩
  else match stripZ raw with
    | some text => do
      let wall ← crates.parseDateTime text
      some ⟨wall, false, crates.utc⟩
    | none => do
      let wall ← crates.parseDateTime raw
      let instant ← localInstant crates (zone.getD house) wall
      some ⟨instant, false, zone.getD house⟩

def whensOf (prop : IcsProperty) (house : crates.Zone) : List (When crates.Zone) :=
  let declaredDate := (param prop "VALUE").any fun v => eqIgnoreAsciiCase v "DATE"
  let zone := (param prop "TZID").bind crates.parseZone
  (splitText ',' prop.val).filterMap (whenOf crates declaredDate zone house)

def propWhen (component : IcsComponent) (name : String) (house : crates.Zone) :
    Option (When crates.Zone) :=
  (crates.findProp component name).bind fun prop => (whensOf crates prop house).head?

/-! ## Recurrence -/

/-- A date means the whole of that day. -/
def parseUntil (text : String) (start : When crates.Zone) : Option DateTime :=
  if text.utf8ByteSize = 8 then
    (crates.parseDate text).bind fun day => localInstant crates start.zone (day + (24 * hourLength - second))
  else match stripZ text with
    | some text => crates.parseDateTime text
    | none => (crates.parseDateTime text).bind (localInstant crates start.zone)

/-- `str::split_once`. -/
def splitOnce (separator : Char) (text : List Char) : Option (List Char × List Char) :=
  match text.span (· ≠ separator) with
  | (front, _ :: back) => some (front, back)
  | (_, []) => none

/-- The value of a part that is an UNTIL. -/
def untilPart (part : String) : Option String :=
  (splitOnce '=' part.toList).bind fun (key, value) =>
    if eqIgnoreAsciiCase (String.ofList (trim key)) "UNTIL" then some (String.ofList (trim value)) else none

/-- What a rule comes to: it cannot be read, it is refused, or it is a series from its first
start. -/
inductive RuleReading (crates : CalendarCrates) where
  | unread
  | refused
  | series (series : crates.Series)

/-- The UNTIL of a rule is taken out and set as an instant; of several, the last. -/
def readRule (start : When crates.Zone) (rrule : String) : RuleReading crates :=
  let parts := splitText ';' rrule
  let untilAt := ((parts.filterMap untilPart).getLast?).bind (parseUntil crates · start)
  match crates.parseRule (";".intercalate (parts.filter fun part => (untilPart part).isNone)) with
  | none => .unread
  | some rule =>
    let rule := match untilAt with
      -- an UNTIL before the start leaves no occurrences but the start
      | some u => if u < start.instant then crates.count rule 1 else crates.withUntil rule u
      | none => rule
    match crates.build rule start.instant start.zone with
    | none => .refused
    | some series => .series series

def maxOccurrences : Nat := 2000

def expandRrule (start : When crates.Zone) (rrule : String) (extra skip : List DateTime)
    (fromTime windowEnd : DateTime) : List DateTime :=
  let inWindow := fun t : DateTime => decide (fromTime < t ∧ t ≤ windowEnd)
  match readRule crates start rrule with
  | .unread => (start.instant :: extra).filter inWindow
  | .refused => [start.instant].filter inWindow
  | .series series => (crates.all series extra skip fromTime windowEnd maxOccurrences).filter inWindow

/-! ## Events -/

def isEvent (component : IcsComponent) : Bool := component.name = "VEVENT"

def isCancelled (component : IcsComponent) : Bool :=
  (crates.findProp component "STATUS").any fun prop => eqIgnoreAsciiCase prop.val "CANCELLED"

def uidOf (component : IcsComponent) : String := ((crates.findProp component "UID").map (·.val)).getD ""

def summaryOf (component : IcsComponent) : String :=
  ((crates.findProp component "SUMMARY").map (·.val)).getD "(no title)"

/-- The occurrences that events of their own replace, each with its UID. -/
def replacedOf (components : List IcsComponent) (house : crates.Zone) : List (String × DateTime) :=
  (components.filter isEvent).filterMap fun component => do
    let uid ← crates.findProp component "UID"
    let replaced ← propWhen crates component "RECURRENCE-ID" house
    some (uid.val, replaced.instant)

/-- The values of the properties of that name. -/
def datesOf (component : IcsComponent) (name : String) (house : crates.Zone) : List DateTime :=
  (component.properties.filter fun prop => eqIgnoreAsciiCase prop.name name).flatMap fun prop =>
    (whensOf crates prop house).map (·.instant)

/-- How long each occurrence lasts: a length that is negative or missing is a day for a date
and nothing otherwise. -/
def durationOf (component : IcsComponent) (start : When crates.Zone) (house : crates.Zone) :
    Except DurationFault Int := do
  let given ← match propWhen crates component "DTEND" house with
    | some final => pure (some (final.instant - start.instant))
    | none => match crates.findProp component "DURATION" with
      | some prop => parseIcsDuration prop.val
      | none => pure none
  pure ((given.filter (0 ≤ ·)).getD (if start.dateOnly then 24 * hourLength else 0))

def checkedMoment (nanos : DateTime) : Except DurationFault DateTime :=
  if minMoment ≤ nanos ∧ nanos ≤ maxMoment then .ok nanos else .error .panicked

/-- The starts of a component's occurrences. -/
def startsOf (replaced : List (String × DateTime)) (component : IcsComponent)
    (start : When crates.Zone) (house : crates.Zone) (fromTime windowEnd : DateTime) : List DateTime :=
  match crates.findProp component "RRULE" with
  | some rrule =>
    let skip := datesOf crates component "EXDATE" house ++
      (replaced.filter (·.1 = uidOf crates component)).map (·.2)
    expandRrule crates start rrule.val (datesOf crates component "RDATE" house) skip fromTime windowEnd
  | none => if fromTime < start.instant ∧ start.instant ≤ windowEnd then [start.instant] else []

def componentEvents (replaced : List (String × DateTime)) (now windowEnd : DateTime)
    (house : crates.Zone) (component : IcsComponent) : Except DurationFault (List CalEvent) :=
  if !isEvent component || isCancelled crates component then .ok []
  else match propWhen crates component "DTSTART" house with
    | none => .ok []
    | some start => do
      let duration ← durationOf crates component start house
      let fromTime ← checkedMoment (now - duration)
      (startsOf crates replaced component start house fromTime windowEnd).mapM fun t => do
        let final ← checkedMoment (t + duration)
        pure ⟨uidOf crates component, summaryOf crates component, t, final, start.dateOnly⟩

/-- `parse_ics_at`; nothing is returned for a text that is no calendar. -/
def parseIcsAt (id content : String) (expansionDays : Nat) (now : DateTime) (house : crates.Zone) :
    Except DurationFault (Option CalendarEntry) :=
  match crates.readCalendar content with
  | none => .ok none
  | some components => do
    let windowEnd ← checkedMoment (now + expansionDays * (24 * hourLength))
    let events ← components.mapM
      (componentEvents crates (replacedOf crates components house) now windowEnd house)
    pure (some ⟨id, events.flatten.mergeSort fun a b => a.start ≤ b.start⟩)

end Dates
end HomeCore.Calendars
