import HomeCore.Types.Json

/-! The topic map: native MQTT topics become HomeCore device ids by the patterns of the
ecosystem profiles, and commands for those ids become native topics again. What becomes of
the payloads is a parameter of each entry, and so is the order in which a hash map lists what
it holds. -/
namespace HomeCore.TopicMap

abbrev Text := List Char

/-! ## Patterns -/

inductive Segment where
  | literal (text : Text)
  | capture (name : String)
  /-- The source's `prefix` and `suffix` around the captured part. -/
  | partialCapture (before : Text) (name : String) (after : Text)
  deriving DecidableEq

def openingBrace : Char := '\x7b'

def closingBrace : Char := '\x7d'

def parseSegment (segment : Text) : Segment :=
  match segment.idxOf? openingBrace, segment.idxOf? closingBrace with
  | some first, some last =>
    if first < last then
      let before := segment.take first
      let name := String.ofList ((segment.take last).drop (first + 1))
      let after := segment.drop (last + 1)
      if before.isEmpty && after.isEmpty then .capture name else .partialCapture before name after
    else .literal segment
  | _, _ => .literal segment

def parsePattern (pattern : Text) : List Segment := (pattern.splitOn '/').map parseSegment

/-- What a pattern captured, by name. -/
abbrev Vars := Std.ExtTreeMap String Text

inductive TopicMatch where
  | matched (vars : Vars)
  | unmatched
  /-- What comes before and after the captured part overlaps in the topic. -/
  | panicked

def matchParts (vars : Vars) : List Segment → List Text → TopicMatch
  | .literal text :: segments, part :: parts =>
    if text = part then matchParts vars segments parts else .unmatched
  | .capture name :: segments, part :: parts => matchParts (vars.insert name part) segments parts
  | .partialCapture before name after :: segments, part :: parts =>
    if before.isPrefixOf part && after.isSuffixOf part then
      if before.length + after.length ≤ part.length then
        let value := (part.take (part.length - after.length)).drop before.length
        matchParts (vars.insert name value) segments parts
      else .panicked
    else .unmatched
  | _, _ => .matched vars

def matchSegments (segments : List Segment) (topic : Text) : TopicMatch :=
  let parts := topic.splitOn '/'
  if parts.length ≠ segments.length then .unmatched else matchParts ∅ segments parts

/-! ## Templates and ids -/

/-- The order in which a hash map lists its entries. -/
structure HashOrder where
  order : List (String × Text) → List (String × Text)
  perm : ∀ entries, (order entries).Perm entries

/-- `str::replace`, with the number of characters still to be passed over. -/
def replaceFrom (pattern replacement : Text) : Nat → Text → Text
  | _, [] => []
  | skipped + 1, _ :: rest => replaceFrom pattern replacement skipped rest
  | 0, c :: rest =>
    if pattern.isPrefixOf (c :: rest) then
      replacement ++ replaceFrom pattern replacement (pattern.length - 1) rest
    else c :: replaceFrom pattern replacement 0 rest

def placeholder (name : String) : Text := openingBrace :: name.toList ++ [closingBrace]

def renderTemplate (hash : HashOrder) (template : Text) (vars : Vars) : Text :=
  (hash.order vars.toList).foldl (fun text entry => replaceFrom (placeholder entry.1) entry.2 0 text)
    template

def sanitizeId (text : Text) : Text :=
  text.map fun c => if c = ':' || c = ' ' || c = '/' then '_' else c

def identityValue (hash : HashOrder) (vars : Vars) : Option Text :=
  (vars["device"]?.or vars["nodeId"]?).or ((hash.order vars.toList).head?.map Prod.snd)

/-! ## Profiles -/

structure StateTopicConfig where
  pattern : Text
  /-- A template for the id in place of the profile's own way. -/
  deviceId : Option Text
  /-- The attributes, and whether they are only some of the device's. -/
  translate : HashOrder → Vars → List UInt8 → Except String (Json × Bool)

structure AvailabilityTopicConfig where
  pattern : Text
  readAvailable : List UInt8 → Bool

structure CmdTopicConfig where
  source : Text
  target : Option Text
  translate : List UInt8 → Except String (List UInt8)

structure EcosystemProfile where
  /-- The source's `prefix`. -/
  idPrefix : Text
  stateTopics : List StateTopicConfig
  availabilityTopics : List AvailabilityTopicConfig
  cmdTopics : List CmdTopicConfig

def stateEntries (profiles : List EcosystemProfile) : List (Text × StateTopicConfig) :=
  profiles.flatMap fun profile => profile.stateTopics.map (profile.idPrefix, ·)

def availabilityEntries (profiles : List EcosystemProfile) : List (Text × AvailabilityTopicConfig) :=
  profiles.flatMap fun profile => profile.availabilityTopics.map (profile.idPrefix, ·)

def cmdEntries (profiles : List EcosystemProfile) : List CmdTopicConfig :=
  profiles.flatMap (·.cmdTopics)

/-! ## Inbound -/

inductive RouteFailure where
  | panicked
  | error (message : String)
  deriving DecidableEq

inductive InboundUpdate where
  | state (payload : Json) (isPartial : Bool)
  | availability (available : Bool)

/-- What an id was made of. -/
inductive Identity where
  | byPrefix (idPrefix value : Text)
  | byTemplate (template : Text)
  deriving DecidableEq

/-- Besides what the source returns, what was captured and what the id was made of. -/
structure Inbound where
  deviceId : Text
  update : InboundUpdate
  vars : Vars
  identity : Identity

def unknownDevice : Text := "unknown".toList

def stateIdentity (hash : HashOrder) (idPrefix : Text) (config : StateTopicConfig) (vars : Vars) : Identity :=
  match config.deviceId with
  | some template => .byTemplate template
  | none => .byPrefix idPrefix ((identityValue hash vars).getD unknownDevice)

/-- `resolve_device_id`. -/
def Identity.resolveDeviceId (hash : HashOrder) (vars : Vars) : Identity → Text
  | byPrefix idPrefix value => idPrefix ++ sanitizeId value
  | byTemplate template => sanitizeId (renderTemplate hash template vars)

def Inbound.of (hash : HashOrder) (vars : Vars) (identity : Identity) (update : InboundUpdate) : Inbound :=
  ⟨identity.resolveDeviceId hash vars, update, vars, identity⟩

def applyState (hash : HashOrder) (idPrefix : Text) (config : StateTopicConfig) (vars : Vars)
    (payload : List UInt8) : Except RouteFailure Inbound :=
  match config.translate hash vars payload with
  | .error message => .error (.error message)
  | .ok translated => .ok (Inbound.of hash vars (stateIdentity hash idPrefix config vars)
      (.state translated.1 translated.2))

section Routing
variable (hash : HashOrder) (topic : Text) (payload : List UInt8)

def routeState : List (Text × StateTopicConfig) → Except RouteFailure (Option Inbound)
  | [] => .ok none
  | entry :: rest => match matchSegments (parsePattern entry.2.pattern) topic with
    | .matched vars => (applyState hash entry.1 entry.2 vars payload).map some
    | .unmatched => routeState rest
    | .panicked => .error .panicked

/-- An entry that captures nothing is passed over. -/
def routeAvailability : List (Text × AvailabilityTopicConfig) → Except RouteFailure (Option Inbound)
  | [] => .ok none
  | entry :: rest => match matchSegments (parsePattern entry.2.pattern) topic with
    | .matched vars => match identityValue hash vars with
      | some value => .ok (some (Inbound.of hash vars (.byPrefix entry.1 value)
          (.availability (entry.2.readAvailable payload))))
      | none => routeAvailability rest
    | .unmatched => routeAvailability rest
    | .panicked => .error .panicked

def routeInbound (profiles : List EcosystemProfile) : Except RouteFailure (Option Inbound) :=
  match routeState hash topic payload (stateEntries profiles) with
  | .ok none => routeAvailability hash topic payload (availabilityEntries profiles)
  | routed => routed

/-! ## Outbound -/

structure OutboundResult where
  targetTopic : Text
  payload : List UInt8
  deriving DecidableEq

def applyCmd (config : CmdTopicConfig) (vars : Vars) (command : List UInt8) :
    Except RouteFailure (List OutboundResult) :=
  match config.target with
  | none => .error (.error "cmd_topics entry has no target")
  | some template => match config.translate command with
    | .error message => .error (.error message)
    | .ok translated => .ok [⟨renderTemplate hash template vars, translated⟩]

def routeCmd (command : List UInt8) :
    List CmdTopicConfig → Except RouteFailure (Option (List OutboundResult))
  | [] => .ok none
  | config :: rest => match matchSegments (parsePattern config.source) topic with
    | .matched vars => (applyCmd hash config vars command).map some
    | .unmatched => routeCmd command rest
    | .panicked => .error .panicked

def routeOutbound (profiles : List EcosystemProfile) (command : List UInt8) :
    Except RouteFailure (Option (List OutboundResult)) :=
  routeCmd hash topic command (cmdEntries profiles)

end Routing

/-- `homecore/devices/<id>/cmd`, on which a device's commands are published. -/
def commandTopic (deviceId : Text) : Text :=
  List.intercalate ['/'] ["homecore".toList, "devices".toList, deviceId, "cmd".toList]

/-! ## The way back -/

def Segment.name? : Segment → Option String
  | literal _ => none
  | capture name => some name
  | partialCapture _ name _ => some name

def Segment.fill (vars : Vars) : Segment → Option Text
  | literal text => some text
  | capture name => vars[name]?
  | partialCapture before name after => vars[name]?.map fun value => before ++ value ++ after

/-- The topic that a pattern is for given values. -/
def fillPattern (segments : List Segment) (vars : Vars) : Option Text :=
  (segments.mapM (Segment.fill vars)).map (List.intercalate ['/'])

/-- The values of the pattern's own names. -/
def restrictTo (segments : List Segment) (vars : Vars) : Vars :=
  vars.filter fun name _ => segments.any (·.name? = some name)

/-- The first command entry that the topic is not refused by. -/
def firstCommand (profiles : List EcosystemProfile) (topic : Text) : Option CmdTopicConfig :=
  (cmdEntries profiles).find? fun config =>
    match matchSegments (parsePattern config.source) topic with
    | .unmatched => false
    | _ => true

/-- A text that the sanitizer leaves as it is. -/
def isPlain (text : Text) : Bool := text.all fun c => c ≠ ':' && c ≠ ' ' && c ≠ '/'

/-- A command pattern for the ids of one prefix. -/
def ownSource (idPrefix : Text) (name : String) : List Segment :=
  [.literal "homecore".toList, .literal "devices".toList, .partialCapture idPrefix name [],
    .literal "cmd".toList]

end HomeCore.TopicMap
