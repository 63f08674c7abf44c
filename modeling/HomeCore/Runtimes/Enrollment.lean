import HomeCore.Accounts.Credentials
import HomeCore.Accounts.RateLimit

/-! Plugin runtimes and the requests about them side by side: enrollments, with or without a
token, polls, listings of placements, and an admin's decisions. Each access of the database
is a step of its own, and a record is written back whole. -/
namespace HomeCore

def runtimeMinute : Int := 60 * second

inductive RuntimeStatus where
  | pending
  | approved
  | denied
  deriving DecidableEq

structure RuntimeRecord where
  runtimeId : String
  publicKey : String
  kind : String
  status : RuntimeStatus
  code : Option String
  secretHash : Option String
  apiKeyHash : Option String
  pluginId : Option String
  denialCount : Nat
  cooldownUntil : Option DateTime
  expiresAt : Option DateTime
  lastSeenAt : Option DateTime
  deriving DecidableEq

namespace RuntimeRecord

def isPendingOpen (record : RuntimeRecord) (now : DateTime) : Bool :=
  record.status = .pending && record.expiresAt.all (now < ·)

def mayRetry (record : RuntimeRecord) (now : DateTime) : Bool := record.cooldownUntil.all (· ≤ now)

end RuntimeRecord

/-- An enrollment token that an admin issued, to be used once. -/
structure EnrollTokenRecord where
  /-- The source's `prefix`. -/
  lookupPrefix : String
  hash : String
  createdAt : DateTime
  expiresAt : DateTime
  usedAt : Option DateTime
  usedBy : Option String
  deriving DecidableEq

def EnrollTokenRecord.isUsable (token : EnrollTokenRecord) (now : DateTime) : Bool :=
  token.usedAt.isNone && now < token.expiresAt

def tokenTtlHours : Int := 24

structure EnrollRequest where
  runtimeId : String
  publicKey : String
  signature : String
  kind : String
  token : Option String
  deriving DecidableEq

/-- The configuration, and other packages' part: the addresses that the networks of the
whitelist contain, the check of a secret against its hash, the check of a request's signature,
and the lower case of a text. -/
structure RuntimeSetup where
  enabled : Bool
  whitelistOnly : Bool
  tokenOnly : Bool
  maxPending : Nat
  maxDenials : Nat
  pendingTtlMins : Nat
  denialCooldownMins : Nat
  /-- Whether the server can install plugins at all. -/
  installs : Bool
  whitelisted : RateLimit.IpAddr → Bool
  verifyToken : String → String → Bool
  verifySignature : EnrollRequest → Bool
  lowercase : List Char → List Char

/-! ## The decision -/

inductive EnrollDecision where
  | approve
  | pending
  | reject (reason : String)
  deriving DecidableEq

structure EnrollContext where
  now : DateTime
  tokenValid : Bool
  existing : Option RuntimeRecord
  pendingCount : Nat

def tooManyDenials : String := "this runtime has been denied too many times; try again later"

def decideNew (setup : RuntimeSetup) (context : EnrollContext) : EnrollDecision :=
  if setup.tokenOnly then
    if context.tokenValid then .approve
    else .reject "this homeCore requires an enrollment token; set HOMECORE_ENROLL_TOKEN"
  else if context.tokenValid then .approve
  else if setup.maxPending ≤ context.pendingCount then
    .reject "too many runtimes are already waiting for approval"
  else .pending

/-- `decide`: what happens to a request that is what it claims to be. -/
def enrollDecision (setup : RuntimeSetup) (context : EnrollContext) : EnrollDecision :=
  match context.existing with
  | none => decideNew setup context
  | some existing =>
    if !existing.mayRetry context.now then .reject tooManyDenials
    else if setup.maxDenials ≤ existing.denialCount then .reject tooManyDenials
    else if existing.status = .approved then .approve
    else decideNew setup context

def isAsciiAlphanumeric (c : Char) : Bool := c.isDigit || c.isAlpha

/-- The plugin id that a runtime registers under once it is approved. -/
def pluginIdFor (setup : RuntimeSetup) (kind runtimeId : String) : Except String String :=
  let kind := setup.lowercase (trim kind.toList)
  let short := (runtimeId.toList.filter isAsciiAlphanumeric).take 8
  if kind.isEmpty || !kind.all (fun c => isAsciiAlphanumeric c || c = '-') then
    .error "runtime kind must be alphanumeric"
  else if short.isEmpty then .error "runtime_id has no usable characters"
  else .ok ("plugin." ++ String.ofList kind ++ "-" ++ String.ofList short)

/-- The plugin id that comes with a runtime's credentials. -/
def credentialsFor (setup : RuntimeSetup) (record : RuntimeRecord) : Except String String := do
  let pluginId ← match record.pluginId with
    | some known => pure known
    | none => pluginIdFor setup record.kind record.runtimeId
  if setup.installs then pure pluginId
  else .error "plugin install is not configured on this server"

/-! ## Requests -/

/-- What a request draws at random. -/
structure RuntimeDraws where
  apiKeyHash : String
  secretHash : String
  code : String
  deriving DecidableEq

/-- An enrollment, since it has read the record of its runtime. -/
structure Enrolling where
  request : EnrollRequest
  draws : RuntimeDraws
  now : DateTime
  existing : Option RuntimeRecord
  deriving DecidableEq

inductive RuntimeAnswer where
  | refused (message : String)
  | crashed
  | pending
  /-- With the token that approved it, if one did. -/
  | approved (runtimeId : String) (byToken : Option String)
  | answered
  deriving DecidableEq

inductive RuntimeTask where
  | enrollReads (request : EnrollRequest) (draws : RuntimeDraws)
  | tokenReads (enrolling : Enrolling) (token key : String)
  | redeemReads (enrolling : Enrolling) (key : String)
  | redeemWrites (enrolling : Enrolling) (read : EnrollTokenRecord)
  /-- With the token that was redeemed, if one was. -/
  | deciding (enrolling : Enrolling) (redeemed : Option String)
  | enrollWrites (record : RuntimeRecord) (answer : RuntimeAnswer)
  | pollReads (id presented : String) (draws : RuntimeDraws)
  | pollWrites (record : RuntimeRecord)
  | listingReads (id presented : String)
  | listingWrites (record : RuntimeRecord)
  | approveReads (id : String)
  | approveWrites (record : RuntimeRecord)
  | denyReads (id : String)
  | denyWrites (record : RuntimeRecord)
  | done (answer : RuntimeAnswer)
  deriving DecidableEq

structure RuntimeSystem where
  now : DateTime
  /-- The nanoseconds of a clock that never goes back. -/
  uptime : Nat
  /-- The attempts to enroll that count, by the address they came from. -/
  buckets : RateLimit.Buckets
  runtimes : Std.ExtTreeMap String RuntimeRecord
  tokens : Std.ExtTreeMap String EnrollTokenRecord
  tasks : List RuntimeTask
  /-- The tokens that were redeemed, each with the request that redeemed it. -/
  spent : List (String × Nat)
  /-- The runtimes that were denied and since then neither approved nor enrolled by a token. -/
  denied : List String
  /-- The enrollments under way whose runtime was denied since they read its record, and neither
  approved since nor enrolled by a token. -/
  overtaken : List Nat

inductive RuntimeInput where
  | tick (nanos : Nat)
  | issues (token : NewApiKey)
  | enrolls (ip : RateLimit.IpAddr) (request : EnrollRequest) (draws : RuntimeDraws)
  | polls (id presented : String) (draws : RuntimeDraws)
  | lists (id presented : String)
  | approves (id : String)
  | denies (id : String)
  | work (task : Nat)
  deriving DecidableEq

namespace RuntimeSystem

variable (setup : RuntimeSetup)

def newRecord (request : EnrollRequest) (now : DateTime) : RuntimeRecord where
  runtimeId := request.runtimeId
  publicKey := request.publicKey
  kind := request.kind
  status := .pending
  code := none
  secretHash := none
  apiKeyHash := none
  pluginId := none
  denialCount := 0
  cooldownUntil := none
  expiresAt := none
  lastSeenAt := some now

def Enrolling.record (enrolling : Enrolling) : RuntimeRecord :=
  enrolling.existing.getD (newRecord enrolling.request enrolling.now)

def pendingCount (system : RuntimeSystem) (now : DateTime) : Nat :=
  (system.runtimes.toList.map (·.2)).countP (·.isPendingOpen now)

/-- The record of its runtime is read; another key is another runtime. The token, if there
is one, is looked up next. -/
def enrollRead (system : RuntimeSystem) (request : EnrollRequest) (draws : RuntimeDraws) : RuntimeTask :=
  let existing := system.runtimes[request.runtimeId]?
  if existing.any (·.publicKey ≠ request.publicKey) then
    .done (.refused "this runtime_id is already registered to a different key")
  else
    let enrolling : Enrolling := ⟨request, draws, system.now, existing⟩
    match request.token with
    | none => .deciding enrolling none
    | some token => match enrollmentLookup token.toList with
      | .looksUp key => .tokenReads enrolling token key
      | .panicked => .done .crashed
      | _ => .deciding enrolling none

/-- What an enrollment comes to, with the record it writes if it writes one. -/
def enrollDecided (enrolling : Enrolling) (redeemed : Option String) (pendingCount : Nat) : RuntimeTask :=
  match enrollDecision setup ⟨enrolling.now, redeemed.isSome, enrolling.existing, pendingCount⟩ with
  | .reject reason => .done (.refused reason)
  | .approve =>
    match credentialsFor setup (Enrolling.record enrolling) with
    | .error message => .done (.refused message)
    | .ok pluginId =>
      .enrollWrites
        { Enrolling.record enrolling with
          status := .approved
          code := none
          expiresAt := none
          lastSeenAt := some enrolling.now
          pluginId := some pluginId
          apiKeyHash := some enrolling.draws.apiKeyHash }
        (.approved enrolling.request.runtimeId
          (if enrolling.existing.any (·.status = .approved) then none else redeemed))
  | .pending =>
    .enrollWrites
      { Enrolling.record enrolling with
        status := .pending
        code := some enrolling.draws.code
        secretHash := some enrolling.draws.secretHash
        expiresAt := some (enrolling.now + (max setup.pendingTtlMins 1 : Nat) * runtimeMinute)
        lastSeenAt := some enrolling.now }
      .pending

/-- A status poll. Only an approved runtime's record is written back. -/
def pollRead (system : RuntimeSystem) (id presented : String) (draws : RuntimeDraws) : RuntimeTask :=
  match system.runtimes[id]? with
  | none => .done (.refused "unknown runtime")
  | some record =>
    if !record.secretHash.any (setup.verifyToken presented) then .done (.refused "unknown runtime")
    else match record.status with
      | .approved => match credentialsFor setup record with
        | .error message => .done (.refused message)
        | .ok _ => .pollWrites { record with
            apiKeyHash := some draws.apiKeyHash
            lastSeenAt := some system.now }
      | .denied => .done .answered
      | .pending =>
        if !record.isPendingOpen system.now then .done (.refused "this enrollment expired; enroll again")
        else .done .answered

def listingRead (system : RuntimeSystem) (id presented : String) : RuntimeTask :=
  match system.runtimes[id]? with
  | none => .done (.refused "unknown runtime")
  | some record =>
    if record.status = .approved && record.apiKeyHash.any (setup.verifyToken presented) then
      .listingWrites record
    else .done (.refused "unknown runtime")

def approveRead (system : RuntimeSystem) (id : String) : RuntimeTask :=
  match system.runtimes[id]? with
  | none => .done (.refused "unknown runtime")
  | some record =>
    if record.status = .pending && !record.isPendingOpen system.now then
      .done (.refused "this enrollment expired; ask it to retry")
    else match pluginIdFor setup record.kind record.runtimeId with
      | .error message => .done (.refused message)
      | .ok pluginId => .approveWrites { record with
          status := .approved
          code := none
          expiresAt := none
          pluginId := some pluginId }

/-- The largest count that fits a 32-bit number. -/
def maxCount : Nat := 2 ^ 32 - 1

def deniedRecord (now : DateTime) (record : RuntimeRecord) : RuntimeRecord :=
  let count := min (record.denialCount + 1) maxCount
  { record with
    status := .denied
    code := none
    secretHash := none
    expiresAt := none
    denialCount := count
    cooldownUntil := if setup.maxDenials ≤ count then
        some (now + (max setup.denialCooldownMins 1 : Nat) * runtimeMinute)
      else record.cooldownUntil }

def denyRead (system : RuntimeSystem) (id : String) : RuntimeTask :=
  match system.runtimes[id]? with
  | none => .done (.refused "unknown runtime")
  | some record => .denyWrites (deniedRecord setup system.now record)

/-- The token as it is looked up first, for its hash. -/
def tokenRead (system : RuntimeSystem) (enrolling : Enrolling) (token key : String) : RuntimeTask :=
  match system.tokens[key]? with
  | none => .deciding enrolling none
  | some record =>
    if setup.verifyToken token record.hash then .redeemReads enrolling key else .deciding enrolling none

/-- The read of `redeem_token`. -/
def redeemRead (system : RuntimeSystem) (enrolling : Enrolling) (key : String) : RuntimeTask :=
  match system.tokens[key]? with
  | none => .deciding enrolling none
  | some record =>
    if record.isUsable enrolling.now then .redeemWrites enrolling record else .deciding enrolling none

/-- The runtime of an enrollment that has read its record. -/
def enrollsFor : RuntimeTask → Option String
  | .tokenReads enrolling _ _ => some enrolling.request.runtimeId
  | .redeemReads enrolling _ => some enrolling.request.runtimeId
  | .redeemWrites enrolling _ => some enrolling.request.runtimeId
  | .deciding enrolling _ => some enrolling.request.runtimeId
  | .enrollWrites record _ => some record.runtimeId
  | _ => none

def enrollmentsOf (system : RuntimeSystem) (id : String) : List Nat :=
  (List.range system.tasks.length).filter fun index => system.tasks[index]?.bind enrollsFor = some id

/-- The runtime is let in again: no denial stands against it, or overtakes its enrollments. -/
def pardon (system : RuntimeSystem) (id : String) : RuntimeSystem :=
  { system with
    denied := system.denied.filter (· ≠ id)
    overtaken := system.overtaken.filter (· ∉ system.enrollmentsOf id) }

def goes (system : RuntimeSystem) (index : Nat) (task : RuntimeTask) : RuntimeSystem :=
  { system with tasks := system.tasks.set index task }

def upsert (system : RuntimeSystem) (record : RuntimeRecord) : RuntimeSystem :=
  { system with runtimes := system.runtimes.insert record.runtimeId record }

def advance (system : RuntimeSystem) (index : Nat) : RuntimeTask → RuntimeSystem
  | .enrollReads request draws => system.goes index (system.enrollRead request draws)
  | .tokenReads enrolling token key => system.goes index (system.tokenRead setup enrolling token key)
  | .redeemReads enrolling key => system.goes index (system.redeemRead enrolling key)
  | .redeemWrites enrolling read =>
    { (system.pardon enrolling.request.runtimeId).goes index
        (.deciding enrolling (some read.lookupPrefix)) with
      tokens := system.tokens.insert read.lookupPrefix
        { read with usedAt := some enrolling.now, usedBy := some enrolling.request.runtimeId }
      spent := (read.lookupPrefix, index) :: system.spent }
  | .deciding enrolling redeemed =>
    system.goes index (enrollDecided setup enrolling redeemed (system.pendingCount enrolling.now))
  | .enrollWrites record answer => (system.upsert record).goes index (.done answer)
  | .pollReads id presented draws => system.goes index (system.pollRead setup id presented draws)
  | .pollWrites record => (system.upsert record).goes index (.done .answered)
  | .listingReads id presented => system.goes index (system.listingRead setup id presented)
  | .listingWrites record =>
    (system.upsert { record with lastSeenAt := some system.now }).goes index (.done .answered)
  | .approveReads id => system.goes index (system.approveRead setup id)
  | .approveWrites record =>
    ((system.pardon record.runtimeId).upsert record).goes index (.done .answered)
  | .denyReads id => system.goes index (system.denyRead setup id)
  | .denyWrites record =>
    { (system.upsert record).goes index (.done .answered) with
      denied := record.runtimeId :: system.denied
      overtaken := system.enrollmentsOf record.runtimeId ++ system.overtaken }
  | .done answer => system.goes index (.done answer)

def begin (system : RuntimeSystem) (task : RuntimeTask) : RuntimeSystem :=
  { system with tasks := system.tasks ++ [task] }

def issueToken (system : RuntimeSystem) (token : NewApiKey) : RuntimeSystem :=
  { system with
    tokens := system.tokens.insert token.lookupPrefix
      ⟨token.lookupPrefix, token.hash, system.now, system.now + tokenTtlHours * hour, none, none⟩ }

/-- The attempt to enroll is recorded, also where it is refused. -/
def attempt (system : RuntimeSystem) (ip : RateLimit.IpAddr) : RuntimeSystem :=
  { system with buckets := (RateLimit.recordIn system.buckets ip system.uptime).1 }

/-- What keeps a request from being looked at, in the order in which it is asked. -/
def gate (system : RuntimeSystem) (ip : RateLimit.IpAddr) (request : EnrollRequest) : Option String :=
  match (RateLimit.recordIn system.buckets ip system.uptime).2 with
  | .error _ => some "too many enrollment attempts"
  | .ok () =>
    if !setup.enabled then some "plugin runtimes are disabled"
    else if setup.whitelistOnly && !setup.whitelisted ip then
      some "enrollment is restricted to the local network"
    else if !setup.verifySignature request then some "invalid signature"
    else none

/-- The requests of a runtime about itself. -/
def ifEnabled (task : RuntimeTask) : RuntimeTask :=
  if setup.enabled then task else .done (.refused "plugin runtimes are disabled")

def step (system : RuntimeSystem) : RuntimeInput → RuntimeSystem
  | .tick nanos => { system with now := system.now + nanos, uptime := system.uptime + nanos }
  | .issues token => system.issueToken token
  | .enrolls ip request draws =>
    (system.attempt ip).begin (match system.gate setup ip request with
      | some message => .done (.refused message)
      | none => .enrollReads request draws)
  | .polls id presented draws => system.begin (ifEnabled setup (.pollReads id presented draws))
  | .lists id presented => system.begin (ifEnabled setup (.listingReads id presented))
  | .approves id => system.begin (.approveReads id)
  | .denies id => system.begin (.denyReads id)
  | .work index => match system.tasks[index]? with
    | none => system
    | some task => system.advance setup index task

def start (now : DateTime) : RuntimeSystem where
  now := now
  uptime := 0
  buckets := RateLimit.fresh
  runtimes := ∅
  tokens := ∅
  tasks := []
  spent := []
  denied := []
  overtaken := []

/-- A random prefix is no stored token's. -/
def freshToken (system : RuntimeSystem) : RuntimeInput → Bool
  | .issues token => system.tokens[token.lookupPrefix]?.isNone
  | _ => true

/-! ## What tokens are for -/

/-- The token that an enrollment redeemed, while it is under way and once it is approved. -/
def holdsToken : RuntimeTask → Option String
  | .deciding _ redeemed => redeemed
  | .enrollWrites _ (.approved _ byToken) => byToken
  | .done (.approved _ byToken) => byToken
  | _ => none

structure TokensSingleUse (system : RuntimeSystem) : Prop where
  oneRuntime : ∀ (i j : Nat) runtime other token,
    system.tasks[i]? = some (.done (.approved runtime (some token))) →
    system.tasks[j]? = some (.done (.approved other (some token))) → runtime = other
  /-- A request that redeemed a token is under way with it, or approved by it. -/
  spentByApproved : ∀ token index, (token, index) ∈ system.spent →
    ∃ task, system.tasks[index]? = some task ∧ holdsToken task = some token

/-- The token will be what approves this enrollment: no denial stands against its runtime,
which is not approved already, and credentials can be made out. -/
def tokenApproves (enrolling : Enrolling) : Bool :=
  enrolling.existing.all (fun existing => existing.mayRetry enrolling.now &&
      existing.denialCount < setup.maxDenials && existing.status ≠ .approved) &&
    (credentialsFor setup (Enrolling.record enrolling)).isOk

/-- A token that is about to be marked as used is still unused, and will be what approves
the request. -/
def redeemsRightly (system : RuntimeSystem) : RuntimeInput → Bool
  | .work index => match system.tasks[index]? with
    | some (.redeemWrites enrolling read) =>
      system.tokens[read.lookupPrefix]?.all (·.usedAt.isNone) && tokenApproves setup enrolling
    | _ => true
  | _ => true

/-! ## What denials are for -/

def DeniedNotApproved (system : RuntimeSystem) : Prop :=
  ∀ id ∈ system.denied, ∀ record, system.runtimes[id]? = some record → record.status ≠ .approved

/-- A record that is about to be written back as approved was not denied since it was read:
a poll and a listing find it approved still, and no denial of an enrollment's runtime was
written since the request read the record, or since it redeemed its token. -/
def denialStands (system : RuntimeSystem) : RuntimeInput → Bool
  | .work index => match system.tasks[index]? with
    | some (.pollWrites record) => system.runtimes[record.runtimeId]?.any (·.status = .approved)
    | some (.listingWrites record) => system.runtimes[record.runtimeId]?.any (·.status = .approved)
    | some (.enrollWrites record _) => record.status ≠ .approved || !system.overtaken.contains index
    | _ => true
  | _ => true

end RuntimeSystem
end HomeCore
