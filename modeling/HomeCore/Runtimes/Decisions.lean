import HomeCore.Runtimes.Enrollment

/-! Requests about runtimes one after another, each worked to its end before the next one
comes, and what was decided last on each runtime. -/
namespace HomeCore

inductive RuntimeVerdict where
  | approved
  | denied
  deriving DecidableEq

namespace RuntimeSystem

variable (setup : RuntimeSetup)

/-- The steps of the longest request, an enrollment by a token. -/
def requestSteps : Nat := 6

/-- A task is taken up and worked on alone. -/
def workAlone (system : RuntimeSystem) (steps : Nat) (task : RuntimeTask) : RuntimeSystem :=
  (List.replicate steps (.work system.tasks.length)).foldl (step setup) (system.begin task)

/-- A request is worked to its end. Nothing is under way in between. -/
def serve (system : RuntimeSystem) : RuntimeInput → RuntimeSystem
  | .work _ => system
  | input =>
    (List.replicate requestSteps (.work system.tasks.length)).foldl (step setup) (system.step setup input)

/-- The answer to the request that comes next. -/
def reply (system : RuntimeSystem) (input : RuntimeInput) : Option RuntimeTask :=
  (system.serve setup input).tasks[system.tasks.length]?

/-- The decision that a request and the answer to it make: an admin's, or the approval of an
enrollment. -/
def verdict : RuntimeInput → Option RuntimeTask → Option (String × RuntimeVerdict)
  | .enrolls _ _ _, some (.done (.approved id _)) => some (id, .approved)
  | .approves id, some (.done .answered) => some (id, .approved)
  | .denies id, some (.done .answered) => some (id, .denied)
  | _, _ => none

end RuntimeSystem

/-- The runtimes with the last decision on each of them. -/
structure RuntimeOffice where
  system : RuntimeSystem
  decided : String → Option RuntimeVerdict

namespace RuntimeOffice

variable (setup : RuntimeSetup)

def step (office : RuntimeOffice) (input : RuntimeInput) : RuntimeOffice where
  system := office.system.serve setup input
  decided := match RuntimeSystem.verdict input (office.system.reply setup input) with
    | some (id, decision) => Function.update office.decided id (some decision)
    | none => office.decided

def opened (now : DateTime) : RuntimeOffice := ⟨.start now, fun _ => none⟩

/-- An enrollment of a known runtime, signed and under its own key. -/
def ownEnrollment (office : RuntimeOffice) (request : EnrollRequest) (record : RuntimeRecord) : Prop :=
  office.system.runtimes[request.runtimeId]? = some record ∧ record.publicKey = request.publicKey ∧
    setup.verifySignature request = true

/-- The runtime that was approved last is approved again, and the one that was denied last is
not refused for that once its cooldown is over. -/
def HeedsDecision (office : RuntimeOffice) : RuntimeInput → Prop
  | .enrolls ip request draws => ∀ record, ownEnrollment setup office request record →
    (office.decided request.runtimeId = some .approved →
      ∃ token, office.system.reply setup (.enrolls ip request draws) =
        some (.done (.approved request.runtimeId token))) ∧
    (office.decided request.runtimeId = some .denied → record.mayRetry office.system.now = true →
      office.system.reply setup (.enrolls ip request draws) ≠ some (.done (.refused tooManyDenials)))
  | _ => True

/-- Looking up the request's token cuts it within a character. -/
def tokenCrashes (request : EnrollRequest) : Bool :=
  request.token.any fun token => enrollmentLookup token.toList = .panicked

/-- The request gets as far as to be decided on: runtimes are enabled, the address may enroll and
has tried fewer times in the last minute than the limit, and the token does not crash it. -/
def isLookedAt (office : RuntimeOffice) (ip : RateLimit.IpAddr) (request : EnrollRequest) : Prop :=
  (RateLimit.counted office.system.buckets ip office.system.uptime).length < RateLimit.maxAttempts ∧
    setup.enabled = true ∧ (setup.whitelistOnly = true → setup.whitelisted ip = true) ∧
    tokenCrashes request = false

/-- An approved runtime's request is looked at, its denials were fewer than the limit, no cooldown
of theirs is left and its credentials can be handed out; the denials of a denied one whose request
is looked at were fewer than the limit. -/
def ForgetsDenials (office : RuntimeOffice) : RuntimeInput → Prop
  | .enrolls ip request _ => ∀ record, ownEnrollment setup office request record →
    (office.decided request.runtimeId = some .approved →
      isLookedAt setup office ip request ∧ record.mayRetry office.system.now = true ∧
        record.denialCount < setup.maxDenials ∧ setup.installs = true) ∧
    (office.decided request.runtimeId = some .denied → record.mayRetry office.system.now = true →
      isLookedAt setup office ip request → record.denialCount < setup.maxDenials)
  | _ => True

end RuntimeOffice
end HomeCore
