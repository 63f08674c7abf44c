import HomeCore.Accounts.ApiKeyRequests
import HomeCore.Accounts.Sessions
import HomeCore.Streaming.EventStream

/-! One event stream beside the accounts, sessions and keys of the house: the check of a token
before the upgrade, and what may become of the authority it gave while the stream is open. -/
namespace HomeCore.EventStream
variable {Schema Room Scene Rest : Type}

structure StreamEnv (Schema : Type) where
  auth : AuthSetup
  checks : KeyChecks
  whitelist : List String
  /-- The claims of a token that the house has signed. -/
  decode : String → Option Claims
  fillPrimary : Option String → Schema → Schema

structure StreamSystem (Schema Room Scene Rest : Type) where
  sessions : SessionSystem
  keys : KeySystem
  house : House Schema Room Scene
  /-- The stream that is followed, if one was opened. -/
  socket : Option (Connection Schema × State Schema Room Scene)
  /-- What the bus holds for it, and of each event whether the stream's authority had been
  withdrawn when it was published. -/
  pending : List (Published Rest × Bool)
  withdrawn : Bool
  /-- An event was published after that. -/
  publishedLate : Bool
  /-- The frames that tell of such an event. -/
  sentLate : List (Frame Schema Room Scene Rest)

inductive StreamInput (Schema Room Scene Rest : Type) where
  | sessions (input : SessionInput)
  | updateUser (user : User)
  | deleteUser (id : Uuid)
  | keys (input : KeyInput)
  | house (house : House Schema Room Scene)
  | connect (token ip : String) (query : EventStreamQuery)
  | publish (published : Published Rest)
  /-- The socket takes the next event off the bus. -/
  | receive
  /-- It finds that the bus has let go of as many. -/
  | overrun (missed : Nat)
  | tick
  | pong
  | ends

def whitelistClaims : Claims where
  exp := none
  role := .admin
  scopes := Role.admin.scopes
  actor := .localAdmin none
  tv := 0
  sid := none

namespace StreamSystem

/-! ## Before the upgrade -/

def validateQueryToken (env : StreamEnv Schema) (s : StreamSystem Schema Room Scene Rest)
    (token ip : String) : Except String Claims :=
  if token = "" then .error "missing token query parameter"
  else if apiKeyPrefix.toList.isPrefixOf token.toList then
    (verifyApiKey env.checks s.keys.store s.keys.now token (some ip)).map (·.claims)
  else match (env.decode token).filter (·.validate s.sessions.now) with
    | none => .error "invalid or expired token"
    | some claims =>
      if s.sessions.tokenVersionCurrent claims then .ok claims
      else .error "token has been invalidated — sign in again"

/-- A token wins over the whitelist. -/
def authenticateWs (env : StreamEnv Schema) (s : StreamSystem Schema Room Scene Rest)
    (token ip : String) : Except String Claims :=
  if token = "" && env.whitelist.any (env.checks.contains · ip) then .ok whitelistClaims
  else s.validateQueryToken env token ip

def wsEventsHandler (env : StreamEnv Schema) (s : StreamSystem Schema Room Scene Rest)
    (token ip : String) (query : EventStreamQuery) : Except String (Connection Schema) :=
  match s.authenticateWs env token ip with
  | .error refusal => .error refusal
  | .ok claims =>
    if s.sessions.tokenVersionCurrent claims then .ok ⟨claims, query, env.fillPrimary⟩
    else .error "token has been invalidated — sign in again"

/-! ## While it is open -/

/-- The session was ended, the account's tokens were made void, or the key was revoked. -/
def withdraws (s : StreamSystem Schema Room Scene Rest) (claims : Claims) : Bool :=
  match claims.actor with
  | .user uid _ => claims.sid.any s.sessions.sessionEnded ||
      (s.sessions.users.getUserById uid).any (claims.tv < ·.tokenVersion)
  | .apiKey id _ _ => (s.keys.store.getById id).any (·.isRevoked)
  | .localAdmin _ => false

/-- That the authority was withdrawn once is kept in mind. -/
def noteWithdrawal (s : StreamSystem Schema Room Scene Rest) : StreamSystem Schema Room Scene Rest :=
  { s with withdrawn := s.withdrawn || s.socket.any fun (c, _) => s.withdraws c.claims }

def isOpen (s : StreamSystem Schema Room Scene Rest) : Bool := s.socket.any (·.2.streaming)

/-- An input of the socket's own loop. -/
def feed (s : StreamSystem Schema Room Scene Rest) (input : Input Schema Room Scene Rest) :
    StreamSystem Schema Room Scene Rest :=
  { s with socket := s.socket.map fun (c, state) => (c, state.step input) }

def sends (s : StreamSystem Schema Room Scene Rest) (input : Input Schema Room Scene Rest) :
    List (Frame Schema Room Scene Rest) :=
  s.socket.elim [] fun (c, state) => c.sends state input

def connect (env : StreamEnv Schema) (s : StreamSystem Schema Room Scene Rest) (token ip : String)
    (query : EventStreamQuery) : StreamSystem Schema Room Scene Rest :=
  match s.wsEventsHandler env token ip query with
  | .error _ => s
  | .ok c => { s with
      keys := match verifyApiKey env.checks s.keys.store s.keys.now token (some ip) with
        | .error _ => s.keys
        | .ok record => s.keys.begin (.touching record.id)
      socket := some (c, c.begin s.sessions.now s.house)
      pending := []
      withdrawn := false
      publishedLate := false }

def receive (s : StreamSystem Schema Room Scene Rest) : StreamSystem Schema Room Scene Rest :=
  match s.pending with
  | [] => s
  | (published, late) :: rest => { s.feed (.event published) with
      pending := rest
      sentLate := if late then s.sentLate ++ s.sends (.event published) else s.sentLate }

/-- Whether the frame for a stream that fell behind tells of an event published late: by how many
it missed, or by the house as it stands since. -/
def tellsLate (s : StreamSystem Schema Room Scene Rest) (lost : List (Published Rest × Bool)) :
    Frame Schema Room Scene Rest → Bool
  | .snapshot _ _ => s.publishedLate
  | _ => lost.any (·.2)

def overrun (s : StreamSystem Schema Room Scene Rest) (missed : Nat) :
    StreamSystem Schema Room Scene Rest :=
  let lost := s.pending.take missed
  let lagged := .lagged (lost.map (·.1)) s.sessions.now
  { s.feed lagged with
    pending := s.pending.drop missed
    sentLate := s.sentLate ++ (s.sends lagged).filter (s.tellsLate lost) }

/-- One clock for all. A server that starts again has no stream open. -/
def react (env : StreamEnv Schema) (s : StreamSystem Schema Room Scene Rest) :
    StreamInput Schema Room Scene Rest → StreamSystem Schema Room Scene Rest
  | .sessions input =>
    let sessions := s.sessions.step env.auth input
    { s with
      sessions := sessions
      keys := { s.keys with now := sessions.now }
      socket := if input = .restart then none else s.socket }
  | .updateUser user => { s with sessions.users := s.sessions.users.updateUser user }
  | .deleteUser id => { s with sessions.users := s.sessions.users.deleteUser id }
  | .keys input => { s with keys := { s.keys.step env.checks input with now := s.sessions.now } }
  | .house house => { s.feed (.house house) with house := house }
  | .connect token ip query => if s.isOpen then s else s.connect env token ip query
  | .publish published =>
    if s.isOpen then
      { s with
        pending := s.pending ++ [(published, s.withdrawn)]
        publishedLate := s.publishedLate || s.withdrawn }
    else s
  | .receive => s.receive
  | .overrun missed => s.overrun missed
  | .tick => s.feed .tick
  | .pong => s.feed .pong
  | .ends => s.feed .ends

def step (env : StreamEnv Schema) (s : StreamSystem Schema Room Scene Rest)
    (input : StreamInput Schema Room Scene Rest) : StreamSystem Schema Room Scene Rest :=
  (s.react env input).noteWithdrawal

def start (sessions : SessionSystem) (keys : KeySystem) (house : House Schema Room Scene) :
    StreamSystem Schema Room Scene Rest where
  sessions := sessions
  keys := keys
  house := house
  socket := none
  pending := []
  withdrawn := false
  publishedLate := false
  sentLate := []

/-- Nothing was sent of an event published after the authority was withdrawn. -/
def NothingLate (s : StreamSystem Schema Room Scene Rest) : Prop := s.sentLate = []

/-- The socket takes as many events off the bus. -/
def takes (env : StreamEnv Schema) (s : StreamSystem Schema Room Scene Rest) :
    Nat → StreamSystem Schema Room Scene Rest
  | 0 => s
  | events + 1 => (s.step env .receive).takes env events

/-- Nor will anything be of what the bus holds, however much of it the socket takes. -/
def NothingLateYet (env : StreamEnv Schema) (s : StreamSystem Schema Room Scene Rest) : Prop :=
  ∀ events, (s.takes env events).NothingLate

/-- While the stream is open after the withdrawal, no event is published that its filters let
through; and it falls behind by none that was published then, nor, where it is to be shown the house
again, at any time after one was. -/
def Unheard (s : StreamSystem Schema Room Scene Rest) : StreamInput Schema Room Scene Rest → Prop
  | .publish published => ∀ c state, s.socket = some (c, state) → state.streaming → s.withdrawn →
      ¬c.passes published.event
  | .overrun missed => ∀ c state, s.socket = some (c, state) → state.streaming →
      s.pending.take missed ≠ [] →
      if c.query.snapshot && (c.snapshot s.sessions.now state.house).isSome then s.publishedLate = false
      else (s.pending.take missed).any (·.2) = false
  | _ => True

end StreamSystem

/-! An open stream goes on sending after its authority was withdrawn. -/
variable {Schema Room Scene Rest : Type}

namespace StreamSystem
variable (env : StreamEnv Schema) {s : StreamSystem Schema Room Scene Rest}

theorem sends_event {c : Connection Schema} {state : State Schema Room Scene}
    (socket : s.socket = some (c, state)) (published : Published Rest) :
    s.sends (.event published) = [] ↔ (state.streaming → ¬c.passes published.event) := by
  simp only [sends, socket, Option.elim_some, Connection.sends]
  cases state.streaming with
  | false => simp only [Bool.false_and, Bool.false_eq_true, if_false, false_implies]
  | true =>
    simp only [Bool.true_and, true_implies]
    split
    next passed => exact iff_of_false (List.cons_ne_nil _ _) (not_not_intro passed)
    next skipped => exact iff_of_true rfl skipped

/-- Nothing was sent of what was published late, and of what the bus holds for the open stream its
filters let nothing through. -/
structure Clear (s : StreamSystem Schema Room Scene Rest) : Prop where
  sent : s.NothingLate
  pending : ∀ c state, s.socket = some (c, state) → state.streaming → ∀ published,
    (published, true) ∈ s.pending → ¬c.passes published.event

theorem Clear.note (clear : s.Clear) : s.noteWithdrawal.Clear := ⟨clear.sent, clear.pending⟩

theorem clear_note : s.noteWithdrawal.Clear ↔ s.Clear :=
  ⟨fun clear => ⟨clear.sent, clear.pending⟩, Clear.note⟩

theorem streaming_of_step {state : State Schema Room Scene} {input : Input Schema Room Scene Rest}
    (streaming : (state.step input).streaming) : state.streaming := by
  revert streaming
  cases input with
  | tick =>
    rw [State.step]
    split
    · rintro ⟨⟩
    · exact id
  | ends => rintro ⟨⟩
  | _ => exact id

/-- An input of the socket opens no stream. -/
theorem Clear.fed (clear : s.Clear) {t : StreamSystem Schema Room Scene Rest}
    (input : Input Schema Room Scene Rest) (socket : t.socket = (s.feed input).socket)
    (sent : t.sentLate = s.sentLate) (pending : ∀ entry ∈ t.pending, entry ∈ s.pending) : t.Clear where
  sent := sent.trans clear.sent
  pending := by
    intro c state found streaming published member
    rw [socket] at found
    obtain ⟨⟨other, before⟩, there, same⟩ := Option.map_eq_some_iff.mp found
    cases same
    exact clear.pending c before there (streaming_of_step streaming) published (pending _ member)

theorem Clear.receive (clear : s.Clear) : s.receive.Clear := by
  rw [StreamSystem.receive]
  split
  · exact clear
  next published late rest holds =>
    refine clear.fed (.event published) rfl ?_ fun entry member => holds ▸ List.mem_cons_of_mem _ member
    cases late with
    | false => rfl
    | true =>
      have unsent : s.sends (.event published) = [] := by
        cases socket : s.socket with
        | none => rw [sends, socket, Option.elim_none]
        | some stream =>
          refine (sends_event socket published).mpr fun streaming => ?_
          exact clear.pending stream.1 stream.2 socket streaming published (holds ▸ List.mem_cons_self)
      simp only [if_true, unsent, List.append_nil]

/-- What the bus holds and the filters let through is sent once the socket takes it. -/
theorem sent_of_pending {c : Connection Schema} {state : State Schema Room Scene}
    {published : Published Rest} (socket : s.socket = some (c, state)) (streaming : state.streaming)
    (passes : c.passes published.event) (member : (published, true) ∈ s.pending) :
    ¬s.NothingLateYet env := by
  generalize holds : s.pending = pending at member
  induction pending generalizing s with
  | nil => cases member
  | cons first rest ih =>
    intro never
    obtain ⟨event, late⟩ := first
    rcases List.mem_cons.mp member with own | later
    · cases own
      have nothing := never 1
      have unsent : s.sends (.event published) = [] := by
        simp only [takes, NothingLate, step, noteWithdrawal, react, StreamSystem.receive, holds, if_true,
          List.append_eq_nil_iff] at nothing
        exact nothing.2
      exact (sends_event socket published).mp unsent streaming passes
    · have next : (s.step env .receive).socket = some (c, state) := by
        simp only [step, noteWithdrawal, react, StreamSystem.receive, holds, StreamSystem.feed, socket,
          Option.map_some]
        rfl
      have kept : (s.step env .receive).pending = rest := by
        simp only [step, noteWithdrawal, react, StreamSystem.receive, holds]
      exact ih next kept later fun events => never (events + 1)

theorem nothingLateYet_iff : s.NothingLateYet env ↔ s.Clear := by
  constructor
  · intro never
    exact ⟨never 0, fun c state socket streaming published member passes =>
      sent_of_pending env socket streaming passes member never⟩
  · intro clear events
    have always : (s.takes env events).Clear := by
      induction events generalizing s with
      | zero => exact clear
      | succ events ih => exact ih clear.receive.note
    exact always.sent

theorem publish_clear (clear : s.Clear) (published : Published Rest) :
    (s.react env (.publish published)).Clear ↔ s.Unheard (.publish published) := by
  rw [react]
  cases socket : s.socket with
  | none =>
    have closed : s.isOpen = false := by rw [isOpen, socket, Option.any_none]
    rw [if_neg (by rw [closed]; exact Bool.false_ne_true)]
    refine iff_of_true clear fun c state found => ?_
    rw [socket] at found
    cases found
  | some stream =>
    obtain ⟨c, state⟩ := stream
    cases streaming : state.streaming with
    | false =>
      have closed : s.isOpen = false := by rw [isOpen, socket, Option.any_some, streaming]
      rw [if_neg (by rw [closed]; exact Bool.false_ne_true)]
      refine iff_of_true clear fun other others found streams => ?_
      rw [socket] at found
      cases found
      rw [streaming] at streams
      cases streams
    | true =>
      have isOpen : s.isOpen = true := by rw [isOpen, socket, Option.any_some, streaming]
      rw [if_pos isOpen]
      constructor
      · intro after other others found streams isLate
        refine after.pending other others (socket.symm.trans found) streams published ?_
        rw [← isLate]
        exact List.mem_append_right _ (List.mem_singleton_self _)
      · intro unheard
        refine ⟨clear.sent, fun other others found streams event member => ?_⟩
        rcases List.mem_append.mp member with before | new
        · exact clear.pending other others (socket.trans found) streams event before
        · obtain ⟨rfl, isLate⟩ := Prod.mk.inj (List.mem_singleton.mp new)
          exact unheard other others (socket.trans found) streams isLate.symm

theorem overrun_clear (clear : s.Clear) (missed : Nat) :
    (s.overrun missed).Clear ↔ s.Unheard (.overrun missed) := by
  have kept : (s.overrun missed).Clear ↔ (s.sends (.lagged ((s.pending.take missed).map (·.1))
      s.sessions.now)).filter (s.tellsLate (s.pending.take missed)) = [] := by
    constructor
    · intro after
      exact (List.append_eq_nil_iff.mp after.sent).2
    · intro silent
      refine clear.fed (.lagged ((s.pending.take missed).map (·.1)) s.sessions.now) rfl ?_
        fun entry => List.mem_of_mem_drop
      simp only [overrun, silent, List.append_nil]
  rw [kept]
  cases socket : s.socket with
  | none =>
    refine iff_of_true (by rw [sends, socket]; rfl) fun c state found => ?_
    rw [socket] at found
    cases found
  | some stream =>
    obtain ⟨c, state⟩ := stream
    have only : s.Unheard (.overrun missed) ↔ (state.streaming → s.pending.take missed ≠ [] →
        if c.query.snapshot && (c.snapshot s.sessions.now state.house).isSome then
          s.publishedLate = false
        else (s.pending.take missed).any (·.2) = false) := by
      constructor
      · exact fun unheard => unheard c state socket
      · intro unheard other others found
        rw [socket] at found
        cases found
        exact unheard
    rw [only, sends, socket, Option.elim_some]
    simp only [Connection.sends]
    cases streaming : state.streaming with
    | false => exact iff_of_true rfl (by rintro ⟨⟩)
    | true =>
      generalize s.pending.take missed = lost
      cases lost with
      | nil => exact iff_of_true rfl fun _ some => absurd rfl some
      | cons first rest =>
        simp only [List.map_cons, List.isEmpty_cons, Bool.not_false, Bool.and_true, if_true, forall_const,
          ne_eq, reduceCtorEq, not_false_eq_true, List.filter_eq_nil_iff, List.mem_singleton, forall_eq,
          Bool.not_eq_true]
        rw [Connection.behind]
        cases c.query.snapshot with
        | false => rfl
        | true =>
          cases c.snapshot s.sessions.now state.house <;> rfl

theorem clear_step (clear : s.Clear) (input : StreamInput Schema Room Scene Rest) :
    (s.step env input).Clear ↔ s.Unheard input := by
  rw [step, clear_note]
  cases input with
  | publish published => exact publish_clear env clear published
  | overrun missed => exact overrun_clear clear missed
  | receive => exact iff_of_true clear.receive trivial
  | connect token ip query =>
    refine iff_of_true ?_ trivial
    simp only [react, connect]
    split
    · exact clear
    · split
      · exact clear
      · exact ⟨clear.sent, fun _ _ _ _ _ member => by cases member⟩
  | sessions input =>
    refine iff_of_true ⟨clear.sent, fun c state found => ?_⟩ trivial
    simp only [react] at found
    split at found
    · cases found
    · exact clear.pending c state found
  | house house => exact iff_of_true (clear.fed (.house house) rfl rfl fun _ member => member) trivial
  | tick => exact iff_of_true (clear.fed .tick rfl rfl fun _ member => member) trivial
  | pong => exact iff_of_true (clear.fed .pong rfl rfl fun _ member => member) trivial
  | ends => exact iff_of_true (clear.fed .ends rfl rfl fun _ member => member) trivial
  | _ => exact iff_of_true ⟨clear.sent, clear.pending⟩ trivial

/-- Nothing that tells of an event published after the withdrawal of its authority is sent on a
stream, nor will be of what the bus holds for it, exactly if none that passes its filters is published
while it is open, and it does not fall behind then: the authority is never looked at again. -/
theorem nothing_late_iff (sessions : SessionSystem) (keys : KeySystem)
    (house : House Schema Room Scene) (inputs : List (StreamInput Schema Room Scene Rest)) :
    Runs.Always (step env) (NothingLateYet env) (start sessions keys house) inputs ↔
      Runs.EachStep (step env) Unheard (start sessions keys house) inputs := by
  have begins : (start sessions keys house : StreamSystem Schema Room Scene Rest).Clear :=
    ⟨rfl, fun _ _ _ _ _ member => by cases member⟩
  have exactly : ∀ (s : StreamSystem Schema Room Scene Rest) input, s.NothingLateYet env →
      ((s.step env input).NothingLateYet env ↔ s.Unheard input) := by
    intro s input never
    rw [nothingLateYet_iff]
    exact clear_step env ((nothingLateYet_iff env).mp never) input
  exact Runs.always_iff_eachStep exactly ((nothingLateYet_iff env).mpr begins) inputs

end StreamSystem

/-- A house that signed one token. -/
def oneToken (claims : Claims) : StreamEnv Unit where
  auth := ⟨1, 1, fun _ _ => false⟩
  checks := ⟨fun _ _ => false, fun _ => false, fun _ _ => false⟩
  whitelist := []
  decode := fun token => if token = "ey" then some claims else none
  fillPrimary := fun _ schema => schema

def ada : User := ⟨⟨1⟩, "ada", "kept", .user, 0⟩

/-- Ada's stream goes on after her password was changed. -/
def changedPassword : List (StreamInput Unit Unit Unit Unit) :=
  [.connect "ey" "10.0.0.2" ⟨none, none, false⟩, .updateUser { ada with tokenVersion := 1 },
    .publish ⟨.deviceAvailabilityChanged 1 "lock_front" none false, ()⟩, .receive]

theorem sent_after_password_change :
    ¬Runs.Always (StreamSystem.step (oneToken ⟨none, .user, [], .user ⟨1⟩ "ada", 0, none⟩))
      StreamSystem.NothingLate
      (StreamSystem.start (.start 0 (UserStore.empty.updateUser ada)) (.start 0)
        ⟨some ∅, some [], some [], some [], some []⟩) changedPassword := by
  intro always
  have counts := congrArg List.length always.last
  revert counts
  decide

end HomeCore.EventStream
