import HomeCore.Accounts.Sessions
import HomeCore.Accounts.RefreshTokensProofs

/-! An ended session stays ended: its tokens are retired, and that it ended is known,
from memory or from the store, for as long as one of its access tokens could pass. A
call that names a token already rotated away ends nothing but that token. -/
namespace HomeCore

/-! ## Time -/

theorem seconds_mono {earlier later : DateTime} (ordered : earlier ≤ later) :
    seconds earlier ≤ seconds later :=
  Int.ediv_le_ediv (by decide) ordered

theorem seconds_add_hours (time : DateTime) (hours : Int) :
    seconds (time + hours * hour) = seconds time + hours * 3600 := by
  rw [seconds, hour, ← Int.mul_assoc]
  exact Int.add_mul_ediv_right time (hours * 3600) (by decide)

theorem Claims.validate_earlier {claims : Claims} {earlier later : DateTime} (ordered : earlier ≤ later)
    (expired : claims.validate earlier = false) : claims.validate later = false := by
  unfold validate at expired ⊢
  cases exp : claims.exp with
  | none =>
    rw [exp] at expired
    cases expired
  | some e =>
    have order := seconds_mono ordered
    simp only [exp, Option.all_some, decide_eq_false_iff_not, not_le] at expired ⊢
    exact lt_of_lt_of_le expired (Int.sub_le_sub_right order jwtLeeway)

/-- The token expires by then, in whole seconds. -/
def Claims.ExpiresBy (claims : Claims) (bound : Int) : Prop :=
  ∃ exp, claims.exp = some exp ∧ exp ≤ bound

theorem Claims.ExpiresBy.mono {claims : Claims} {bound further : Int} (expires : claims.ExpiresBy bound)
    (within : bound ≤ further) : claims.ExpiresBy further := by
  obtain ⟨exp, isExp, small⟩ := expires
  exact ⟨exp, isExp, small.trans within⟩

theorem Claims.ExpiresBy.outlived {claims : Claims} {bound : Int} {time : DateTime}
    (expires : claims.ExpiresBy bound) (later : bound + jwtLeeway < seconds time) :
    claims.validate time = false := by
  obtain ⟨exp, isExp, within⟩ := expires
  unfold validate
  simp only [isExp, Option.all_some, decide_eq_false_iff_not, not_le]
  exact lt_of_le_of_lt within (lt_sub_iff_add_lt.mpr later)

namespace SessionSystem

variable {auth : AuthSetup} {system after : SessionSystem} {sid : Uuid} {t u : DateTime}

/-- No access token of the session passes at that time. -/
def Outlived (system : SessionSystem) (sid : Uuid) (time : DateTime) : Prop :=
  ∀ claims ∈ system.minted, claims.sid = some sid → claims.validate time = false

theorem Outlived.later (outlived : system.Outlived sid t) (ordered : t ≤ u) :
    system.Outlived sid u :=
  fun claims member ofSession => Claims.validate_earlier ordered (outlived claims member ofSession)

/-! ## An ended session -/

/-- What is known of a session that was ended. -/
structure Ended (auth : AuthSetup) (system : SessionSystem) (sid : Uuid) : Prop where
  retired : ∀ (key : String) record, system.store.rows[key]? = some record → record.session = sid →
    record.retired = true
  late : ∀ (key : String) record revoked, system.store.rows[key]? = some record →
    record.session = sid → record.revokedAt = some revoked →
    system.Outlived sid (revoked + keep auth)
  soon : system.Outlived sid (system.now + keep auth)
  noted : system.Outlived sid system.now ∨
    ∃ ended, system.endedSessions[sid.text]? = some ended ∧ system.Outlived sid (ended + keep auth)
  remembered : system.Outlived sid system.now ∨
    ∃ (key : String) (record : RefreshTokenRecord), system.store.rows[key]? = some record ∧
      record.session = sid ∧ record.revokedAt.isSome = true ∧ system.Outlived sid record.expiresAt

/-- What happens to a session that was ended: no access token is minted for it, its
tokens may be revoked once more, deleted when they have expired, and its note dropped
when its time is up. -/
structure Fades (auth : AuthSetup) (system after : SessionSystem) (sid : Uuid) : Prop where
  time : system.now ≤ after.now
  minted : ∀ claims ∈ after.minted, claims.sid = some sid → claims ∈ system.minted
  rows : ∀ (key : String) record, after.store.rows[key]? = some record → record.session = sid →
    ∃ old, system.store.rows[key]? = some old ∧ old.session = sid ∧
      (old.retired = true → record.retired = true) ∧
      (record.revokedAt = old.revokedAt ∨ record.revokedAt = some after.now)
  kept : ∀ (key : String) old, system.store.rows[key]? = some old → old.session = sid →
    old.revokedAt.isSome = true → old.expiresAt ≤ after.now ∨
    ∃ record, after.store.rows[key]? = some record ∧ record.session = sid ∧
      record.revokedAt.isSome = true ∧ record.expiresAt = old.expiresAt
  note : ∀ ended, system.endedSessions[sid.text]? = some ended →
    after.endedSessions[sid.text]? = some ended ∨ after.endedSessions[sid.text]? = some after.now ∨
      ended + keep auth ≤ after.now

theorem Fades.outlived (fades : Fades auth system after sid) (outlived : system.Outlived sid t)
    (ordered : t ≤ u) : after.Outlived sid u :=
  fun claims member ofSession =>
    outlived.later ordered claims (fades.minted claims member ofSession) ofSession

theorem Ended.fades (ended : Ended auth system sid) (fades : Fades auth system after sid) :
    Ended auth after sid := by
  have soon : after.Outlived sid (after.now + keep auth) :=
    fades.outlived ended.soon (Int.add_le_add_right fades.time _)
  refine ⟨?_, ?_, soon, ?_, ?_⟩
  · intro key record stored ofSession
    obtain ⟨old, there, wasOfSession, retires, _⟩ := fades.rows key record stored ofSession
    exact retires (ended.retired key old there wasOfSession)
  · intro key record revoked stored ofSession revokedAt
    obtain ⟨old, there, wasOfSession, _, same | now⟩ := fades.rows key record stored ofSession
    · exact fades.outlived (ended.late key old revoked there wasOfSession (same ▸ revokedAt)) le_rfl
    · rw [now] at revokedAt
      cases revokedAt
      exact soon
  · rcases ended.noted with outlived | ⟨when, noted, outlived⟩
    · exact .inl (fades.outlived outlived fades.time)
    · rcases fades.note when noted with same | now | dropped
      · exact .inr ⟨when, same, fades.outlived outlived le_rfl⟩
      · exact .inr ⟨after.now, now, soon⟩
      · exact .inl (fades.outlived outlived dropped)
  · rcases ended.remembered with outlived | ⟨key, old, there, ofSession, revoked, outlived⟩
    · exact .inl (fades.outlived outlived fades.time)
    · rcases fades.kept key old there ofSession revoked with expired | ⟨record, here, still, also, same⟩
      · exact .inl (fades.outlived outlived expired)
      · exact .inr ⟨key, record, here, still, also, fades.outlived outlived (le_of_eq same.symm)⟩

/-- The note of a session's end, where it is noted or where others are. -/
theorem noteEnded_note (auth : AuthSetup) (system : SessionSystem) (other : Uuid) {ended : DateTime}
    (noted : system.endedSessions[sid.text]? = some ended) :
    (system.noteEnded auth other).endedSessions[sid.text]? = some ended ∨
      (system.noteEnded auth other).endedSessions[sid.text]? = some system.now ∨
      ended + keep auth ≤ system.now := by
  simp only [noteEnded, Std.ExtTreeMap.getElem?_insert, Std.ExtTreeMap.getElem?_filter', noted]
  split
  next => exact .inr (.inl rfl)
  next =>
    by_cases fresh : system.now < ended + keep auth
    · simp [fresh]
    · exact .inr (.inr (not_lt.mp fresh))

/-- Tokens of other sessions alone are changed. -/
theorem Fades.apart (time : system.now ≤ after.now)
    (minted : ∀ claims ∈ after.minted, claims.sid = some sid → claims ∈ system.minted)
    (rows : ∀ (key : String) record, record.session = sid →
      (after.store.rows[key]? = some record ↔ system.store.rows[key]? = some record))
    (note : after.endedSessions = system.endedSessions) : Fades auth system after sid where
  time := time
  minted := minted
  rows key record stored ofSession :=
    ⟨record, (rows key record ofSession).mp stored, ofSession, id, .inl rfl⟩
  kept key old there ofSession revoked :=
    .inr ⟨old, (rows key old ofSession).mpr there, ofSession, revoked, rfl⟩
  note _ noted := .inl (note ▸ noted)

/-- Tokens are revoked, and the end of some session is noted. -/
theorem Fades.revoked (revokes : RefreshTokenStore.Revokes system.now system.store after.store)
    (now : after.now = system.now) (minted : after.minted = system.minted) {other : Uuid}
    (note : after.endedSessions = (system.noteEnded auth other).endedSessions) :
    Fades auth system after sid where
  time := le_of_eq now.symm
  minted claims member _ := minted ▸ member
  rows := by
    intro key record stored ofSession
    obtain ⟨old, there, rfl | ⟨_, rfl⟩⟩ := revokes.origin stored
    · exact ⟨record, there, ofSession, id, .inl rfl⟩
    · refine ⟨old, there, ofSession, fun _ => ?_, .inr (by rw [now]; rfl)⟩
      simp [RefreshTokenRecord.retired, RefreshTokenRecord.revoked]
  kept := by
    intro key old there ofSession revoked
    rcases revokes key with same | ⟨record, stored, unrevoked, _⟩
    · exact .inr ⟨old, same.trans there, ofSession, revoked, rfl⟩
    · rw [there] at stored
      cases stored
      rw [unrevoked] at revoked
      cases revoked
  note := by
    intro ended noted
    rw [note, now]
    exact noteEnded_note auth system other noted

/-! ## Every reachable state -/

/-- What every run keeps: a session has one token at most that was not used, which is
no older than any access token of the session. -/
structure Kept (auth : AuthSetup) (system : SessionSystem) : Prop where
  sound : system.store.Sound
  oneUnused : ∀ (key key' : String) record record', system.store.rows[key]? = some record →
    system.store.rows[key']? = some record' → record.session = record'.session →
    record.usedAt = none → record'.usedAt = none → record = record'
  lifetime : ∀ (key : String) record, system.store.rows[key]? = some record →
    record.expiresAt = record.createdAt + auth.refreshTokenExpiryDays * day
  past : ∀ (key : String) record revoked, system.store.rows[key]? = some record →
    record.revokedAt = some revoked → revoked ≤ system.now
  mintedBefore : ∀ claims ∈ system.minted, ∀ (key : String) record,
    system.store.rows[key]? = some record → claims.sid = some record.session →
    record.usedAt = none →
    claims.ExpiresBy (seconds record.createdAt + auth.tokenExpiryHours * 3600)
  mintedPast : ∀ claims ∈ system.minted,
    claims.ExpiresBy (seconds system.now + auth.tokenExpiryHours * 3600)
  people : ∀ claims ∈ system.minted, claims.actor.isUser = true
  ended : ∀ sid ∈ system.closed, Ended auth system sid

theorem start_kept (auth : AuthSetup) (now : DateTime) (users : UserStore) :
    Kept auth (start now users) := by
  have noRows : ∀ (key : String) record, (start now users).store.rows[key]? ≠ some record := by
    intro key record found
    simp [start, Indexed.Table.empty] at found
  exact
    { sound := Indexed.Table.empty_sound
      oneUnused := fun key _ record _ stored => (noRows key record stored).elim
      lifetime := fun key record stored => (noRows key record stored).elim
      past := fun key record _ stored => (noRows key record stored).elim
      mintedBefore := fun claims member => by cases member
      mintedPast := fun claims member => by cases member
      people := fun claims member => by cases member
      ended := fun sid member => by cases member }

theorem Kept.tick (kept : Kept auth system) (nanos : Nat) :
    Kept auth { system with now := system.now + nanos } := by
  have passes : system.now ≤ system.now + nanos := Int.le_add_of_nonneg_right (Int.natCast_nonneg nanos)
  exact
    { kept with
      past := fun key record revoked stored isRevoked =>
        (kept.past key record revoked stored isRevoked).trans passes
      mintedPast := fun claims member =>
        (kept.mintedPast claims member).mono (Int.add_le_add_right (seconds_mono passes) _)
      ended := fun sid member => (kept.ended sid member).fades
        (.apart passes (fun _ member _ => member) (fun _ _ _ => Iff.rfl) rfl) }

/-- A new token is kept and handed out; no other token of its session is left unused. -/
theorem Kept.grant (kept : Kept auth system) (user : User) {child : RefreshTokenRecord}
    (free : system.store.rows[child.lookupPrefix]? = none)
    (unknown : ∀ (key : String) record, system.store.rows[key]? = some record → record.id ≠ child.id)
    (made : child.createdAt = system.now) (unrevoked : child.revokedAt = none)
    (lasts : child.expiresAt = child.createdAt + auth.refreshTokenExpiryDays * day)
    (next : ∀ (key : String) record, system.store.rows[key]? = some record →
      record.session = child.session → record.usedAt ≠ none)
    (alive : child.session ∉ system.closed) : Kept auth (system.grant auth user child).1 := by
  have cases : ∀ (key : String) record, (system.grant auth user child).1.store.rows[key]? = some record →
      record = child ∨ system.store.rows[key]? = some record := by
    intro key record stored
    simp only [SessionSystem.grant, RefreshTokenStore.rows_create] at stored
    split at stored
    next => exact .inl (Option.some.inj stored).symm
    next => exact .inr stored
  have minted : ∀ claims ∈ (system.grant auth user child).1.minted,
      claims = Claims.issueSession system.now auth.tokenExpiryHours user (some child.session) ∨
        claims ∈ system.minted := fun claims member => List.mem_cons.mp member
  have expires : (Claims.issueSession system.now auth.tokenExpiryHours user (some child.session)).ExpiresBy
      (seconds system.now + auth.tokenExpiryHours * 3600) := ⟨_, rfl, le_rfl⟩
  refine ⟨?_, ?_, ?_, ?_, ?_, ?_, ?_, ?_⟩
  · exact RefreshTokenStore.create_sound kept.sound free unknown
  · intro key key' record record' stored stored' same unused unused'
    rcases cases key record stored with rfl | there
    · rcases cases key' record' stored' with rfl | there'
      · rfl
      · exact (next key' record' there' same.symm unused').elim
    · rcases cases key' record' stored' with rfl | there'
      · exact (next key record there same unused).elim
      · exact kept.oneUnused key key' record record' there there' same unused unused'
  · intro key record stored
    rcases cases key record stored with rfl | there
    · exact lasts
    · exact kept.lifetime key record there
  · intro key record revoked stored isRevoked
    rcases cases key record stored with rfl | there
    · rw [unrevoked] at isRevoked
      cases isRevoked
    · exact kept.past key record revoked there isRevoked
  · intro claims member key record stored ofSession unused
    rcases minted claims member with rfl | older
    · rcases cases key record stored with rfl | there
      · rw [made]
        exact expires
      · exact (next key record there (Option.some.inj ofSession).symm unused).elim
    · rcases cases key record stored with rfl | there
      · rw [made]
        exact kept.mintedPast claims older
      · exact kept.mintedBefore claims older key record there ofSession unused
  · intro claims member
    rcases minted claims member with rfl | older
    · exact expires
    · exact kept.mintedPast claims older
  · intro claims member
    rcases minted claims member with rfl | older
    · rfl
    · exact kept.people claims older
  · intro sid member
    have apart : child.session ≠ sid := fun same => alive (same ▸ member)
    refine (kept.ended sid member).fades (.apart le_rfl ?_ ?_ rfl)
    · intro claims isMinted ofSession
      rcases minted claims isMinted with rfl | older
      · exact (apart (Option.some.inj ofSession)).elim
      · exact older
    · intro key record ofSession
      simp only [SessionSystem.grant, RefreshTokenStore.rows_create]
      split
      next here =>
        constructor
        · intro isChild
          cases isChild
          exact (apart ofSession).elim
        · intro there
          rw [← here, free] at there
          cases there
      next => exact Iff.rfl

/-- The presented token is marked used: none of its session is left unused. -/
theorem Kept.marked (kept : Kept auth system) {key : String} {record : RefreshTokenRecord}
    (stored : system.store.rows[key]? = some record) (live : record.retired = false) :
    Kept auth { system with store := system.store.update (record.used system.now) } ∧
      ∀ (key : String) other, (system.store.update (record.used system.now)).rows[key]? = some other →
        other.session = record.session → other.usedAt ≠ none := by
  have unused : record.usedAt = none := by
    cases used : record.usedAt with
    | none => rfl
    | some _ => simp [RefreshTokenRecord.retired, used] at live
  have cases : ∀ (other : String) (found : RefreshTokenRecord),
      (system.store.update (record.used system.now)).rows[other]? = some found →
      found = record.used system.now ∨ system.store.rows[other]? = some found ∧ found ≠ record := by
    intro other found there
    rw [RefreshTokenStore.rows_update] at there
    split at there
    next => exact .inl (Option.some.inj there).symm
    next apart =>
      refine .inr ⟨there, ?_⟩
      rintro rfl
      exact apart (kept.sound.keyed other found there)
  have used : ∀ (other : String) (found : RefreshTokenRecord),
      (system.store.update (record.used system.now)).rows[other]? = some found →
      found.session = record.session → found.usedAt ≠ none := by
    intro other found there ofSession isUnused
    rcases cases other found there with rfl | ⟨there, apart⟩
    · cases isUnused
    · exact apart (kept.oneUnused other key found record there stored ofSession isUnused unused)
  have alive : record.session ∉ system.closed := by
    intro member
    rw [(kept.ended _ member).retired key record stored rfl] at live
    cases live
  refine ⟨⟨RefreshTokenStore.markUsed_sound kept.sound stored, ?_, ?_, ?_, ?_, kept.mintedPast,
    kept.people, ?_⟩, used⟩
  · intro a b first second inFirst inSecond same unusedFirst unusedSecond
    rcases cases a first inFirst with rfl | ⟨there, _⟩
    · cases unusedFirst
    · rcases cases b second inSecond with rfl | ⟨also, _⟩
      · cases unusedSecond
      · exact kept.oneUnused a b first second there also same unusedFirst unusedSecond
  · intro other found there
    rcases cases other found there with rfl | ⟨there, _⟩
    · exact kept.lifetime key record stored
    · exact kept.lifetime other found there
  · intro other found revoked there isRevoked
    rcases cases other found there with rfl | ⟨there, _⟩
    · exact kept.past key record revoked stored isRevoked
    · exact kept.past other found revoked there isRevoked
  · intro claims member other found there ofSession isUnused
    rcases cases other found there with rfl | ⟨there, _⟩
    · cases isUnused
    · exact kept.mintedBefore claims member other found there ofSession isUnused
  · intro sid member
    have apart : record.session ≠ sid := fun same => alive (same ▸ member)
    refine (kept.ended sid member).fades (.apart le_rfl (fun _ member _ => member) ?_ rfl)
    intro other found ofSession
    change (system.store.update (record.used system.now)).rows[other]? = some found ↔ _
    rw [RefreshTokenStore.rows_update]
    split
    next here =>
      constructor
      · intro isUsed
        cases isUsed
        exact (apart ofSession).elim
      · intro there
        rw [← here, show (record.used system.now).lookupPrefix = record.lookupPrefix from rfl,
          kept.sound.keyed key record stored, stored] at there
        cases there
        exact (apart ofSession).elim
    next => exact Iff.rfl

/-- Tokens are revoked; the sessions that count as ended are so. -/
theorem Kept.revoked (kept : Kept auth system) (sound : after.store.Sound)
    (revokes : RefreshTokenStore.Revokes system.now system.store after.store)
    (now : after.now = system.now) (minted : after.minted = system.minted)
    (ended : ∀ sid ∈ after.closed, Ended auth after sid) : Kept auth after := by
  refine ⟨sound, ?_, ?_, ?_, ?_, ?_, ?_, ended⟩
  · intro key key' record record' stored stored' same unused unused'
    obtain ⟨old, there, origin⟩ := revokes.origin stored
    obtain ⟨old', there', origin'⟩ := revokes.origin stored'
    have both : old = old' := by
      refine kept.oneUnused key key' old old' there there' ?_ ?_ ?_
      · rcases origin with rfl | ⟨_, rfl⟩ <;> rcases origin' with rfl | ⟨_, rfl⟩ <;> exact same
      · rcases origin with rfl | ⟨_, rfl⟩ <;> exact unused
      · rcases origin' with rfl | ⟨_, rfl⟩ <;> exact unused'
    have keys : key = key' := by
      rw [← kept.sound.keyed key old there, ← kept.sound.keyed key' old' there', both]
    rw [keys, stored'] at stored
    exact (Option.some.inj stored).symm
  · intro key record stored
    obtain ⟨old, there, rfl | ⟨_, rfl⟩⟩ := revokes.origin stored
    · exact kept.lifetime key record there
    · exact kept.lifetime key old there
  · intro key record revoked stored isRevoked
    rw [now]
    obtain ⟨old, there, rfl | ⟨_, rfl⟩⟩ := revokes.origin stored
    · exact kept.past key record revoked there isRevoked
    · cases isRevoked
      exact le_rfl
  · intro claims member key record stored ofSession unused
    rw [minted] at member
    obtain ⟨old, there, rfl | ⟨_, rfl⟩⟩ := revokes.origin stored
    · exact kept.mintedBefore claims member key record there ofSession unused
    · exact kept.mintedBefore claims member key old there ofSession unused
  · intro claims member
    rw [minted] at member
    rw [now]
    exact kept.mintedPast claims member
  · intro claims member
    rw [minted] at member
    exact kept.people claims member

/-! ## One request -/

/-- The id is that of no stored token, and of no session. -/
structure Unknown (system : SessionSystem) (id : Uuid) : Prop where
  ids : ∀ (key : String) record, system.store.rows[key]? = some record →
    record.id ≠ id ∧ record.session ≠ id
  closed : id ∉ system.closed

theorem Unknown.of_fresh {input : SessionInput} {id : Uuid} (fresh : freshId system input = true)
    (draws : (∃ userId userAgent drawn, input = .login userId userAgent id drawn) ∨
      ∃ presented drawn, input = .refresh presented id drawn) : Unknown system id := by
  have drawn : system.store.list.all (fun record => record.id ≠ id && record.session ≠ id) = true ∧
      id ∉ system.closed := by
    rcases draws with ⟨_, _, _, rfl⟩ | ⟨_, _, rfl⟩ <;>
    · simp only [freshId, Bool.and_eq_true, Bool.not_eq_true', List.contains_eq_mem,
        decide_eq_false_iff_not] at fresh
      exact ⟨fresh.1.1, fresh.2⟩
  refine ⟨?_, drawn.2⟩
  intro key record stored
  simpa using List.all_eq_true.mp drawn.1 record (Indexed.Table.mem_list.mpr ⟨key, stored⟩)

theorem Kept.login (kept : Kept auth system) (userId : Uuid) (userAgent : String) {id : Uuid}
    (drawn : List NewRefreshToken) (unknown : Unknown system id) :
    Kept auth (system.login auth userId userAgent id drawn).1 := by
  unfold SessionSystem.login
  cases system.users.getUserById userId with
  | none => exact kept
  | some user =>
    cases generated : system.store.generate drawn with
    | some token =>
      refine kept.grant user (RefreshTokenStore.generate_free generated) ?_ rfl rfl rfl ?_ unknown.closed
      · exact fun key record stored => (unknown.ids key record stored).1
      · exact fun key record stored same => ((unknown.ids key record stored).2 same).elim
    | none =>
      -- an access token of no session
      have minted : ∀ claims ∈ Claims.issueSession system.now auth.tokenExpiryHours user none ::
          system.minted, claims = Claims.issueSession system.now auth.tokenExpiryHours user none ∨
          claims ∈ system.minted := fun claims member => List.mem_cons.mp member
      refine
        { kept with
          mintedBefore := ?_
          mintedPast := ?_
          people := ?_
          ended := ?_ }
      · intro claims member key record stored ofSession unused
        rcases minted claims member with rfl | older
        · cases ofSession
        · exact kept.mintedBefore claims older key record stored ofSession unused
      · intro claims member
        rcases minted claims member with rfl | older
        · exact ⟨_, rfl, le_rfl⟩
        · exact kept.mintedPast claims older
      · intro claims member
        rcases minted claims member with rfl | older
        · rfl
        · exact kept.people claims older
      · intro sid member
        refine (kept.ended sid member).fades (.apart le_rfl ?_ (fun _ _ _ => Iff.rfl) rfl)
        intro claims isMinted ofSession
        rcases minted claims isMinted with rfl | older
        · cases ofSession
        · exact older

theorem Kept.refresh (kept : Kept auth system) (presented : String) {id : Uuid}
    (drawn : List NewRefreshToken) (unknown : Unknown system id) :
    Kept auth (system.refresh auth presented id drawn).1 := by
  unfold SessionSystem.refresh
  cases lookupPrefix refreshTokenPrefix presented with
  | none => exact kept
  | some text =>
    cases found : system.store.getByPrefix text with
    | none => simpa [found] using kept
    | some record =>
      simp only [found]
      split
      next used =>
        -- a token that was used before: its chain is revoked
        obtain ⟨sound, revokes⟩ := RefreshTokenStore.revokeChain_revokes kept.sound record.id system.now
        refine kept.revoked sound revokes rfl rfl ?_
        exact fun sid member => (kept.ended sid member).fades (.revoked revokes rfl rfl rfl)
      next unused =>
        split
        next => exact kept
        next live =>
          split
          next => exact kept
          next =>
            have isLive : record.retired = false := by
              cases used : record.usedAt <;> cases revoked : record.revokedAt <;>
                simp_all [RefreshTokenRecord.retired]
            have stored : system.store.rows[text]? = some record := found
            rw [RefreshTokenStore.markUsed_eq kept.sound stored]
            obtain ⟨marked, noneUnused⟩ := kept.marked stored isLive
            cases system.users.getUserById record.userId with
            | none => exact marked
            | some user =>
              cases generated : (system.store.update (record.used system.now)).generate drawn with
              | none => simpa [generated] using marked
              | some token =>
                refine marked.grant user (RefreshTokenStore.generate_free generated) ?_ rfl rfl rfl noneUnused ?_
                · intro key other there
                  rw [RefreshTokenStore.rows_update] at there
                  split at there
                  next =>
                    cases there
                    exact (unknown.ids text record stored).1
                  next => exact (unknown.ids key other there).1
                · intro member
                  have retired := (kept.ended _ member).retired text record stored rfl
                  rw [isLive] at retired
                  cases retired

/-- The end of a session, named by the token of it that was not used: every other token
of the session was. -/
theorem Kept.endSession (kept : Kept auth system)
    (lasting : auth.tokenExpiryHours < 24 * auth.refreshTokenExpiryDays) (caller : Option Uuid) (id : Uuid)
    (current : system.endsCurrent (.endSession caller id) = true) :
    Kept auth (system.endSession auth caller id).1 := by
  unfold SessionSystem.endSession
  simp only [endsCurrent] at current
  cases found : (system.store.getById id).filter fun record => some record.userId = caller with
  | none => exact kept
  | some named =>
    rw [found] at current
    simp only [Option.all_some, Bool.and_eq_true, Option.isNone_iff_eq_none, List.all_eq_true,
      Bool.or_eq_true, decide_eq_true_eq] at current
    obtain ⟨unused, timely⟩ := current
    obtain ⟨stored, isNamed⟩ := kept.sound.of_getById (Option.filter_eq_some_iff.mp found).1
    obtain ⟨sound, revokes⟩ := RefreshTokenStore.revoke_revokes kept.sound id system.now
    obtain ⟨revoked, revokedRow⟩ := RefreshTokenStore.revoke_row kept.sound stored system.now
    rw [isNamed] at revokedRow
    have inTime : ∀ (key : String) record, system.store.rows[key]? = some record →
        record.session = named.session →
        seconds named.createdAt + jwtLeeway < seconds (record.revokedAt.getD system.now) := by
      intro key record there same
      exact (timely record (Indexed.Table.mem_list.mpr ⟨key, there⟩)).resolve_left (not_not.mpr same)
    have outlived : ∀ time, seconds named.createdAt + jwtLeeway < seconds time →
        system.Outlived named.session (time + keep auth) := by
      intro time order claims member ofSession
      refine (kept.mintedBefore claims member _ named stored ofSession unused).outlived ?_
      rw [keep, seconds_add_hours]
      have := order
      omega
    have nowLate : seconds named.createdAt + jwtLeeway < seconds system.now := by
      refine lt_of_lt_of_le (inTime _ named stored rfl) (seconds_mono ?_)
      cases isRevoked : named.revokedAt with
      | none => exact le_rfl
      | some revoked => exact kept.past _ named revoked stored isRevoked
    have soon := outlived system.now nowLate
    have expiry : system.Outlived named.session named.expiresAt := by
      intro claims member ofSession
      refine (kept.mintedBefore claims member _ named stored ofSession unused).outlived ?_
      rw [kept.lifetime _ named stored, day, ← Int.mul_assoc, seconds_add_hours]
      have leeway : jwtLeeway = 60 := rfl
      omega
    refine kept.revoked sound revokes rfl rfl ?_
    intro sid member
    rcases List.mem_cons.mp member with rfl | earlier
    · refine ⟨?_, ?_, soon, .inr ⟨system.now, ?_, soon⟩, .inr ?_⟩
      · intro key record there ofSession
        obtain ⟨old, before, rfl | ⟨_, rfl⟩⟩ := revokes.origin there
        · cases used : record.usedAt with
          | some _ => simp [RefreshTokenRecord.retired, used]
          | none =>
            -- the only unused token is the one named, which is revoked now
            have same := kept.oneUnused key _ record named before stored ofSession used unused
            have here : named.lookupPrefix = key := same ▸ kept.sound.keyed key record before
            rw [here] at revokedRow
            cases revokedRow.symm.trans there
            simp [RefreshTokenRecord.retired, RefreshTokenRecord.revoked]
        · simp [RefreshTokenRecord.retired, RefreshTokenRecord.revoked]
      · intro key record revoked there ofSession isRevoked
        obtain ⟨old, before, rfl | ⟨_, rfl⟩⟩ := revokes.origin there
        · have order := inTime key record before ofSession
          rw [isRevoked] at order
          exact outlived revoked order
        · cases isRevoked
          exact soon
      · simp [noteEnded]
      · exact ⟨_, named.revoked revoked, revokedRow, rfl, rfl, expiry⟩
    · exact (kept.ended sid earlier).fades (.revoked revokes rfl rfl rfl)

theorem Kept.prune (kept : Kept auth system) :
    Kept auth { system with store := system.store.prune system.now } := by
  obtain ⟨sound, rows⟩ := RefreshTokenStore.prune_rows kept.sound system.now
  have there : ∀ {key : String} {record : RefreshTokenRecord},
      (system.store.prune system.now).rows[key]? = some record →
      system.store.rows[key]? = some record := fun stored => ((rows _ _).mp stored).1
  refine ⟨sound, ?_, ?_, ?_, ?_, kept.mintedPast, kept.people, ?_⟩
  · exact fun key key' record record' stored stored' =>
      kept.oneUnused key key' record record' (there stored) (there stored')
  · exact fun key record stored => kept.lifetime key record (there stored)
  · exact fun key record revoked stored => kept.past key record revoked (there stored)
  · exact fun claims member key record stored => kept.mintedBefore claims member key record (there stored)
  · intro sid member
    refine (kept.ended sid member).fades ⟨le_rfl, fun _ member _ => member, ?_, ?_, fun _ => .inl⟩
    · exact fun key record stored ofSession => ⟨record, there stored, ofSession, id, .inl rfl⟩
    · intro key old stored ofSession revoked
      by_cases expired : old.expiresAt ≤ system.now
      · exact .inl expired
      · exact .inr ⟨old, (rows key old).mpr ⟨stored, fun doomed => expired doomed.2⟩, ofSession,
          revoked, rfl⟩

/-- Entries are added one after another: what the map then holds for a session is one
of its entries, or what it held before where it has none. -/
theorem getElem?_foldl_insert (entries : List (Uuid × DateTime)) (ended : Std.ExtTreeMap String DateTime)
    (sid : Uuid) :
    (∃ time, (sid, time) ∈ entries ∧ (entries.foldl (fun ended entry =>
      ended.insert entry.1.text entry.2) ended)[sid.text]? = some time) ∨
    (∀ time, (sid, time) ∉ entries) ∧ (entries.foldl (fun ended entry =>
      ended.insert entry.1.text entry.2) ended)[sid.text]? = ended[sid.text]? := by
  induction entries generalizing ended with
  | nil => exact .inr ⟨by rintro _ ⟨⟩, rfl⟩
  | cons entry rest ih =>
    rw [List.foldl_cons]
    rcases ih (ended.insert entry.1.text entry.2) with ⟨time, member, held⟩ | ⟨absent, same⟩
    · exact .inl ⟨time, List.mem_cons_of_mem entry member, held⟩
    · by_cases named : entry.1 = sid
      · refine .inl ⟨entry.2, List.mem_cons.mpr (.inl (Prod.ext named.symm rfl)), ?_⟩
        rw [same, named]
        exact Std.ExtTreeMap.getElem?_insert_self
      · refine .inr ⟨fun time member => ?_, ?_⟩
        · rcases List.mem_cons.mp member with rfl | later
          · exact named rfl
          · exact absent time later
        · rw [same, Std.ExtTreeMap.getElem?_insert, if_neg]
          exact fun text => named (Uuid.text_injective (Std.compare_eq_iff_eq.mp text))

theorem mem_endedSince {store : RefreshTokenStore} {since time : DateTime} :
    (sid, time) ∈ store.endedSince since ↔ ∃ (key : String) (record : RefreshTokenRecord),
      store.rows[key]? = some record ∧ record.session = sid ∧ record.revokedAt = some time ∧
        since ≤ time := by
  simp only [RefreshTokenStore.endedSince, List.mem_filterMap, Indexed.Table.mem_list,
    Option.map_eq_some_iff, Option.filter_eq_some_iff, decide_eq_true_eq, Prod.mk.injEq]
  constructor
  · rintro ⟨record, ⟨key, stored⟩, _, ⟨isRevoked, recent⟩, ofSession, rfl⟩
    exact ⟨key, record, stored, ofSession, isRevoked, recent⟩
  · rintro ⟨key, record, stored, ofSession, isRevoked, recent⟩
    exact ⟨record, ⟨key, stored⟩, time, ⟨isRevoked, recent⟩, ofSession, rfl⟩

theorem Ended.restart (ended : Ended auth system sid) :
    Ended auth (system.loadEndedSessions auth) sid := by
  refine ⟨ended.retired, ended.late, ended.soon, ?_, ended.remembered⟩
  rcases ended.remembered with outlived | ⟨key, record, stored, ofSession, isRevoked, _⟩
  · exact .inl outlived
  · obtain ⟨revoked, isRevoked⟩ := Option.isSome_iff_exists.mp isRevoked
    by_cases recent : system.now - keep auth ≤ revoked
    · have listed : (sid, revoked) ∈ system.store.endedSince (system.now - keep auth) :=
        mem_endedSince.mpr ⟨key, record, stored, ofSession, isRevoked, recent⟩
      rcases getElem?_foldl_insert _ ∅ sid with ⟨time, member, held⟩ | ⟨absent, _⟩
      · -- whichever of its entries is the one kept
        obtain ⟨other, entry, there, also, revokedThen, _⟩ := mem_endedSince.mp member
        exact .inr ⟨time, held, ended.late other entry time there also revokedThen⟩
      · exact (absent revoked listed).elim
    · refine .inl ((ended.late key record revoked stored ofSession isRevoked).later ?_)
      have := not_le.mp recent
      exact le_of_lt (lt_sub_iff_add_lt.mp this)

theorem Kept.restart (kept : Kept auth system) : Kept auth (system.loadEndedSessions auth) :=
  { kept with ended := fun sid member => (kept.ended sid member).restart }

theorem step_kept (kept : Kept auth system)
    (lasting : auth.tokenExpiryHours < 24 * auth.refreshTokenExpiryDays) (input : SessionInput)
    (fresh : system.freshId input = true) (current : system.endsCurrent input = true) :
    Kept auth (system.step auth input) := by
  cases input with
  | tick nanos => exact kept.tick nanos
  | login userId userAgent id drawn =>
    exact kept.login userId userAgent drawn (.of_fresh fresh (.inl ⟨_, _, _, rfl⟩))
  | refresh presented id drawn =>
    exact kept.refresh presented drawn (.of_fresh fresh (.inr ⟨_, _, rfl⟩))
  | endSession caller id => exact kept.endSession lasting caller id current
  | prune => exact kept.prune
  | restart => exact kept.restart

theorem Kept.stayEnded (kept : Kept auth system) : StayEnded auth system := by
  refine ⟨?_, ?_⟩
  · intro presented id drawn text record looked found closed
    have retired := (kept.ended _ closed).retired text record found rfl
    unfold SessionSystem.refresh
    simp only [looked, found]
    cases used : record.usedAt with
    | some _ => exact ⟨_, rfl⟩
    | none =>
      have revoked : record.revokedAt.isSome = true := by
        simpa [RefreshTokenRecord.retired, used] using retired
      simp only [revoked, Option.isSome_none, Bool.false_eq_true, if_false, Bool.true_or, if_true]
      exact ⟨_, rfl⟩
  · intro claims member sid closed ofSession
    rcases (kept.ended sid closed).noted with outlived | ⟨when, noted, _⟩
    · rw [accepts, outlived claims member ofSession, Bool.false_and]
    · have person := kept.people claims member
      have refused : system.tokenVersionCurrent claims = false := by
        unfold tokenVersionCurrent
        cases actor : claims.actor with
        | user uid username => simp [ofSession, sessionEnded, noted]
        | apiKey keyId owner label =>
          rw [actor] at person
          cases person
        | localAdmin peer =>
          rw [actor] at person
          cases person
      rw [accepts, refused, Bool.and_false]

/-- In every run whose calls of `end_session` name a session's current token, an ended
session stays ended. -/
theorem ended_sessions_stay_ended (auth : AuthSetup)
    (lasting : auth.tokenExpiryHours < 24 * auth.refreshTokenExpiryDays) (now : DateTime)
    (users : UserStore) (inputs : List SessionInput)
    (fresh : Runs.EachStep (step auth) (fun system input => system.freshId input = true)
      (start now users) inputs)
    (current : Runs.EachStep (step auth) (fun system input => system.endsCurrent input = true)
      (start now users) inputs) :
    Runs.Always (step auth) (StayEnded auth) (start now users) inputs := by
  have always : Runs.Always (step auth) (Kept auth) (start now users) inputs :=
    Runs.invariant (Kept auth) (fun system input kept safe => step_kept kept lasting input safe.1 safe.2)
      (start_kept auth now users) (fresh.and current)
  exact always.mono fun system kept => kept.stayEnded

/-- A house with one account. A token is kept as the text itself behind a word, in
place of its hash. -/
def adasHouse : UserStore :=
  UserStore.empty.updateUser ⟨⟨7⟩, "ada", "hash of a password", .admin, 0⟩

def dailyAuth : AuthSetup where
  tokenExpiryHours := 24
  refreshTokenExpiryDays := 30
  verifyToken token hash := hash = "hash of " ++ token

def drawnToken (body : String) : NewRefreshToken :=
  ⟨"hc_rt_" ++ body, String.ofList (body.toList.take 12), "hash of hc_rt_" ++ body⟩

/-- Ada signs in and her browser refreshes once, two minutes later. -/
def adasMorning : List SessionInput :=
  [.login ⟨7⟩ "browser" ⟨1⟩ [drawnToken "first-token-body"], .tick 120000000000,
    .refresh "hc_rt_first-token-body" ⟨2⟩ [drawnToken "second-token-body"], .tick 120000000000]

def currentEnded : List SessionInput :=
  adasMorning ++ [.endSession (some ⟨7⟩) ⟨2⟩, .restart, .prune]

theorem adas_session_stays_ended :
    Runs.Always (step dailyAuth) (StayEnded dailyAuth) (start 0 adasHouse) currentEnded ∧
      (currentEnded.foldl (step dailyAuth) (start 0 adasHouse)).closed = [⟨1⟩] := by
  refine ⟨ended_sessions_stay_ended dailyAuth ?_ 0 adasHouse currentEnded ?_ ?_, ?_⟩
  all_goals decide

/-- The first token's id is what the call names. -/
def rotatedEnded : List SessionInput := adasMorning ++ [.endSession (some ⟨7⟩) ⟨1⟩]

def afterRotatedEnded : SessionSystem := rotatedEnded.foldl (step dailyAuth) (start 0 adasHouse)

/-- The token named was rotated away: the session's current token is not revoked. -/
theorem rotated_session_goes_on :
    ¬ Runs.Always (step dailyAuth) (StayEnded dailyAuth) (start 0 adasHouse) rotatedEnded := by
  intro always
  have ended : StayEnded dailyAuth afterRotatedEnded := always.last
  have found : (afterRotatedEnded.store.getByPrefix "second-token").map RefreshTokenRecord.session =
      some ⟨1⟩ := by
    decide
  obtain ⟨record, stored, ofSession⟩ := Option.map_eq_some_iff.mp found
  have closed : record.session ∈ afterRotatedEnded.closed := by
    rw [ofSession]
    decide
  obtain ⟨message, refused⟩ := ended.refused "hc_rt_second-token-body" ⟨3⟩
    [drawnToken "third-token-body"] "second-token" record (by decide) stored closed
  have granted : (SessionSystem.refresh dailyAuth afterRotatedEnded "hc_rt_second-token-body" ⟨3⟩
      [drawnToken "third-token-body"]).2.isOk = true := by
    decide
  rw [refused] at granted
  cases granted

end SessionSystem

end HomeCore
