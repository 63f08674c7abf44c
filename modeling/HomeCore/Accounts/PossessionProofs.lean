import HomeCore.Accounts.SessionsProofs

/-! Who can affect a session by presenting a text. A token is looked up by the start of its
text, and that it was used before is looked at before the rest is verified. -/
namespace HomeCore
namespace SessionSystem
variable {auth : AuthSetup} {system : SessionSystem} {record : RefreshTokenRecord} {presented : String}

/-- The token that a text is looked up as. -/
def lookedUp (system : SessionSystem) (presented : String) : Option RefreshTokenRecord :=
  (lookupPrefix refreshTokenPrefix presented).bind system.store.getByPrefix

/-- The request is refused and leaves the tokens and the sessions as they were. -/
structure Harmless (auth : AuthSetup) (system : SessionSystem) (presented : String) (id : Uuid)
    (drawn : List NewRefreshToken) : Prop where
  refused : ∃ message, (system.refresh auth presented id drawn).2 = .error message
  unchanged : (system.refresh auth presented id drawn).1 = system

/-- The alarm of a reuse would do nothing: the token's whole chain is revoked, and it is at this
moment that its session was noted as ended, with no older note that is due to be dropped. -/
structure Alarmed (auth : AuthSetup) (system : SessionSystem) (record : RefreshTokenRecord) : Prop where
  chain : ∀ id ∈ system.store.chain record.id, ∀ other, system.store.getById id = some other →
    other.revokedAt ≠ none
  noted : system.endedSessions[record.session.text]? = some system.now
  recent : ∀ (key : String) ended, system.endedSessions[key]? = some ended →
    key ≠ record.session.text → system.now < ended + keep auth

/-! ## The alarm -/

theorem revokeChain_eq_self (sound : system.store.Sound) (id : Uuid) :
    system.store.revokeChain id system.now = system.store ↔
      ∀ i ∈ system.store.chain id, ∀ other, system.store.getById i = some other →
        other.revokedAt ≠ none := by
  constructor
  · intro same i member other found unrevoked
    obtain ⟨stored, rfl⟩ := sound.of_getById found
    have row := RefreshTokenStore.rows_revokeChain sound id system.now other.lookupPrefix
    rw [same, stored, Option.map_some, if_pos ⟨member, unrevoked⟩, Option.some.injEq] at row
    rw [row] at unrevoked
    cases unrevoked
  · intro revoked
    have rows : (system.store.revokeChain id system.now).rows = system.store.rows := by
      ext key record
      rw [RefreshTokenStore.rows_revokeChain sound]
      cases stored : system.store.rows[key]? with
      | none => rfl
      | some record =>
        have kept : ¬ (record.id ∈ system.store.chain id ∧ record.revokedAt = none) := by
          rintro ⟨member, unrevoked⟩
          exact revoked record.id member record (sound.getById_eq stored) unrevoked
        rw [Option.map_some, if_neg kept]
    have index := RefreshTokenStore.index_revokeChain system.store id system.now
    calc
      system.store.revokeChain id system.now =
          ⟨(system.store.revokeChain id system.now).rows,
            (system.store.revokeChain id system.now).index⟩ := rfl
      _ = system.store := by rw [rows, index]

theorem noteEnded_eq_self (auth : AuthSetup) (system : SessionSystem) (sid : Uuid) :
    (system.noteEnded auth sid).endedSessions = system.endedSessions ↔
      system.endedSessions[sid.text]? = some system.now ∧
        ∀ (key : String) ended, system.endedSessions[key]? = some ended → key ≠ sid.text →
          system.now < ended + keep auth := by
  have notes (key : String) : (system.noteEnded auth sid).endedSessions[key]? =
      if sid.text = key then some system.now
      else system.endedSessions[key]?.filter fun ended => decide (system.now < ended + keep auth) := by
    simp only [noteEnded, Std.ExtTreeMap.getElem?_insert, Std.ExtTreeMap.getElem?_filter',
      Std.compare_eq_iff_eq]
  constructor
  · intro same
    rw [same] at notes
    refine ⟨(notes sid.text).trans (if_pos rfl), ?_⟩
    intro key ended noted other
    have kept := notes key
    rw [if_neg (Ne.symm other), noted] at kept
    exact of_decide_eq_true (Option.filter_eq_some_iff.mp kept.symm).2
  · rintro ⟨noted, recent⟩
    ext key ended
    rw [notes key]
    split
    · next here => rw [← here, noted]
    · next other =>
      cases stored : system.endedSessions[key]? with
      | none => rfl
      | some time => rw [Option.filter_some, if_pos (decide_eq_true (recent key time stored (Ne.symm other)))]

/-! ## The request -/

section Request
variable (auth : AuthSetup) (id : Uuid) (drawn : List NewRefreshToken)
  (found : system.lookedUp presented = some record)
include found

theorem refresh_unused (unused : record.usedAt = none)
    (unverified : auth.verifyToken presented record.hash = false) :
    ∃ message, system.refresh auth presented id drawn = (system, .error message) := by
  obtain ⟨text, cut, stored⟩ := Option.bind_eq_some_iff.mp found
  simp only [refresh, cut, stored, unused, unverified, Option.isSome_none, Bool.false_eq_true,
    if_false, Bool.not_false, if_true]
  split
  · exact ⟨_, rfl⟩
  · exact ⟨_, rfl⟩

theorem refresh_used {time : DateTime} (used : record.usedAt = some time) :
    system.refresh auth presented id drawn =
      (({ system with store := system.store.revokeChain record.id system.now }).noteEnded auth
        record.session, .error "refresh token reuse detected — chain revoked") := by
  obtain ⟨text, cut, stored⟩ := Option.bind_eq_some_iff.mp found
  simp only [refresh, cut, stored, used, Option.isSome_some, if_true]

end Request

/-- A text that does not verify as the token it is looked up as is refused and changes nothing,
unless that token was used before and the alarm has something to do. -/
theorem harmless_iff (auth : AuthSetup) (system : SessionSystem) (sound : system.store.Sound)
    (presented : String) (id : Uuid) (drawn : List NewRefreshToken) (record : RefreshTokenRecord)
    (found : system.lookedUp presented = some record)
    (unverified : auth.verifyToken presented record.hash = false) :
    Harmless auth system presented id drawn ↔ record.usedAt = none ∨ Alarmed auth system record := by
  cases used : record.usedAt with
  | none =>
    obtain ⟨message, whole⟩ := refresh_unused auth id drawn found used unverified
    refine iff_of_true ⟨⟨message, ?_⟩, ?_⟩ (.inl rfl)
    · rw [whole]
    · rw [whole]
  | some time =>
    have whole := refresh_used auth id drawn found used
    constructor
    · rintro ⟨_, unchanged⟩
      rw [whole] at unchanged
      have sameStore := congrArg SessionSystem.store unchanged
      have sameNotes := congrArg SessionSystem.endedSessions unchanged
      obtain ⟨noted, recent⟩ := (noteEnded_eq_self auth system record.session).mp sameNotes
      exact .inr ⟨(revokeChain_eq_self sound record.id).mp sameStore, noted, recent⟩
    · rintro (unused | alarmed)
      · cases unused
      · have sameStore := (revokeChain_eq_self sound record.id).mpr alarmed.chain
        have sameNotes := (noteEnded_eq_self auth system record.session).mpr
          ⟨alarmed.noted, alarmed.recent⟩
        refine ⟨⟨_, by rw [whole]⟩, ?_⟩
        rw [whole, sameStore]
        calc
          system.noteEnded auth record.session =
              { system with endedSessions := (system.noteEnded auth record.session).endedSessions } := rfl
          _ = system := by rw [sameNotes]

/-- Ada's browser has exchanged her first token for a second. -/
def adaRefreshed : SessionSystem := adasMorning.foldl (step dailyAuth) (start 0 adasHouse)

theorem adaRefreshed_sound : adaRefreshed.store.Sound := by
  have fresh : Runs.EachStep (step dailyAuth) (fun system input => system.freshId input = true)
      (start 0 adasHouse) adasMorning := by decide
  have current : Runs.EachStep (step dailyAuth) (fun system input => system.endsCurrent input = true)
      (start 0 adasHouse) adasMorning := by decide
  have kept := Runs.invariant (Kept dailyAuth)
    (fun system input kept safe => step_kept kept (by decide) input safe.1 safe.2)
    (start_kept dailyAuth 0 adasHouse) (fresh.and current)
  exact kept.last.sound

/-- Who knows how the second token begins gets nothing from it. -/
theorem second_token_not_guessed :
    (adaRefreshed.lookedUp "hc_rt_second-token-guess").isSome = true ∧
      Harmless dailyAuth adaRefreshed "hc_rt_second-token-guess" ⟨3⟩ [] := by
  have looked : (adaRefreshed.lookedUp "hc_rt_second-token-guess").any (fun record =>
      record.usedAt.isNone && !dailyAuth.verifyToken "hc_rt_second-token-guess" record.hash) = true := by
    decide
  obtain ⟨record, found, facts⟩ := (Option.any_eq_true _ _).mp looked
  rw [Bool.and_eq_true, Option.isNone_iff_eq_none, Bool.not_eq_true'] at facts
  refine ⟨by rw [found, Option.isSome_some], ?_⟩
  exact (harmless_iff dailyAuth adaRefreshed adaRefreshed_sound "hc_rt_second-token-guess" ⟨3⟩ [] record
    found facts.2).mpr (.inl facts.1)

/-- Who knows how the first one began ends her session with it. -/
theorem first_token_guessed :
    (adaRefreshed.lookedUp "hc_rt_first-token-guess").any (fun record =>
        !dailyAuth.verifyToken "hc_rt_first-token-guess" record.hash) = true ∧
      ¬ Harmless dailyAuth adaRefreshed "hc_rt_first-token-guess" ⟨3⟩ [] := by
  refine ⟨by decide, ?_⟩
  intro harmless
  have before : adaRefreshed.sessionEnded ⟨1⟩ = false := by decide
  have after : (adaRefreshed.refresh dailyAuth "hc_rt_first-token-guess" ⟨3⟩ []).1.sessionEnded ⟨1⟩ =
      true := by decide
  rw [harmless.unchanged, before] at after
  cases after

end SessionSystem
end HomeCore
