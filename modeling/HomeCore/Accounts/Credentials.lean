import HomeCore.Accounts.ApiKeys
import HomeCore.Engine.RuleTextsProofs

/-! The texts that requests present as credentials, up to the lookup by their first bytes.
The cut is by bytes, after a test of the length in bytes. -/
namespace HomeCore

/-- What cutting a token's body comes to. -/
inductive BodyCut where
  | short
  | panicked
  | key (text : String)
  deriving DecidableEq

def byteLength (text : List Char) : Nat := (text.map Char.utf8Size).sum

/-- The start of a body, which a token is looked up by. A slice inside a character panics. -/
def lookupPrefixFromBody (body : List Char) : BodyCut :=
  if byteLength body < lookupPrefixLen then .short
  else match takeBytes lookupPrefixLen body with
    | some text => .key (String.ofList text)
    | none => .panicked

/-- What comes of a presented text before anything is looked up. -/
inductive LookupOutcome where
  | panicked
  | looksUp (key : String)
  | refused (message : String)
  /-- The text is read as an access token. -/
  | accessToken
  /-- The request goes on as if no token had come with it. -/
  | ignored
  deriving DecidableEq

def BodyCut.outcome (short : LookupOutcome) : BodyCut → LookupOutcome
  | .short => short
  | .panicked => .panicked
  | .key text => .looksUp text

/-- The five requests that look a token up. -/
inductive CredentialPath where
  | refresh
  | logout
  | bearer
  | queryToken
  | enrollment
  deriving DecidableEq

/-- `HeaderValue::to_str`. -/
def isVisibleAscii (c : Char) : Bool := (32 ≤ c.toNat && c.toNat < 127) || c.toNat = 9

def stripStart (start : String) (text : List Char) : Option (List Char) := text.dropPrefix? start.toList

def refreshLookup (token : List Char) : LookupOutcome :=
  match stripStart refreshTokenPrefix token with
  | none => .refused "malformed refresh token"
  | some body => (lookupPrefixFromBody body).outcome (.refused "malformed refresh token")

/-- Signing out answers alike whatever it was given. -/
def logoutLookup (token : List Char) : LookupOutcome :=
  match stripStart refreshTokenPrefix token with
  | none => .ignored
  | some body => (lookupPrefixFromBody body).outcome .ignored

/-- `verify_api_key`, on what follows the word for a key. -/
def apiKeyLookup (body : List Char) : LookupOutcome :=
  (lookupPrefixFromBody body).outcome (.refused "malformed API key")

/-- The header is read only where all of it is visible ASCII. -/
def bearerLookup (value : List Char) : LookupOutcome :=
  match if value.all isVisibleAscii then stripStart "Bearer " value else none with
  | none => .refused "missing or malformed Authorization header"
  | some token => match stripStart apiKeyPrefix token with
    | none => .accessToken
    | some body => apiKeyLookup body

def queryTokenLookup (token : List Char) : LookupOutcome :=
  if token = [] then .refused "missing token query parameter"
  else match stripStart apiKeyPrefix token with
    | none => .accessToken
    | some body => apiKeyLookup body

/-- An enrollment token is cut with or without the word for a key before it. -/
def enrollmentLookup (token : List Char) : LookupOutcome :=
  if trim token = [] then .ignored
  else (lookupPrefixFromBody ((stripStart apiKeyPrefix token).getD token)).outcome .ignored

def CredentialPath.lookUp (path : CredentialPath) (text : String) : LookupOutcome :=
  match path with
  | refresh => refreshLookup text.toList
  | logout => logoutLookup text.toList
  | bearer => bearerLookup text.toList
  | queryToken => queryTokenLookup text.toList
  | enrollment => enrollmentLookup text.toList

/-- The part of the text that is cut, if it gets so far. -/
def CredentialPath.body (path : CredentialPath) (text : String) : Option (List Char) :=
  match path with
  | refresh | logout => stripStart refreshTokenPrefix text.toList
  | bearer => (stripStart "Bearer " text.toList).bind (stripStart apiKeyPrefix)
  | queryToken => stripStart apiKeyPrefix text.toList
  | enrollment => if trim text.toList = [] then none
      else some ((stripStart apiKeyPrefix text.toList).getD text.toList)

/-! Which credentials crash the request that presents them: those with a character across
the twelfth byte of their body, on every path but the one through a header. -/
open Engine

variable {body text : List Char}

theorem takeBytes_eq_cutAt {n : Nat} (long : n ≤ byteLength text) : takeBytes n text = cutAt n text := by
  induction text generalizing n with
  | nil =>
    have isZero : n = 0 := Nat.le_zero.mp long
    subst isZero
    rfl
  | cons c rest ih =>
    cases n with
    | zero => rfl
    | succ n =>
      rw [takeBytes, cutAt, if_neg (Nat.succ_ne_zero n)]
      split
      · rw [ih]
        simp only [byteLength, List.map_cons, List.sum_cons] at long
        exact Nat.sub_le_iff_le_add'.mpr long
      · rfl

theorem lookupPrefixFromBody_panics :
    lookupPrefixFromBody body = .panicked ↔ (Cut.mk lookupPrefixLen (String.ofList body)).Straddled := by
  have cut : cutAt lookupPrefixLen body = none ↔
      (Cut.mk lookupPrefixLen (String.ofList body)).Straddled := by
    rw [cutAt_eq_none, Cut.Straddled, String.toList_ofList]
  rw [lookupPrefixFromBody, ← cut]
  by_cases short : byteLength body < lookupPrefixLen
  · rw [if_pos short, cutAt_eq_none]
    constructor
    · intro panics
      cases panics
    · rintro ⟨before, c, after, rfl, _, ends⟩
      simp only [byteLength, List.map_append, List.sum_append, List.map_cons, List.sum_cons] at short
      omega
  · rw [if_neg short, takeBytes_eq_cutAt (Nat.not_lt.mp short)]
    cases cutAt lookupPrefixLen body <;> simp

theorem outcome_panics {other : LookupOutcome} (apart : other ≠ .panicked) :
    (lookupPrefixFromBody body).outcome other = .panicked ↔
      (Cut.mk lookupPrefixLen (String.ofList body)).Straddled := by
  rw [← lookupPrefixFromBody_panics]
  cases lookupPrefixFromBody body <;> simp [BodyCut.outcome, apart]

/-- Visible ASCII is one byte a character, so no cut is inside of one. -/
theorem visible_not_straddled (visible : ∀ c ∈ body, isVisibleAscii c = true) (n : Nat) :
    ¬ (Cut.mk n (String.ofList body)).Straddled := by
  rintro ⟨before, c, after, split, starts, ends⟩
  rw [String.toList_ofList] at split
  have isVisible := visible c (by rw [split]; simp)
  have small : c.toNat < 127 := by
    simp only [isVisibleAscii, Bool.or_eq_true, Bool.and_eq_true, decide_eq_true_eq] at isVisible
    omega
  have oneByte : c.utf8Size = 1 := by
    rw [Char.utf8Size_eq_one_iff, UInt32.le_iff_toNat_le]
    exact Nat.le_of_lt small
  omega

theorem stripStart_mem {start : String} (stripped : stripStart start text = some body) {c : Char}
    (member : c ∈ body) : c ∈ text := by
  obtain ⟨first, rfl, _⟩ := List.dropPrefix?_eq_some_iff.mp stripped
  exact List.mem_append_right _ member

theorem bearerLookup_safe (value : List Char) : bearerLookup value ≠ .panicked := by
  unfold bearerLookup
  by_cases visible : value.all isVisibleAscii = true
  · rw [if_pos visible]
    cases bearer : stripStart "Bearer " value with
    | none => simp
    | some token =>
      cases isKey : stripStart apiKeyPrefix token with
      | none => simp [isKey]
      | some body =>
        simp only [isKey, apiKeyLookup]
        rw [Ne, outcome_panics (by simp)]
        refine visible_not_straddled (fun c member => ?_) _
        exact List.all_eq_true.mp visible c (stripStart_mem bearer (stripStart_mem isKey member))
  · rw [if_neg visible]
    simp

/-- No credential crashes its request, exactly where no character of its body straddles the
twelfth byte, or it comes in a header. -/
theorem credentials_never_cut_iff (path : CredentialPath) (text : String) :
    path.lookUp text ≠ .panicked ↔
      path = .bearer ∨ ∀ body ∈ path.body text, ¬ (Cut.mk lookupPrefixLen (String.ofList body)).Straddled := by
  cases path with
  | bearer => exact iff_of_true (bearerLookup_safe text.toList) (.inl rfl)
  | refresh =>
    simp only [CredentialPath.lookUp, CredentialPath.body, refreshLookup]
    cases stripStart refreshTokenPrefix text.toList with
    | none => simp
    | some body => simp [outcome_panics]
  | logout =>
    simp only [CredentialPath.lookUp, CredentialPath.body, logoutLookup]
    cases stripStart refreshTokenPrefix text.toList with
    | none => simp
    | some body => simp [outcome_panics]
  | queryToken =>
    simp only [CredentialPath.lookUp, CredentialPath.body, queryTokenLookup]
    by_cases blank : text.toList = []
    · rw [if_pos blank, blank]
      exact iff_of_true (by simp) (.inr fun body isBody => by cases isBody)
    · rw [if_neg blank]
      cases stripStart apiKeyPrefix text.toList with
      | none => simp
      | some body => simp [apiKeyLookup, outcome_panics]
  | enrollment =>
    simp only [CredentialPath.lookUp, CredentialPath.body, enrollmentLookup]
    by_cases blank : trim text.toList = []
    · simp [blank]
    · simp [blank, outcome_panics]

/-- Eleven letters and a letter of two bytes. -/
theorem refresh_token_crashes :
    ¬ (CredentialPath.refresh.lookUp "hc_rt_abcdefghijké" ≠ .panicked) := by
  decide

end HomeCore
