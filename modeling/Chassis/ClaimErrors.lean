import Chassis.Claims
import Chassis.JsonDumps

set_option autoImplicit false

namespace Chassis.Auth

open JsonText

variable {κ : Type}

section Normalizing

variable (interpreter : Interpreter)

def Unguarded (text : Str) : Prop := ∃ raised, loads interpreter text = .error raised ∧ raised ≠ .jsonDecodeError

def UnguardedRoles (value : Json) : Prop :=
  ∃ text, value = .str text ∧ startsWith "[".toList text = true ∧ Unguarded interpreter text

def Bears (value : Json) : Prop := Within interpreter (interpreter.nesting + 1) value

theorem bears_single (value : Json) (bears : Bears interpreter value) :
    ∃ texts, (str interpreter value).map (fun text => [text]) = .ok texts := by
  obtain ⟨text, shown⟩ := str_within interpreter value bears
  exact ⟨[text], by rw [shown]; rfl⟩

theorem optional_str_ok (value : Json) (bears : Bears interpreter value) :
    ∃ text, claimAsOptionalStr interpreter value = .ok text := by
  unfold claimAsOptionalStr
  split
  next => exact ⟨none, rfl⟩
  next =>
    obtain ⟨text, shown⟩ := str_within interpreter value bears
    exact ⟨some text, by rw [shown]; rfl⟩

theorem audience_ok (value : Json) (bears : Bears interpreter value) :
    ∃ audience, normalizeAudience interpreter value = .ok audience := by
  unfold normalizeAudience
  split
  next => exact ⟨[], rfl⟩
  next items => exact items_str interpreter items bears
  next => exact bears_single interpreter value bears

theorem scopes_ok (value : Json) (bears : Bears interpreter value) :
    ∃ scopes, normalizeScopes interpreter value = .ok scopes := by
  unfold normalizeScopes
  split
  next => exact ⟨[], rfl⟩
  next text => exact ⟨_, rfl⟩
  next items => exact items_str interpreter items bears
  next => exact bears_single interpreter value bears

theorem text_roles_ok (text : Str) (guarded : ¬ (startsWith "[".toList text = true ∧ Unguarded interpreter text)) :
    ∃ roles, normalizeRoles interpreter (.str text) = .ok roles := by
  simp only [normalizeRoles]
  by_cases bracket : startsWith "[".toList text = true
  · rw [if_pos bracket]
    cases read : loads interpreter text with
    | ok decoded =>
        cases decoded with
        | array items => exact items_str interpreter items (loads_within interpreter text _ read)
        | null => exact ⟨_, rfl⟩
        | bool value => exact ⟨_, rfl⟩
        | int n => exact ⟨_, rfl⟩
        | float value => exact ⟨_, rfl⟩
        | str contents => exact ⟨_, rfl⟩
        | object members => exact ⟨_, rfl⟩
    | error raised =>
        cases raised with
        | jsonDecodeError => exact ⟨_, rfl⟩
        | valueError => exact absurd ⟨bracket, _, read, by simp⟩ guarded
        | recursionError => exact absurd ⟨bracket, _, read, by simp⟩ guarded
  · rw [if_neg bracket]
    exact ⟨_, rfl⟩

theorem roles_ok (value : Json) (bears : Bears interpreter value) (guarded : ¬ UnguardedRoles interpreter value) :
    ∃ roles, normalizeRoles interpreter value = .ok roles := by
  cases value with
  | str text => exact text_roles_ok interpreter text (fun bad => guarded ⟨text, rfl, bad⟩)
  | null => exact ⟨[], rfl⟩
  | array items => exact items_str interpreter items bears
  | bool value => exact bears_single interpreter _ bears
  | int n => exact bears_single interpreter _ bears
  | float value => exact bears_single interpreter _ bears
  | object members => exact bears_single interpreter _ bears

theorem unguarded_roles_raise (value : Json) (bad : UnguardedRoles interpreter value) :
    ∃ raised, normalizeRoles interpreter value = .error raised := by
  obtain ⟨text, rfl, bracket, raised, failed, other⟩ := bad
  refine ⟨raised, ?_⟩
  rw [normalizeRoles, if_pos bracket, failed]
  cases raised with
  | jsonDecodeError => exact absurd rfl other
  | valueError => rfl
  | recursionError => rfl

theorem member_mem (name : Str) (members : List (Str × Json)) (value : Json) (found : Json.member name members = some value) :
    (name, value) ∈ members := by
  induction members with
  | nil => cases found
  | cons member rest ih =>
      obtain ⟨other, stored⟩ := member
      by_cases same : other = name
      · rw [Json.member, if_pos same] at found
        cases found
        simp [same]
      · rw [Json.member, if_neg same] at found
        simp [ih found]

theorem claim_bears (claims : Claims) (bears : Bears interpreter (.object claims)) (name : String) :
    Bears interpreter (claim name claims) := by
  unfold claim
  cases found : Json.member name.toList claims with
  | none => trivial
  | some value => exact within_succ interpreter _ value (bears (name.toList, value) (member_mem _ claims value found))

theorem scope_claim_bears (claims : Claims) (bears : Bears interpreter (.object claims)) :
    Bears interpreter (scopeClaim claims) := by
  unfold scopeClaim
  split
  next => exact claim_bears interpreter claims bears "scope"
  next => exact claim_bears interpreter claims bears "scp"

theorem principal_of_iff (claims : Claims) (sub : Json) (bears : Bears interpreter (.object claims))
    (found : Json.member "sub".toList claims = some sub) :
    (∃ principal, principalOf interpreter claims = .ok principal) ↔ ¬ UnguardedRoles interpreter (claim "roles" claims) := by
  have subjectBears := within_succ interpreter _ sub (bears ("sub".toList, sub) (member_mem _ claims sub found))
  obtain ⟨subject, shown⟩ := str_within interpreter sub subjectBears
  obtain ⟨issuer, issued⟩ := optional_str_ok interpreter _ (claim_bears interpreter claims bears "iss")
  obtain ⟨audience, heard⟩ := audience_ok interpreter _ (claim_bears interpreter claims bears "aud")
  obtain ⟨scopes, listed⟩ := scopes_ok interpreter _ (scope_claim_bears interpreter claims bears)
  constructor
  · rintro ⟨principal, built⟩ bad
    obtain ⟨raised, failed⟩ := unguarded_roles_raise interpreter _ bad
    obtain ⟨_, _, _, granted⟩ := principal_of_ok interpreter claims principal built
    rw [failed] at granted
    cases granted
  · intro guarded
    obtain ⟨roles, granted⟩ := roles_ok interpreter _ (claim_bears interpreter claims bears "roles") guarded
    refine ⟨⟨subject, issuer, audience, scopes, roles, claims⟩, ?_⟩
    rw [principalOf, found]
    simp [shown, issued, heard, listed, granted, bind, Except.bind, Except.mapError]

theorem principal_of_no_authentication_error (claims : Claims) (message : Str) :
    principalOf interpreter claims ≠ .error (.authenticationError message) := by
  intro raised
  unfold principalOf at raised
  split at raised
  next => cases raised
  next sub found =>
    simp only [Except.mapError] at raised
    split at raised <;> cases raised

end Normalizing

def Decoded (library : JwtLibrary κ) (settings : Settings) (fetch : Bool → Except Failure Jwks) (token : Str)
    (claims : Claims) : Prop :=
  settings.authEnabled = true ∧ ∃ key, resolveKey library settings fetch token = .ok key ∧
    library.decode (decodeCall settings token key) = .ok claims

theorem authenticate_claims_ok (library : JwtLibrary κ) (settings : Settings) (fetch : Bool → Except Failure Jwks)
    (token : Str) (claims : Claims) :
    (authenticateClaims library settings fetch token).1 = .ok claims ↔ Decoded library settings fetch token claims := by
  unfold authenticateClaims Decoded
  by_cases disabled : settings.authEnabled = false
  · simp [disabled]
  · rw [if_neg disabled]
    have enabled : settings.authEnabled = true := by simpa using disabled
    cases resolved : resolveKey library settings fetch token with
    | error failure =>
        cases failure with
        | raised cause => cases cause <;> simp
        | missingKid => simp
        | noMatchingKey => simp
        | noKeyMaterial => simp
    | ok key =>
        cases decoded : library.decode (decodeCall settings token key) with
        | ok found => simp [decoded, enabled]
        | error failure => cases failure <;> simp [decoded]

-- A principal, or an AuthenticationError and the 401 answer; nothing else
-- leaves authenticate_token or get_optional_principal.
def EndsProperly (authenticate : Str → Except TokenFailure Principal) (token : Str) : Prop :=
  (∃ principal, authenticate token = .ok principal ∧
      getOptionalPrincipal authenticate (some token) = .ok (some principal)) ∨
    ∃ message, authenticate token = .error (.authenticationError message) ∧
      getOptionalPrincipal authenticate (some token) = .error (.http (unauthorized "Invalid bearer token"))

theorem ends_properly_iff (authenticate : Str → Except TokenFailure Principal) (token : Str) :
    EndsProperly authenticate token ↔
      (∃ principal, authenticate token = .ok principal) ∨ ∃ message, authenticate token = .error (.authenticationError message) := by
  constructor
  · rintro (⟨principal, done, _⟩ | ⟨message, done, _⟩)
    · exact .inl ⟨principal, done⟩
    · exact .inr ⟨message, done⟩
  · rintro (⟨principal, done⟩ | ⟨message, done⟩)
    · exact .inl ⟨principal, done, by simp [getOptionalPrincipal, done]⟩
    · exact .inr ⟨message, done, by simp [getOptionalPrincipal, done]⟩

theorem bad_token_ends_properly_iff (interpreter : Interpreter) (library : JwtLibrary κ) (settings : Settings)
    (fetch : Bool → Except Failure Jwks) (token : Str) (contract : JwtContract library interpreter) :
    EndsProperly (authenticateToken interpreter library settings fetch) token ↔
      ∀ claims, Decoded library settings fetch token claims → ¬ UnguardedRoles interpreter (claim "roles" claims) := by
  rw [ends_properly_iff]
  cases done : (authenticateClaims library settings fetch token).1 with
  | error message =>
      have ends : authenticateToken interpreter library settings fetch token = .error (.authenticationError message) := by
        rw [authenticateToken, done]
      refine ⟨fun _ claims decoded => ?_, fun _ => .inr ⟨message, ends⟩⟩
      rw [(authenticate_claims_ok library settings fetch token claims).mpr decoded] at done
      cases done
  | ok claims =>
      have ends : authenticateToken interpreter library settings fetch token = principalOf interpreter claims := by
        rw [authenticateToken, done]
      have decoded := (authenticate_claims_ok library settings fetch token claims).mp done
      obtain ⟨_, key, _, returned⟩ := id decoded
      obtain ⟨text, read⟩ := contract.payload _ claims returned
      have asked : "sub".toList ∈ (decodeCall settings token key).require := by
        simp only [decodeCall]
        split <;> simp
      obtain ⟨sub, found⟩ := contract.required _ claims "sub".toList returned asked
      have built := principal_of_iff interpreter claims sub (loads_within interpreter text _ read) found
      rw [ends]
      constructor
      · rintro (principal | ⟨message, failed⟩) other otherDecoded
        · have same := (authenticate_claims_ok library settings fetch token other).mpr otherDecoded
          rw [done] at same
          cases same
          exact built.mp principal
        · exact absurd failed (principal_of_no_authentication_error interpreter claims message)
      · intro guarded
        exact .inl (built.mpr (guarded claims decoded))

theorem scan_items_raise {α : Type} (item : Scanner α) (close : Char) (text : Str) (raised : PyException)
    (failed : item.run text = .error raised) : scanItems item close text = .error raised := by
  rw [scanItems]
  split
  next other found =>
    exact congrArg Except.error (Except.error.inj (found.symm.trans failed))
  next value rest found =>
    rw [failed] at found
    cases found

theorem overlong_number_raises (interpreter : Interpreter) (digits : Str) (all : ∀ c ∈ digits, c.isDigit = true)
    (long : interpreter.intMaxStrDigits < digits.length + 1) :
    scanNumber interpreter ('1' :: (digits ++ [']'])) = .error .valueError := by
  have taken : (digits ++ [']']).takeWhile Char.isDigit = digits := by
    rw [List.takeWhile_append_of_pos all]
    simp
  have dropped : (digits ++ [']']).dropWhile Char.isDigit = [']'] := by
    rw [List.dropWhile_append_of_pos all]
    simp
  have read : scanInteger (unsigned ('1' :: (digits ++ [']']))) = .ok ('1' :: digits, [']']) := by
    have same : unsigned ('1' :: (digits ++ [']'])) = '1' :: (digits ++ [']']) := if_neg (by simp [isNegative])
    simp [same, scanInteger, taken, dropped]
  have fraction : scanFraction [']'] = ([], [']']) := rfl
  have exponent : scanExponent [']'] = ([], [']']) := rfl
  rw [scanNumber, read]
  simp [fraction, exponent, numberValue, long, Except.map]

theorem overlong_roles_unguarded (interpreter : Interpreter) (digits : Str) (all : ∀ c ∈ digits, c.isDigit = true)
    (long : interpreter.intMaxStrDigits < digits.length + 1) :
    loads interpreter ('[' :: '1' :: (digits ++ [']'])) = .error .valueError := by
  have leaf : (scanValue interpreter interpreter.nesting).run ('1' :: (digits ++ [']'])) = .error .valueError := by
    have unlike : (literals interpreter).find? (fun literal => literal.1.isPrefixOf ('1' :: (digits ++ [']']))) = none := by
      simp [literals]
    have number := overlong_number_raises interpreter digits all long
    have inner (nested : Option (Scanner Json)) :
        scanNested interpreter nested ('1' :: (digits ++ [']'])) = .error .valueError := by
      change scanLeaf interpreter ('1' :: (digits ++ [']'])) = _
      rw [scanLeaf, unlike]
      exact number
    cases interpreter.nesting with
    | zero => exact inner none
    | succ depth => exact inner (some (scanValue interpreter depth))
  have items := scan_items_raise _ ']' _ _ leaf
  have skipped := skip_cons '1' (digits ++ [']']) rfl
  rw [loads, if_neg (by simp), skip_cons '[' _ rfl, scan_value_array, scanBody, skipped, if_neg (by simp), items]
  rfl

def cpython : Interpreter where
  intMaxStrDigits := 4300
  nesting := 1000
  float := fun _ => 0
  floatRepr := fun _ => "0.0".toList
  surrogate := fun _ => '?'
  isPrintable := fun _ => true

def signedClaims (roles : Str) : Claims := [("sub".toList, .str "user-1".toList), ("roles".toList, .str roles)]

def signedLibrary (roles : Str) : JwtLibrary Unit where
  unverifiedHeader := fun _ => .ok ⟨none⟩
  fromDict := fun _ => .error .other
  decode := fun call =>
    if call.token = "signed".toList ∧ call.require.all (fun name => (Json.member name (signedClaims roles)).isSome) = true
    then .ok (signedClaims roles) else .error .invalidToken

def sharedSecretSettings : Settings :=
  { authEnabled := true
    authJwtSecret := List.replicate 32 's'
    authRequireExp := false
    authRequireIssuer := false
    authRequireAudience := false }

example : validateAuthSettings sharedSecretSettings = .ok () := by rfl

theorem signed_contract (roles : Str) : JwtContract (signedLibrary roles) cpython := by
  constructor
  · intro call claims name decoded asked
    simp only [signedLibrary] at decoded
    split at decoded
    next checked =>
      cases decoded
      exact Option.isSome_iff_exists.mp (List.all_eq_true.mp checked.2 name asked)
    next => cases decoded
  · intro call claims decoded
    simp only [signedLibrary] at decoded
    split at decoded
    next checked =>
      cases decoded
      exact ⟨_, loads_dumps_dict cpython ⟨true, false⟩ [("sub".toList, "user-1".toList), ("roles".toList, roles)]⟩
    next => cases decoded

def overlongRoles (count : Nat) : Str := '[' :: '1' :: (List.replicate count '1' ++ [']'])

def noFetch (_ : Bool) : Except Failure Jwks := .error .other

theorem signed_sub (roles : Str) : Json.member "sub".toList (signedClaims roles) = some (.str "user-1".toList) := by
  simp [signedClaims, Json.member]

theorem signed_decoded (roles : Str) :
    Decoded (signedLibrary roles) sharedSecretSettings noFetch "signed".toList (signedClaims roles) := by
  refine ⟨rfl, .sharedSecret (List.replicate 32 's'), ?_, ?_⟩
  · simp [resolveKey, sharedSecretSettings, usesSharedSecret, startsWith]
  · have asked : ["sub".toList].all (fun name => (Json.member name (signedClaims roles)).isSome) = true := by
      rw [List.all_cons, signed_sub]
      rfl
    simp only [signedLibrary]
    rw [if_pos]
    exact ⟨rfl, asked⟩

theorem bad_token_ends_properly_iff_signed :
    EndsProperly (authenticateToken cpython (signedLibrary "[invalid".toList) sharedSecretSettings noFetch) "signed".toList ↔
      ∀ claims, Decoded (signedLibrary "[invalid".toList) sharedSecretSettings noFetch "signed".toList claims →
        ¬ UnguardedRoles cpython (claim "roles" claims) :=
  bad_token_ends_properly_iff cpython (signedLibrary "[invalid".toList) sharedSecretSettings noFetch "signed".toList
    (signed_contract "[invalid".toList)

theorem overlong_roles_raise (count : Nat) (long : 4300 ≤ count) :
    authenticateToken cpython (signedLibrary (overlongRoles count)) sharedSecretSettings noFetch "signed".toList =
      .error (.raised .valueError) := by
  have digits : ∀ c ∈ List.replicate count '1', c.isDigit = true := by
    intro c member
    rw [List.eq_of_mem_replicate member]
    rfl
  have loaded := overlong_roles_unguarded cpython (List.replicate count '1') digits
    (by rw [List.length_replicate]; exact Nat.lt_succ_of_le long)
  have decoded := (authenticate_claims_ok _ _ _ _ _).mpr (signed_decoded (overlongRoles count))
  have roles : normalizeRoles cpython (claim "roles" (signedClaims (overlongRoles count))) = .error .valueError := by
    have bracket : startsWith "[".toList (overlongRoles count) = true := by simp [startsWith, overlongRoles]
    have named : claim "roles" (signedClaims (overlongRoles count)) = .str (overlongRoles count) := by
      simp [claim, signedClaims, Json.member]
    rw [named, normalizeRoles, if_pos bracket, overlongRoles, loaded]
  have issuer : claim "iss" (signedClaims (overlongRoles count)) = .null := by simp [claim, signedClaims, Json.member]
  have audience : claim "aud" (signedClaims (overlongRoles count)) = .null := by simp [claim, signedClaims, Json.member]
  have scopes : scopeClaim (signedClaims (overlongRoles count)) = .null := by
    simp [scopeClaim, claim, signedClaims, Json.member, truthy]
  rw [authenticateToken, decoded]
  simp only
  rw [principalOf, signed_sub]
  simp [issuer, audience, scopes, roles, str, claimAsOptionalStr, normalizeAudience, normalizeScopes, bind, Except.bind,
    Except.mapError]

theorem overlong_roles_escape :
    getOptionalPrincipal (authenticateToken cpython (signedLibrary (overlongRoles 4300)) sharedSecretSettings noFetch)
        (some "signed".toList) = .error (.raised (.raised .valueError)) ∧
      ¬ ∀ (interpreter : Interpreter) (library : JwtLibrary Unit) (settings : Settings)
        (fetch : Bool → Except Failure Jwks) (token : Str), JwtContract library interpreter →
        EndsProperly (authenticateToken interpreter library settings fetch) token := by
  have raises := overlong_roles_raise 4300 (Nat.le_refl _)
  constructor
  · rw [getOptionalPrincipal, raises]
  · intro claim
    have ends := claim cpython (signedLibrary (overlongRoles 4300)) sharedSecretSettings noFetch "signed".toList
      (signed_contract _)
    rw [ends_properly_iff, raises] at ends
    rcases ends with ⟨principal, done⟩ | ⟨message, done⟩
    · cases done
    · cases done

end Chassis.Auth
