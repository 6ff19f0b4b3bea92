import Chassis.AuthSettings
import Chassis.Json

set_option autoImplicit false

namespace Chassis.Auth

-- Exceptions from the JWT library, from the key set check, and from elsewhere.
inductive Failure where
  | invalidToken
  | jwksWithoutKeys
  | other
deriving DecidableEq, Repr

structure Jwks where
  members : List (Str × Json)
  keys : List Json
  found : Json.member "keys".toList members = some (.array keys)
  nonempty : keys ≠ []

-- A payload that is no object has no get, and the AttributeError is caught
-- with all the others.
def validateJwksPayload (payload : Json) : Except Failure Jwks :=
  match payload with
  | .object members =>
      match found : Json.member "keys".toList members with
      | some (.array keys) =>
          if nonempty : keys ≠ [] then .ok ⟨members, keys, found, nonempty⟩ else .error .jwksWithoutKeys
      | _ => .error .jwksWithoutKeys
  | _ => .error .other

-- The unverified header, as far as it is read. The library lets no kid through
-- that is not text.
structure TokenHeader where
  kid : Option Str

inductive VerificationKey (κ : Type) where
  | sharedSecret (secret : Str)
  | publicKey (pem : Str)
  | jwk (key : κ)

structure DecodeCall (κ : Type) where
  token : Str
  key : VerificationKey κ
  algorithms : List Str
  audience : Option Str
  issuer : Option Str
  leeway : Int
  require : List Str
  verifyAud : Bool
  verifyIss : Bool

abbrev Claims := List (Str × Json)

structure JwtLibrary (κ : Type) where
  unverifiedHeader : Str → Except Failure TokenHeader
  fromDict : List (Str × Json) → Except Failure κ
  decode : DecodeCall κ → Except Failure Claims

inductive KeyFailure where
  | missingKid
  | noMatchingKey
  | noKeyMaterial
  | raised (failure : Failure)
deriving DecidableEq, Repr

def KeyFailure.message : KeyFailure → Option Str
  | .missingKid => some "JWT is missing kid header required for JWKS".toList
  | .noMatchingKey => some "No matching signing key found".toList
  | .noKeyMaterial => some "JWT validation is enabled but no key material is configured".toList
  | .raised _ => none

variable {κ : Type}

def hasKid (members : List (Str × Json)) (kid : Str) : Bool :=
  match Json.member "kid".toList members with
  | some (.str text) => text = kid
  | _ => false

-- An entry that is no object has no get.
def keyForKid (library : JwtLibrary κ) (kid : Str) : List Json → Except Failure (Option κ)
  | [] => .ok none
  | .object members :: rest =>
      if hasKid members kid then (library.fromDict members).map some else keyForKid library kid rest
  | _ :: _ => .error .other

def getJwkKeyForKid (library : JwtLibrary κ) (jwks : Jwks) (kid : Str) : Except Failure (Option κ) :=
  keyForKid library kid jwks.keys

def usesSharedSecret (settings : Settings) : Bool :=
  settings.authJwtAlgorithms.any (startsWith "HS".toList)

-- fetch stands for _fetch_jwks: what it returns for each value of force_refresh.
def lookupKey (library : JwtLibrary κ) (fetch : Bool → Except Failure Jwks) (kid : Str) (forceRefresh : Bool) :
    Except Failure (Option κ) := do
  let jwks ← fetch forceRefresh
  getJwkKeyForKid library jwks kid

def resolveJwksKey (library : JwtLibrary κ) (fetch : Bool → Except Failure Jwks) (kid : Str) :
    Except KeyFailure (VerificationKey κ) :=
  match lookupKey library fetch kid false with
  | .error failure => .error (.raised failure)
  | .ok (some key) => .ok (.jwk key)
  | .ok none =>
      match lookupKey library fetch kid true with
      | .error failure => .error (.raised failure)
      | .ok (some key) => .ok (.jwk key)
      | .ok none => .error .noMatchingKey

def resolveKey (library : JwtLibrary κ) (settings : Settings) (fetch : Bool → Except Failure Jwks) (token : Str) :
    Except KeyFailure (VerificationKey κ) :=
  if settings.authJwksUrl ≠ [] then
    match library.unverifiedHeader token with
    | .error failure => .error (.raised failure)
    | .ok header =>
        match header.kid with
        | none => .error .missingKid
        | some kid => if kid = [] then .error .missingKid else resolveJwksKey library fetch kid
  else if settings.authJwtPublicKey ≠ [] then .ok (.publicKey settings.authJwtPublicKey)
  else if usesSharedSecret settings then .ok (.sharedSecret settings.authJwtSecret)
  else .error .noKeyMaterial

def orNone (text : Str) : Option Str := if text = [] then none else some text

def decodeCall (settings : Settings) (token : Str) (key : VerificationKey κ) : DecodeCall κ :=
  { token := token
    key := key
    algorithms := settings.authJwtAlgorithms
    audience := orNone settings.authJwtAudience
    issuer := orNone settings.authJwtIssuer
    leeway := settings.authClockSkewSeconds
    require := if settings.authRequireExp then ["sub".toList, "exp".toList] else ["sub".toList]
    verifyAud := settings.authJwtAudience ≠ []
    verifyIss := settings.authJwtIssuer ≠ [] }

-- authenticate_token up to the claims, with the messages of its
-- AuthenticationError. The second component is the call of jwt.decode it made.
def authenticateClaims (library : JwtLibrary κ) (settings : Settings) (fetch : Bool → Except Failure Jwks)
    (token : Str) : Except Str Claims × Option (DecodeCall κ) :=
  if settings.authEnabled = false then (.error "Authentication is disabled".toList, none)
  else
    match resolveKey library settings fetch token with
    | .error (.raised .invalidToken) => (.error "Token validation failed".toList, none)
    | .error _ => (.error "Token authentication failed".toList, none)
    | .ok key =>
        let call := decodeCall settings token key
        match library.decode call with
        | .error .invalidToken => (.error "Token validation failed".toList, some call)
        | .error _ => (.error "Token authentication failed".toList, some call)
        | .ok claims => (.ok claims, some call)

def EntryKey (library : JwtLibrary κ) (fetch : Bool → Except Failure Jwks) (kid : Str) (key : κ) : Prop :=
  ∃ forceRefresh jwks members, fetch forceRefresh = .ok jwks ∧ Json.object members ∈ jwks.keys ∧
    hasKid members kid = true ∧ library.fromDict members = .ok key

theorem key_for_kid_some (library : JwtLibrary κ) (kid : Str) (entries : List Json) (key : κ)
    (found : keyForKid library kid entries = .ok (some key)) :
    ∃ members, Json.object members ∈ entries ∧ hasKid members kid = true ∧ library.fromDict members = .ok key := by
  induction entries with
  | nil => cases found
  | cons entry rest ih =>
      cases entry with
      | object members =>
          by_cases named : hasKid members kid = true
          · rw [keyForKid, if_pos named] at found
            cases loaded : library.fromDict members with
            | error failure => simp [loaded, Except.map] at found
            | ok value =>
                have same : value = key := by simpa [loaded, Except.map] using found
                exact ⟨members, by simp, named, same ▸ loaded⟩
          · rw [keyForKid, if_neg named] at found
            obtain ⟨other, member, kidMatches, loaded⟩ := ih found
            exact ⟨other, by simp [member], kidMatches, loaded⟩
      | null => cases found
      | bool value => cases found
      | int value => cases found
      | float value => cases found
      | str text => cases found
      | array items => cases found

theorem lookup_key_some (library : JwtLibrary κ) (fetch : Bool → Except Failure Jwks) (kid : Str)
    (forceRefresh : Bool) (key : κ) (found : lookupKey library fetch kid forceRefresh = .ok (some key)) :
    EntryKey library fetch kid key := by
  obtain ⟨jwks, fetched, listed⟩ := bind_ok _ _ _ found
  obtain ⟨members, member, named, loaded⟩ := key_for_kid_some library kid jwks.keys key listed
  exact ⟨forceRefresh, jwks, members, fetched, member, named, loaded⟩

theorem resolve_jwks_key_ok (library : JwtLibrary κ) (fetch : Bool → Except Failure Jwks) (kid : Str)
    (key : VerificationKey κ) (resolved : resolveJwksKey library fetch kid = .ok key) :
    ∃ entry, key = .jwk entry ∧ EntryKey library fetch kid entry := by
  unfold resolveJwksKey at resolved
  cases first : lookupKey library fetch kid false with
  | error failure => simp [first] at resolved
  | ok answer =>
      cases answer with
      | some entry =>
          have same : key = .jwk entry := by simpa [first, eq_comm] using resolved
          exact ⟨entry, same, lookup_key_some library fetch kid false entry first⟩
      | none =>
          cases second : lookupKey library fetch kid true with
          | error failure => simp [first, second] at resolved
          | ok answer =>
              cases answer with
              | some entry =>
                  have same : key = .jwk entry := by simpa [first, second, eq_comm] using resolved
                  exact ⟨entry, same, lookup_key_some library fetch kid true entry second⟩
              | none => simp [first, second] at resolved

theorem resolve_jwks_key_material (library : JwtLibrary κ) (fetch : Bool → Except Failure Jwks) (kid : Str) :
    resolveJwksKey library fetch kid ≠ .error .noKeyMaterial := by
  unfold resolveJwksKey
  cases lookupKey library fetch kid false with
  | error failure => simp
  | ok answer =>
      cases answer with
      | some entry => simp
      | none =>
          cases lookupKey library fetch kid true with
          | error failure => simp
          | ok answer => cases answer <;> simp

theorem uses_shared_secret (settings : Settings) :
    usesSharedSecret settings = true ↔
      ∃ algorithm ∈ settings.authJwtAlgorithms, startsWith "HS".toList algorithm = true := by
  simp [usesSharedSecret]

theorem resolve_shared (library : JwtLibrary κ) (settings : Settings) (fetch : Bool → Except Failure Jwks)
    (token : Str) (mode : SharedSecretSettings settings) :
    resolveKey library settings fetch token = .ok (.sharedSecret settings.authJwtSecret) := by
  obtain ⟨algorithm, listed⟩ := List.exists_mem_of_ne_nil _ mode.present
  have shared := (uses_shared_secret settings).mpr ⟨algorithm, listed, mode.algorithms algorithm listed⟩
  rw [resolveKey, if_neg (not_not.mpr mode.noJwks), if_neg (not_not.mpr mode.noPublicKey), if_pos shared]

def AsymmetricKey (library : JwtLibrary κ) (settings : Settings) (fetch : Bool → Except Failure Jwks) (token : Str)
    (key : VerificationKey κ) : Prop :=
  (settings.authJwtPublicKey ≠ [] ∧ key = .publicKey settings.authJwtPublicKey) ∨
    ∃ header kid entry, library.unverifiedHeader token = .ok header ∧ header.kid = some kid ∧ kid ≠ [] ∧
      key = .jwk entry ∧ EntryKey library fetch kid entry

theorem resolve_asymmetric (library : JwtLibrary κ) (settings : Settings) (fetch : Bool → Except Failure Jwks)
    (token : Str) (mode : AsymmetricSettings settings) :
    resolveKey library settings fetch token ≠ .error .noKeyMaterial ∧
      ∀ key, resolveKey library settings fetch token = .ok key → AsymmetricKey library settings fetch token key := by
  by_cases jwksMode : settings.authJwksUrl ≠ []
  · rw [resolveKey, if_pos jwksMode]
    cases read : library.unverifiedHeader token with
    | error failure => exact ⟨by simp, by simp⟩
    | ok header =>
        cases named : header.kid with
        | none => exact ⟨by simp [named], by simp [named]⟩
        | some kid =>
            by_cases empty : kid = []
            · exact ⟨by simp [named, empty], by simp [named, empty]⟩
            · simp only [named, if_neg empty]
              refine ⟨resolve_jwks_key_material library fetch kid, ?_⟩
              intro key resolved
              obtain ⟨entry, same, source⟩ := resolve_jwks_key_ok library fetch kid key resolved
              exact .inr ⟨header, kid, entry, read, named, empty, same, source⟩
  · have publicKey : settings.authJwtPublicKey ≠ [] := mode.material.resolve_left jwksMode
    rw [resolveKey, if_neg jwksMode, if_pos publicKey]
    refine ⟨by simp, ?_⟩
    intro key resolved
    exact .inl ⟨publicKey, (Except.ok.inj resolved).symm⟩

theorem decode_called (library : JwtLibrary κ) (settings : Settings) (fetch : Bool → Except Failure Jwks)
    (token : Str) (call : DecodeCall κ) (made : (authenticateClaims library settings fetch token).2 = some call) :
    ∃ key, resolveKey library settings fetch token = .ok key ∧ call = decodeCall settings token key := by
  unfold authenticateClaims at made
  by_cases disabled : settings.authEnabled = false
  · simp [disabled] at made
  · rw [if_neg disabled] at made
    cases resolved : resolveKey library settings fetch token with
    | error failure =>
        rw [resolved] at made
        cases failure with
        | raised cause => cases cause <;> cases made
        | missingKid => cases made
        | noMatchingKey => cases made
        | noKeyMaterial => cases made
    | ok key =>
        rw [resolved] at made
        refine ⟨key, rfl, ?_⟩
        cases decoded : library.decode (decodeCall settings token key) with
        | ok claims => simpa [decoded, eq_comm] using made
        | error failure => cases failure <;> simpa [decoded, eq_comm] using made

theorem no_key_algorithm_confusion (library : JwtLibrary κ) (settings : Settings)
    (enabled : settings.authEnabled = true) (accepted : validateAuthSettings settings = .ok ()) :
    Xor
      ((∀ algorithm ∈ settings.authJwtAlgorithms, startsWith "HS".toList algorithm = true) ∧
        32 ≤ settings.authJwtSecret.length ∧
        ∀ fetch token key, resolveKey library settings fetch token = .ok key →
          key = .sharedSecret settings.authJwtSecret)
      ((∀ algorithm ∈ settings.authJwtAlgorithms, startsWith "HS".toList algorithm = false) ∧
        settings.authJwtSecret = [] ∧
        ∀ fetch token key, resolveKey library settings fetch token = .ok key →
          AsymmetricKey library settings fetch token key) ∧
    ∀ fetch token,
      resolveKey library settings fetch token ≠ .error .noKeyMaterial ∧
      ∀ call, (authenticateClaims library settings fetch token).2 = some call →
        ((∃ secret, call.key = .sharedSecret secret) →
          ∀ algorithm ∈ call.algorithms, startsWith "HS".toList algorithm = true) ∧
        ((∀ secret, call.key ≠ .sharedSecret secret) →
          ∀ algorithm ∈ call.algorithms, startsWith "HS".toList algorithm = false) := by
  cases auth_settings_accepted settings enabled accepted with
  | inl mode =>
      have resolved := resolve_shared library settings
      constructor
      · refine .inl ⟨⟨mode.algorithms, mode.secret, ?_⟩, ?_⟩
        · intro fetch token key found
          exact Except.ok.inj (found.symm.trans (resolved fetch token mode))
        · intro asymmetric
          obtain ⟨algorithm, listed⟩ := List.exists_mem_of_ne_nil _ mode.present
          have shared := mode.algorithms algorithm listed
          rw [asymmetric.1 algorithm listed] at shared
          cases shared
      · intro fetch token
        refine ⟨by simp [resolved fetch token mode], ?_⟩
        intro call made
        obtain ⟨key, found, same⟩ := decode_called library settings fetch token call made
        refine ⟨fun _ => same ▸ mode.algorithms, ?_⟩
        intro noSecret
        rw [resolved fetch token mode] at found
        exact absurd (by rw [same, ← Except.ok.inj found]; rfl) (noSecret settings.authJwtSecret)
  | inr mode =>
      have resolved := fun fetch token => resolve_asymmetric library settings fetch token mode
      constructor
      · refine .inr ⟨⟨mode.algorithms, mode.noSecret, fun fetch token => (resolved fetch token).2⟩, ?_⟩
        intro shared
        have long := shared.2.1
        rw [mode.noSecret] at long
        cases long
      · intro fetch token
        refine ⟨(resolved fetch token).1, ?_⟩
        intro call made
        obtain ⟨key, found, same⟩ := decode_called library settings fetch token call made
        refine ⟨?_, fun _ => same ▸ mode.algorithms⟩
        intro secret
        obtain ⟨text, used⟩ := secret
        rw [same] at used
        cases (resolved fetch token).2 key found with
        | inl publicKey =>
            have clash := publicKey.2.symm.trans used
            cases clash
        | inr entry =>
            obtain ⟨_, _, _, _, _, _, fromEntry, _⟩ := entry
            have clash := fromEntry.symm.trans used
            cases clash

def oneKeyLibrary : JwtLibrary Unit where
  unverifiedHeader := fun _ => .ok ⟨some "k1".toList⟩
  fromDict := fun _ => .ok ()
  decode := fun _ => .ok []

def jwksSettings : Settings :=
  { authEnabled := true
    authJwtIssuer := "issuer".toList
    authJwtAudience := "api".toList
    authJwtAlgorithms := ["RS256".toList, "RS512".toList]
    authJwksUrl := "https://issuer/jwks".toList }

def oneKeySet : Jwks where
  members := [("keys".toList, .array [.object [("kid".toList, Json.text "k1")]])]
  keys := [.object [("kid".toList, Json.text "k1")]]
  found := rfl
  nonempty := List.cons_ne_nil _ _

theorem no_key_algorithm_confusion_jwks :
    resolveKey oneKeyLibrary jwksSettings (fun _ => .ok oneKeySet) "token".toList = .ok (.jwk ()) ∧
    resolveKey oneKeyLibrary jwksSettings (fun _ => .ok oneKeySet) "token".toList ≠ .error .noKeyMaterial :=
  ⟨rfl, ((no_key_algorithm_confusion oneKeyLibrary jwksSettings rfl rfl).2 (fun _ => .ok oneKeySet) "token".toList).1⟩

end Chassis.Auth
