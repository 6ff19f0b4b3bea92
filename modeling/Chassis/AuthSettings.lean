import Chassis.Dict
import Chassis.Text
import Mathlib.Data.List.Dedup

set_option autoImplicit false

namespace Chassis.Auth

structure Settings where
  authEnabled : Bool := false
  authJwtIssuer : Str := []
  authJwtAudience : Str := []
  authJwtAlgorithms : List Str := ["HS256".toList]
  authJwtSecret : Str := []
  authJwtPublicKey : Str := []
  authJwksUrl : Str := []
  authRequireExp : Bool := true
  authRequireIssuer : Bool := true
  authRequireAudience : Bool := true
  authJwksCacheTtlSeconds : Int := 300
  authJwksMaxStaleSeconds : Int := 3600
  authClockSkewSeconds : Int := 30

inductive AlgorithmFamily where
  | hs
  | rs
  | es
  | ps
  | edDSA
deriving DecidableEq, Repr

def AlgorithmFamily.stem : AlgorithmFamily → Str
  | .hs => "HS".toList
  | .rs => "RS".toList
  | .es => "ES".toList
  | .ps => "PS".toList
  | .edDSA => "EdDSA".toList

def startsWith (start text : Str) : Bool := start.isPrefixOf text

def raiseIf (condition : Prop) [Decidable condition] (message : String) : Except Str Unit :=
  if condition then .error message.toList else .ok ()

def jwtAlgorithmFamily (algorithm : Str) : Except Str AlgorithmFamily :=
  let families : List AlgorithmFamily := [.hs, .rs, .es, .ps, .edDSA]
  match families.find? (fun family => startsWith family.stem algorithm) with
  | some family => .ok family
  | none => .error ("Unsupported JWT algorithm family for ".toList ++ algorithm)

def validateAuthKeyMaterial (settings : Settings) (usesSharedSecret : Bool) : Except Str Unit := do
  raiseIf (usesSharedSecret = true ∧ settings.authJwtSecret.length < 32)
    "auth_jwt_secret must be at least 32 characters when HS* algorithms are enabled"
  raiseIf (usesSharedSecret = true ∧ (settings.authJwtPublicKey ≠ [] ∨ settings.authJwksUrl ≠ []))
    "HS* algorithms cannot be combined with APP_AUTH_JWT_PUBLIC_KEY or APP_AUTH_JWKS_URL"
  raiseIf (usesSharedSecret = false ∧ settings.authJwtSecret ≠ [])
    "APP_AUTH_JWT_SECRET cannot be set with asymmetric JWT algorithms"
  let hasKeyMaterial : Bool := settings.authJwksUrl ≠ [] || settings.authJwtPublicKey ≠ [] ||
    (settings.authJwtSecret ≠ [] && usesSharedSecret)
  raiseIf (hasKeyMaterial = false) "Authentication is enabled but no JWT verification material is configured"

def validateAuthClaimRequirements (settings : Settings) : Except Str Unit := do
  raiseIf (settings.authRequireIssuer = true ∧ settings.authJwtIssuer = [])
    "APP_AUTH_JWT_ISSUER must be set when authentication is enabled"
  raiseIf (settings.authRequireAudience = true ∧ settings.authJwtAudience = [])
    "APP_AUTH_JWT_AUDIENCE must be set when authentication is enabled"

def validateAuthSettings (settings : Settings) : Except Str Unit := do
  raiseIf (settings.authJwksUrl ≠ [] ∧ startsWith "https://".toList settings.authJwksUrl = false)
    "APP_AUTH_JWKS_URL must use https://"
  if settings.authEnabled = false then .ok ()
  else do
    let families ← settings.authJwtAlgorithms.mapM jwtAlgorithmFamily
    let algorithmFamilies := families.dedup
    raiseIf (algorithmFamilies.length ≠ 1) "APP_AUTH_JWT_ALGORITHMS must all belong to the same algorithm family"
    let usesSharedSecret : Bool := AlgorithmFamily.hs ∈ algorithmFamilies
    validateAuthKeyMaterial settings usesSharedSecret
    validateAuthClaimRequirements settings

theorem raise_if_ok (condition : Prop) [Decidable condition] (message : String) (result : Unit)
    (passed : raiseIf condition message = .ok result) : ¬ condition := by
  intro holds
  rw [raiseIf, if_pos holds] at passed
  cases passed

theorem family_hs (algorithm : Str) (family : AlgorithmFamily) (known : jwtAlgorithmFamily algorithm = .ok family) :
    family = .hs ↔ startsWith "HS".toList algorithm = true := by
  unfold jwtAlgorithmFamily at known
  constructor
  · intro shared
    cases found : [AlgorithmFamily.hs, .rs, .es, .ps, .edDSA].find? (fun family => startsWith family.stem algorithm) with
    | none => simp [found] at known
    | some chosen =>
        have same : chosen = family := by simpa [found] using known
        have matched := List.find?_some found
        rw [same, shared] at matched
        exact matched
  · intro matched
    have first : [AlgorithmFamily.hs, .rs, .es, .ps, .edDSA].find? (fun family => startsWith family.stem algorithm) =
        some .hs := List.find?_cons_of_pos matched
    simp only [first, Except.ok.injEq] at known
    exact known.symm

theorem families_of (algorithms : List Str) (families : List AlgorithmFamily)
    (known : algorithms.mapM jwtAlgorithmFamily = .ok families) :
    families.length = algorithms.length ∧
      ∀ algorithm ∈ algorithms, ∃ family ∈ families, jwtAlgorithmFamily algorithm = .ok family := by
  induction algorithms generalizing families with
  | nil =>
      cases known
      exact ⟨rfl, by simp⟩
  | cons algorithm rest ih =>
      rw [List.mapM_cons] at known
      obtain ⟨family, first, known⟩ := bind_ok _ _ _ known
      obtain ⟨others, later, known⟩ := bind_ok _ _ _ known
      cases known
      obtain ⟨length, read⟩ := ih others later
      refine ⟨by simp [length], ?_⟩
      intro other member
      cases List.mem_cons.mp member with
      | inl same => exact ⟨family, by simp, same ▸ first⟩
      | inr inRest =>
          obtain ⟨found, listed, parsed⟩ := read other inRest
          exact ⟨found, by simp [listed], parsed⟩

theorem families_uniform (families : List AlgorithmFamily) (single : families.dedup.length = 1) :
    ∃ family, family ∈ families ∧ ∀ other ∈ families, other = family := by
  obtain ⟨family, alone⟩ := List.length_eq_one_iff.mp single
  refine ⟨family, List.mem_dedup.mp (by simp [alone]), ?_⟩
  intro other member
  have listed := List.mem_dedup.mpr member
  rw [alone] at listed
  exact List.mem_singleton.mp listed

structure SharedSecretSettings (settings : Settings) : Prop where
  algorithms : ∀ algorithm ∈ settings.authJwtAlgorithms, startsWith "HS".toList algorithm = true
  present : settings.authJwtAlgorithms ≠ []
  secret : 32 ≤ settings.authJwtSecret.length
  noPublicKey : settings.authJwtPublicKey = []
  noJwks : settings.authJwksUrl = []

structure AsymmetricSettings (settings : Settings) : Prop where
  algorithms : ∀ algorithm ∈ settings.authJwtAlgorithms, startsWith "HS".toList algorithm = false
  present : settings.authJwtAlgorithms ≠ []
  noSecret : settings.authJwtSecret = []
  material : settings.authJwksUrl ≠ [] ∨ settings.authJwtPublicKey ≠ []

theorem key_material_accepted (settings : Settings) (usesSharedSecret : Bool)
    (accepted : validateAuthKeyMaterial settings usesSharedSecret = .ok ()) :
    (usesSharedSecret = true → 32 ≤ settings.authJwtSecret.length ∧ settings.authJwtPublicKey = [] ∧
      settings.authJwksUrl = []) ∧
    (usesSharedSecret = false → settings.authJwtSecret = [] ∧
      (settings.authJwksUrl ≠ [] ∨ settings.authJwtPublicKey ≠ [])) := by
  obtain ⟨_, longEnough, accepted⟩ := bind_ok _ _ _ accepted
  obtain ⟨_, alone, accepted⟩ := bind_ok _ _ _ accepted
  obtain ⟨_, noSecret, present⟩ := bind_ok _ _ _ accepted
  have longEnough := raise_if_ok _ _ _ longEnough
  have alone := raise_if_ok _ _ _ alone
  have noSecret := raise_if_ok _ _ _ noSecret
  have present := raise_if_ok _ _ _ present
  constructor
  · intro shared
    refine ⟨not_lt.mp (fun short => longEnough ⟨shared, short⟩), ?_, ?_⟩
    · exact not_not.mp (fun key => alone ⟨shared, .inl key⟩)
    · exact not_not.mp (fun url => alone ⟨shared, .inr url⟩)
  · intro asymmetric
    have empty : settings.authJwtSecret = [] := not_not.mp (fun secret => noSecret ⟨asymmetric, secret⟩)
    refine ⟨empty, ?_⟩
    simp only [empty, asymmetric, Bool.and_false, Bool.or_false, Bool.or_eq_false_iff, decide_eq_false_iff_not,
      not_and_or, not_not] at present
    exact present

theorem auth_settings_accepted (settings : Settings) (enabled : settings.authEnabled = true)
    (accepted : validateAuthSettings settings = .ok ()) :
    SharedSecretSettings settings ∨ AsymmetricSettings settings := by
  obtain ⟨_, _, accepted⟩ := bind_ok _ _ _ accepted
  rw [if_neg (by simp [enabled])] at accepted
  obtain ⟨families, known, accepted⟩ := bind_ok _ _ _ accepted
  obtain ⟨_, single, accepted⟩ := bind_ok _ _ _ accepted
  obtain ⟨_, material, _⟩ := bind_ok _ _ _ accepted
  obtain ⟨length, read⟩ := families_of _ _ known
  obtain ⟨family, member, uniform⟩ := families_uniform families (not_not.mp (raise_if_ok _ _ _ single))
  have present : settings.authJwtAlgorithms ≠ [] := by
    intro empty
    rw [empty, List.length_nil, List.length_eq_zero_iff] at length
    rw [length] at member
    cases member
  have named (algorithm : Str) (listed : algorithm ∈ settings.authJwtAlgorithms) :
      family = .hs ↔ startsWith "HS".toList algorithm = true := by
    obtain ⟨other, inFamilies, parsed⟩ := read algorithm listed
    exact uniform other inFamilies ▸ family_hs algorithm other parsed
  have inDedup : AlgorithmFamily.hs ∈ families.dedup ↔ family = .hs := by
    rw [List.mem_dedup]
    constructor
    · intro listed
      exact (uniform _ listed).symm
    · intro same
      exact same ▸ member
  have keys := key_material_accepted settings _ material
  by_cases shared : family = .hs
  · obtain ⟨secret, noPublicKey, noJwks⟩ := keys.1 (decide_eq_true (inDedup.mpr shared))
    exact .inl ⟨fun algorithm listed => (named algorithm listed).mp shared, present, secret, noPublicKey, noJwks⟩
  · obtain ⟨noSecret, either⟩ := keys.2 (decide_eq_false (fun listed => shared (inDedup.mp listed)))
    refine .inr ⟨?_, present, noSecret, either⟩
    intro algorithm listed
    exact Bool.eq_false_iff.mpr (fun matched => shared ((named algorithm listed).mpr matched))

end Chassis.Auth
